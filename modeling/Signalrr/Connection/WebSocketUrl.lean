import Signalrr.Hub.Message
import Signalrr.Url.Canonical

set_option relaxedAutoImplicit false
set_option autoImplicit false

/-!
# The URL of the web socket

`build_websocket_url` of `src/negotiate.rs` makes the URL of the web socket of that of the hub. It
replaces the scheme by two text replacements over the whole URL, so that a path with the other
scheme in it is changed as well.

## Main definitions

* `Signalrr.UrlCrate.buildWebsocketUrl` — the function, and `appendAccessToken`.
* `Signalrr.UrlCrate.ChangesOnlyWhatItMust` — the URL that should come out.
* `Signalrr.Url.keepsPath` — the path has no scheme in it that is replaced.

## Main results

* `Signalrr.UrlCrate.buildWebsocketUrl_eq` — the text that comes out, with the path it has.
* `Signalrr.UrlCrate.changesOnlyWhatItMust_iff` — it is as it should be when the path is not
  touched.
-/

namespace Signalrr

open Hub UrlCrate

/-! ## The function -/

/-- `str::replacen` with a count of one. -/
def replacen (text pattern replacement : String) : String :=
  String.ofList (replaceFirst pattern.toList replacement.toList text.toList)

/-- The characters of a text with the first match replaced. -/
theorem toList_replacen (text pattern replacement : String) :
    (replacen text pattern replacement).toList =
      replaceFirst pattern.toList replacement.toList text.toList := String.toList_ofList

namespace UrlCrate

variable (crate : UrlCrate)

/-- `Url::parse`, with its error as one of the client. -/
def parseUrl (text : String) : Except Error Url := (crate.parse text).mapError .urlParse

/-- `Url::query_pairs`. -/
def queryPairs (u : Url) : List (String × String) := crate.pairs (u.query.getD "")

/-- `append_pair` of `Url::query_pairs_mut`. -/
def pushPair (u : Url) (pair : String × String) : Url :=
  { u with query := some (crate.appendPair (u.query.getD "") pair.1 pair.2) }

/-- `append_access_token`. -/
def appendAccessToken (url : String) (accessToken : Option String) : Except Error String :=
  match accessToken.filter fun token => !token.isEmpty with
  | none => .ok url
  | some token => do
    let parsed ← crate.parseUrl url
    return (crate.pushPair parsed ("access_token", token)).serialize

/-- The pairs of the hub without `negotiateVersion`, and the connection token. -/
def keptPairs (u : Url) (connectionToken : String) : List (String × String) :=
  (crate.queryPairs u).filter (fun pair => pair.1 != "negotiateVersion") ++
    [("id", connectionToken)]

/-- `build_websocket_url`. -/
def buildWebsocketUrl (baseUrl connectionToken : String) (accessToken : Option String) :
    Except Error String := do
  let parsed ← crate.parseUrl baseUrl
  let parsed := { parsed with fragment := none }
  let queryPairs := crate.keptPairs parsed connectionToken
  let parsed := { parsed with query := none }
  let parsed := queryPairs.foldl crate.pushPair parsed
  let url := parsed.serialize
  let url := replacen url "https://" "wss://"
  let url := replacen url "http://" "ws://"
  crate.appendAccessToken url accessToken

end UrlCrate

/-! ## What should come out -/

/-- The scheme of the web socket. -/
def Url.webSocketScheme (scheme : String) : String := if scheme = "https" then "wss" else "ws"

/-- The pair of a token, if there is one and it is not empty. -/
def tokenPairs (accessToken : Option String) : List (String × String) :=
  ((accessToken.filter fun token => !token.isEmpty).map fun token => ("access_token", token)).toList

/-- The URL that comes out is that of the hub `u` with the scheme of the web socket, without a
fragment, and with the pairs it should have. -/
structure Url.ChangedOnly (crate : UrlCrate) (u v : Url) (connectionToken : String)
    (accessToken : Option String) : Prop where
  scheme : v.scheme = webSocketScheme u.scheme
  username : v.username = u.username
  password : v.password = u.password
  host : v.host = u.host
  port : v.port = u.port
  path : v.path = u.path
  fragment : v.fragment = none
  pairs : crate.queryPairs v = crate.keptPairs u connectionToken ++ tokenPairs accessToken

/-- The result for a hub URL that is parsed as `u` is a URL that differs only where it must. -/
def UrlCrate.ChangesOnlyWhatItMust (crate : UrlCrate) (baseUrl : String) (u : Url)
    (connectionToken : String) (accessToken : Option String) : Prop :=
  ∃ url v, crate.buildWebsocketUrl baseUrl connectionToken accessToken = .ok url ∧
    crate.parse url = .ok v ∧ u.ChangedOnly crate v connectionToken accessToken

/-- The scheme that is replaced besides the URL's own, with what it is replaced by. -/
def Url.otherScheme (scheme : String) : List Char × List Char :=
  if scheme = "https" then ("http://".toList, "ws://".toList)
  else ("https://".toList, "wss://".toList)

/-- A path without the other scheme: `http://` with `https`, and `https://` with `http`. -/
def Url.keepsPath (u : Url) : Prop := ¬ (otherScheme u.scheme).1 <:+: u.path.toList

instance (u : Url) : Decidable u.keepsPath := inferInstanceAs (Decidable (¬ _))

/-! ## The pairs -/

section

variable {crate : UrlCrate} (hcrate : crate.Standard)

include hcrate

/-- Pairs that are appended to a query are read back after those before, and are escaped. -/
theorem UrlCrate.exists_foldl_pushPair (u : Url) (pairs : List (String × String)) :
    ∃ query, pairs.foldl crate.pushPair u = { u with query := query } ∧
      crate.pairs (query.getD "") = crate.queryPairs u ++ pairs ∧
      (∀ c ∈ (query.getD "").toList, c ∈ (u.query.getD "").toList ∨ formChar c) ∧
      (u.query.isSome = true ∨ pairs ≠ [] → query.isSome = true) := by
  induction pairs generalizing u with
  | nil => exact ⟨u.query, rfl, by simp [queryPairs], fun c hc => .inl hc, by simp⟩
  | cons pair pairs ih =>
    obtain ⟨query, hfold, hpairs, hchars, hsome⟩ := ih (crate.pushPair u pair)
    refine ⟨query, hfold, ?_, ?_, ?_⟩
    · rw [hpairs, queryPairs, pushPair, Option.getD_some, hcrate.pairs_appendPair]
      simp [queryPairs]
    · intro c hc
      rcases hchars c hc with hbefore | hform
      · exact hcrate.appendPair_chars _ _ _ c hbefore
      · exact .inr hform
    · intro _
      exact hsome (.inl rfl)

/-- The query that is built: it has the pairs, and they are escaped. -/
theorem UrlCrate.exists_query {u : Url} (hquery : u.query = none) {pairs : List (String × String)}
    (hpairs : pairs ≠ []) :
    ∃ query : String, pairs.foldl crate.pushPair u = { u with query := some query } ∧
      crate.pairs query = pairs ∧ ∀ c ∈ query.toList, formChar c := by
  obtain ⟨query, hfold, hread, hchars, hsome⟩ := exists_foldl_pushPair hcrate u pairs
  obtain ⟨query, rfl⟩ := Option.isSome_iff_exists.mp (hsome (.inr hpairs))
  simp only [queryPairs, hquery, Option.getD_none, hcrate.pairs_empty, List.nil_append,
    Option.getD_some] at hread
  refine ⟨query, hfold, hread, fun c hc => ?_⟩
  simpa [hquery] using hchars c hc

end

/-! ## The text -/

section

variable {crate : UrlCrate} {u : Url}

/-- The URL with the scheme of the web socket, and the path with what is replaced in it. -/
def Url.replaced (u : Url) : Url :=
  { u with
    scheme := webSocketScheme u.scheme
    path := String.ofList
      (replaceFirst (otherScheme u.scheme).1 (otherScheme u.scheme).2 u.path.toList) }

/-- A scheme with its two slashes is replaced in the path only, when the text begins with the
authority. -/
theorem replaceFirst_afterScheme (hcrate : crate.Standard) (hvalid : u.Valid crate.validHost)
    {host query : String} (hhost : u.host = some host) (hquery : ∀ c ∈ query.toList, formChar c)
    (name replacement : List Char) (hname : ∀ c ∈ name, c.isAlpha) :
    replaceFirst (name ++ "://".toList) replacement
        ((u.authority host).toList ++ (u.path.toList ++ '?' :: query.toList)) =
      (u.authority host).toList ++
        (replaceFirst (name ++ "://".toList) replacement u.path.toList ++ '?' :: query.toList) := by
  have hnotMem : ∀ c, c.isAlpha = false → c ∉ name := by
    intro c hc hmem
    rw [hname c hmem] at hc
    cases hc
  have hquestion : '?' ∉ name ++ "://".toList := by
    simp [hnotMem '?' (by decide)]
  have hslash : '/' ∉ name ++ [':'] := by
    simp [hnotMem '/' (by decide)]
  have hqueryInfix : ¬ name ++ "://".toList <:+: query.toList := by
    intro h
    have hmem : '/' ∈ query.toList := h.subset (by simp)
    exact ne_slash_of_formChar (hquery _ hmem) rfl
  obtain ⟨tail, htail⟩ := List.head?_eq_some_iff.mp hvalid.pathSlash
  have hsplit : name ++ "://".toList = name ++ [':'] ++ '/' :: ['/'] := by simp
  rw [← replaceFirst_append_cons replacement hquestion (by simp) _ hqueryInfix, htail, hsplit,
    List.cons_append]
  exact replaceFirst_append_of_last replacement hslash (hvalid.slash_notMem_authority hcrate hhost)
    (hvalid.authority_last hcrate hhost) _

/-- The first replacement passes over the scheme `http`. -/
theorem replaceFirst_http (text : List Char) :
    replaceFirst "https://".toList "wss://".toList ("http".toList ++ "://".toList ++ text) =
      "http".toList ++ "://".toList ++ replaceFirst "https://".toList "wss://".toList text := by
  have hsplit : "http".toList ++ "://".toList = 'h' :: "ttp://".toList := by decide
  have hfront : ¬ "https://".toList <+: 'h' :: ("ttp://".toList ++ text) := by simp
  have hpass : replaceFirst "https://".toList "wss://".toList ("ttp://".toList ++ text) =
      "ttp://".toList ++ replaceFirst "https://".toList "wss://".toList text :=
    replaceFirst_append_of_head _ (x := 'h') (by decide) (by decide) text
  rw [hsplit, List.cons_append, replaceFirst_cons_of_mismatch _ _ hfront, hpass, List.cons_append]

/-- The two replacements change the scheme, and the path where it has the other scheme in it.

**Proof sketch.** The scheme at the front is replaced by the replacement with its name; the other
one passes over the scheme and the authority, and does not reach the query. -/
theorem replacen_serialize (hcrate : crate.Standard) (hvalid : u.Valid crate.validHost)
    (hscheme : u.scheme = "http" ∨ u.scheme = "https") {query : String}
    (hquery : u.query = some query) (hchars : ∀ c ∈ query.toList, formChar c)
    (hfragment : u.fragment = none) :
    replacen (replacen u.serialize "https://" "wss://") "http://" "ws://" =
      u.replaced.serialize := by
  obtain ⟨host, hhost, -⟩ := hvalid.host
  have htext := Url.toList_serialize hhost hquery hfragment
  have hresult : u.replaced.serialize.toList = _ :=
    Url.toList_serialize (u := u.replaced) hhost hquery hfragment
  have hauthority : u.replaced.authority host = u.authority host := rfl
  have hhttp : "http://".toList = "http".toList ++ "://".toList := by decide
  have hhttps : "https://".toList = "https".toList ++ "://".toList := by decide
  have hws : "ws".toList ++ "://".toList = "ws://".toList := by decide
  have hwss : "wss".toList ++ "://".toList = "wss://".toList := by decide
  apply String.toList_injective
  rw [hresult, toList_replacen, toList_replacen, htext, hauthority]
  rcases hscheme with hscheme | hscheme
  · have hafter := replaceFirst_afterScheme hcrate hvalid hhost hchars "https".toList
      "wss://".toList (by decide)
    rw [← hhttps] at hafter
    have hne : ¬ "http" = "https" := by decide
    rw [hscheme, replaceFirst_http, hafter, ← hhttp, replaceFirst_front]
    simp only [Url.replaced, Url.webSocketScheme, Url.otherScheme, hscheme, if_neg hne, hws,
      String.toList_ofList]
  · have hafter := replaceFirst_afterScheme hcrate hvalid hhost hchars "http".toList
      "ws://".toList (by decide)
    rw [← hhttp] at hafter
    have hpass : ∀ text, replaceFirst "http://".toList "ws://".toList ("wss://".toList ++ text) =
        "wss://".toList ++ replaceFirst "http://".toList "ws://".toList text := fun text =>
      replaceFirst_append_of_head _ (x := 'h') (by decide) (by decide) text
    rw [hscheme, ← hhttps, replaceFirst_front, hpass, hafter]
    simp only [Url.replaced, Url.webSocketScheme, Url.otherScheme, hscheme, if_true, hwss,
      String.toList_ofList]

/-- The dot segments of a path with a scheme in it are before the scheme, in it or after its
colon. -/
theorem dotFree_scheme {c : Char} (hc : c ∉ "/.%2eE".toList) (front m back : List Char) :
    Url.DotFree (front ++ (c :: m ++ "://".toList) ++ back ++ ['/']) ↔
      Url.DotFree front ∧ Url.DotFree m ∧ Url.DotFree ("//".toList ++ (back ++ ['/'])) := by
  have hsplit : front ++ (c :: m ++ "://".toList) ++ back ++ ['/'] =
      front ++ c :: (m ++ ':' :: ("//".toList ++ (back ++ ['/']))) := by simp
  rw [hsplit, Url.dotFree_append_cons hc, Url.dotFree_append_cons (by decide)]

/-- A path with a scheme replaced in it is still one: it begins with a slash, and its characters and
segments are as they should be.

**Proof sketch.** The path is cut at the letters and the colon of the scheme, which are in no dot
segment. What is before the scheme and what is after its colon stays. -/
theorem replaceFirst_path {m n path : List Char} (hchars : ∀ c ∈ 'w' :: n, Url.pathChar c)
    (hm : Url.DotFree n) (hslash : path.head? = some '/') (hpath : ∀ c ∈ path, Url.pathChar c)
    (hfree : Url.DotFree (path ++ ['/'])) :
    (replaceFirst ('h' :: m ++ "://".toList) ('w' :: n ++ "://".toList) path).head? = some '/' ∧
      (∀ c ∈ replaceFirst ('h' :: m ++ "://".toList) ('w' :: n ++ "://".toList) path,
        Url.pathChar c) ∧
      Url.DotFree (replaceFirst ('h' :: m ++ "://".toList) ('w' :: n ++ "://".toList) path ++
        ['/']) := by
  by_cases hmatch : 'h' :: m ++ "://".toList <:+: path
  · obtain ⟨front, back, rfl, hreplaced⟩ :=
      exists_replaceFirst _ ('w' :: n ++ "://".toList) hmatch
    rw [hreplaced]
    refine ⟨?_, ?_, ?_⟩
    · cases front with
      | nil => simp at hslash
      | cons c front => simpa using hslash
    · intro c hc
      have hkeep : ∀ c, c ∈ front ∨ c ∈ back → Url.pathChar c := by
        intro c hc
        apply hpath
        simp only [List.mem_append]
        tauto
      have hdelimiter : ∀ c ∈ "://".toList, Url.pathChar c := by decide
      rw [List.mem_append, List.mem_append, List.mem_append] at hc
      rcases hc with (hfront | hname | hend) | hback
      · exact hkeep c (.inl hfront)
      · exact hchars c hname
      · exact hdelimiter c hend
      · exact hkeep c (.inr hback)
    · have hold := (dotFree_scheme (by decide) front m back).mp hfree
      exact (dotFree_scheme (by decide) front n back).mpr ⟨hold.1, hm, hold.2.2⟩
  · rw [replaceFirst_eq_self _ _ hmatch]
    exact ⟨hslash, hpath, hfree⟩

/-- A path with what is replaced in it is still one. -/
theorem Url.Valid.replaced {validHost : String → Prop} (hvalid : u.Valid validHost)
    (hscheme : u.scheme = "http" ∨ u.scheme = "https") : u.replaced.Valid validHost := by
  have hpath : u.replaced.path.toList.head? = some '/' ∧
      (∀ c ∈ u.replaced.path.toList, Url.pathChar c) ∧
      Url.DotFree (u.replaced.path.toList ++ ['/']) := by
    have hhttp : "http://".toList = 'h' :: "ttp".toList ++ "://".toList := by decide
    have hhttps : "https://".toList = 'h' :: "ttps".toList ++ "://".toList := by decide
    have hws : "ws://".toList = 'w' :: "s".toList ++ "://".toList := by decide
    have hwss : "wss://".toList = 'w' :: "ss".toList ++ "://".toList := by decide
    rw [Url.replaced, String.toList_ofList]
    rcases hscheme with h | h
    · rw [h, otherScheme, if_neg (by decide), hhttps, hwss]
      exact replaceFirst_path (by decide) (by decide) hvalid.pathSlash hvalid.path hvalid.dotFree
    · rw [h, otherScheme, if_pos rfl, hhttp, hws]
      exact replaceFirst_path (by decide) (by decide) hvalid.pathSlash hvalid.path hvalid.dotFree
  exact
    { scheme := by rcases hscheme with h | h <;> simp [Url.replaced, webSocketScheme, webSchemes, h]
      username := hvalid.username
      password := hvalid.password
      host := hvalid.host
      port := by
        have hport := hvalid.port
        rcases hscheme with h | h <;>
          simpa [Url.replaced, webSocketScheme, defaultPort, h] using hport
      pathSlash := hpath.1
      path := hpath.2.1
      dotFree := hpath.2.2
      query := hvalid.query
      fragment := hvalid.fragment }

end

/-! ## The result -/

section

variable {crate : UrlCrate} {u : Url} {baseUrl : String}

/-- A valid URL with another query that is escaped, and without its fragment. -/
theorem Url.Valid.withQuery {validHost : String → Prop} (hvalid : u.Valid validHost)
    {query : String} (hchars : ∀ c ∈ query.toList, Url.queryChar c) :
    Url.Valid validHost { u with query := some query, fragment := none } :=
  { hvalid with
    query := by
      rintro _ ⟨⟩
      exact hchars
    fragment := by simp }

/-- The token is appended to the pairs of a URL, if there is one. -/
theorem UrlCrate.appendAccessToken_eq (hcrate : crate.Standard) {query : String}
    (hvalid : Url.Valid crate.validHost { u with query := some query, fragment := none })
    (accessToken : Option String) :
    ∃ appended : String,
      crate.appendAccessToken (Url.serialize { u with query := some query, fragment := none })
        accessToken = .ok (Url.serialize { u with query := some appended, fragment := none }) ∧
      Url.Valid crate.validHost { u with query := some appended, fragment := none } ∧
      crate.pairs appended = crate.pairs query ++ tokenPairs accessToken := by
  unfold appendAccessToken tokenPairs
  cases accessToken.filter fun token => !token.isEmpty with
  | none => exact ⟨query, rfl, hvalid, by simp⟩
  | some token =>
    refine ⟨crate.appendPair query "access_token" token, ?_, ?_, ?_⟩
    · rw [parseUrl, hcrate.parse_serialize _ hvalid]
      rfl
    · apply hvalid.withQuery
      intro c hc
      rcases hcrate.appendPair_chars _ _ _ c hc with hquery | hform
      · exact hvalid.query query rfl c hquery
      · exact queryChar_of_formChar hform
    · rw [hcrate.pairs_appendPair]
      rfl

/-- The text that comes out is that of the URL with what is replaced in it, without a fragment, and
with the pairs it should have. -/
theorem UrlCrate.buildWebsocketUrl_eq (hcrate : crate.Standard)
    (hparse : crate.parse baseUrl = .ok u)
    (hscheme : u.scheme = "http" ∨ u.scheme = "https") (connectionToken : String)
    (accessToken : Option String) :
    ∃ query : String,
      crate.buildWebsocketUrl baseUrl connectionToken accessToken =
        .ok (Url.serialize { u.replaced with query := some query, fragment := none }) ∧
      Url.Valid crate.validHost { u.replaced with query := some query, fragment := none } ∧
      crate.pairs query = crate.keptPairs u connectionToken ++ tokenPairs accessToken := by
  have hvalid : u.Valid crate.validHost := by
    apply hcrate.parse_valid baseUrl u hparse
    rcases hscheme with h | h <;> simp [Url.webSchemes, h]
  have hkept : crate.keptPairs u connectionToken ≠ [] := by simp [keptPairs]
  obtain ⟨query, hfold, hpairs, hchars⟩ :=
    exists_query hcrate (u := { u with query := none, fragment := none }) rfl hkept
  have hquery : ∀ c ∈ query.toList, Url.queryChar c :=
    fun c hc => queryChar_of_formChar (hchars c hc)
  have htext := replacen_serialize hcrate (hvalid.withQuery hquery) hscheme rfl hchars rfl
  obtain ⟨appended, happend, hresult, hread⟩ :=
    appendAccessToken_eq hcrate ((hvalid.replaced hscheme).withQuery hquery) accessToken
  refine ⟨appended, ?_, hresult, by rw [hread, hpairs]⟩
  rw [← happend, buildWebsocketUrl, parseUrl, hparse]
  change crate.appendAccessToken (replacen (replacen (Url.serialize
    ((crate.keptPairs u connectionToken).foldl crate.pushPair
      { u with query := none, fragment := none })) _ _) _ _) _ = _
  rw [hfold]
  exact congrArg (crate.appendAccessToken · accessToken) htext

/-- The result is as it should be exactly when what is replaced in the path leaves it as it is. -/
theorem UrlCrate.changesOnlyWhatItMust_iff_path (hcrate : crate.Standard)
    (hparse : crate.parse baseUrl = .ok u) (hscheme : u.scheme = "http" ∨ u.scheme = "https")
    (connectionToken : String) (accessToken : Option String) :
    crate.ChangesOnlyWhatItMust baseUrl u connectionToken accessToken ↔
      u.replaced.path = u.path := by
  obtain ⟨query, hbuild, hvalid, hpairs⟩ :=
    buildWebsocketUrl_eq hcrate hparse hscheme connectionToken accessToken
  constructor
  · rintro ⟨url, v, hurl, hv, hchanged⟩
    obtain rfl := Except.ok.inj (hbuild.symm.trans hurl)
    obtain rfl := Except.ok.inj ((hcrate.parse_serialize _ hvalid).symm.trans hv)
    exact hchanged.path
  · intro hsame
    exact ⟨_, _, hbuild, hcrate.parse_serialize _ hvalid,
      { scheme := rfl
        username := rfl
        password := rfl
        host := rfl
        port := rfl
        path := hsame
        fragment := rfl
        pairs := hpairs }⟩

/-- The result is as it should be exactly when the path of the hub does not have the other scheme in
it.

**Proof sketch.** By `changesOnlyWhatItMust_iff_path` it is when the path is not changed. A
replacement is shorter than what it replaces, so the path stays only without a match. -/
theorem UrlCrate.changesOnlyWhatItMust_iff (hcrate : crate.Standard)
    (hparse : crate.parse baseUrl = .ok u) (hscheme : u.scheme = "http" ∨ u.scheme = "https")
    (connectionToken : String) (accessToken : Option String) :
    crate.ChangesOnlyWhatItMust baseUrl u connectionToken accessToken ↔ u.keepsPath := by
  have hlength : (Url.otherScheme u.scheme).2.length < (Url.otherScheme u.scheme).1.length := by
    unfold Url.otherScheme
    split_ifs <;> decide
  rw [changesOnlyWhatItMust_iff_path hcrate hparse hscheme, ← String.toList_inj, Url.replaced,
    String.toList_ofList, replaceFirst_eq_self_iff _ _ hlength]
  rfl

end

/-- The URL of a hub with a query. -/
def exampleHub : Url :=
  { scheme := "https", host := some "example.com", path := "/signalr", query := some "client=web" }

/-- A hub without another scheme in its path. -/
theorem UrlCrate.changesOnlyWhatItMust_example :
    CanonicalUrl.crate.ChangesOnlyWhatItMust "https://example.com/signalr?client=web" exampleHub
      "connection-token" (some "jwt") := by
  have hparse : CanonicalUrl.crate.parse exampleHub.serialize = .ok exampleHub :=
    CanonicalUrl.crate_parse_serialize (by decide)
  have htext : exampleHub.serialize = "https://example.com/signalr?client=web" := by decide
  rw [htext] at hparse
  exact (changesOnlyWhatItMust_iff CanonicalUrl.crate_standard hparse
    (.inr rfl) _ _).mpr (by decide)

/-- The URL of a hub behind a proxy that has the URL of the hub in its path. -/
def proxiedHub : Url :=
  { scheme := "https", host := some "example.com", path := "/proxy/http://hub" }

/-- The path of a hub is changed when it has another scheme in it. -/
theorem UrlCrate.not_changesOnlyWhatItMust_proxied :
    CanonicalUrl.crate.parse "https://example.com/proxy/http://hub" = .ok proxiedHub ∧
      ¬ CanonicalUrl.crate.ChangesOnlyWhatItMust "https://example.com/proxy/http://hub" proxiedHub
        "connection-token" none := by
  have hparse : CanonicalUrl.crate.parse proxiedHub.serialize = .ok proxiedHub :=
    CanonicalUrl.crate_parse_serialize (by decide)
  have htext : proxiedHub.serialize = "https://example.com/proxy/http://hub" := by decide
  rw [htext] at hparse
  refine ⟨hparse, fun h => ?_⟩
  have hpath := (changesOnlyWhatItMust_iff_path CanonicalUrl.crate_standard hparse
    (.inr rfl) _ _).mp h
  exact absurd hpath (by decide)

end Signalrr
