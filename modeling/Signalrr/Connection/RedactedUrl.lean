import Signalrr.Connection.WebSocketUrl

set_option relaxedAutoImplicit false
set_option autoImplicit false

/-!
# URLs in logs

An access token is part of the URL of the web socket. `redact_access_token` of
`src/transport/mod.rs` makes the text that is logged of such a URL: it reads the pairs of the query,
replaces the values of the tokens and writes a new query.

## Main definitions

* `Signalrr.UrlCrate.redactAccessToken` — the function.
* `Signalrr.UrlCrate.masked` — a pair with its value replaced, if it is a token.
* `Signalrr.UrlCrate.webSocketUrl` — the URL of a web socket with some query.

## Main results

* `Signalrr.UrlCrate.redactAccessToken_eq_self` — a URL without a token is logged as it is.
* `Signalrr.UrlCrate.exists_redactAccessToken` — a URL with a token is logged with its value masked.
* `Signalrr.UrlCrate.redacts_buildWebsocketUrl` — the log does not depend on the access token, and
  is the URL with the token masked.
-/

namespace Signalrr

open Hub UrlCrate

namespace UrlCrate

/-! ## The function -/

/-- The key of an access token. -/
def isToken (pair : String × String) : Bool := pair.1 == "access_token"

/-- A pair with its value replaced, if it is a token. -/
def masked (pair : String × String) : String × String :=
  if isToken pair then (pair.1, "***") else pair

/-- `redact_access_token`. -/
def redactAccessToken (crate : UrlCrate) (url : String) : String :=
  match crate.parse url with
  | .error _ => "<unparsable url>"
  | .ok parsed =>
    if (crate.queryPairs parsed).any isToken then
      (((crate.queryPairs parsed).map masked).foldl crate.pushPair
        { parsed with query := some "" }).serialize
    else url

/-! ## What is logged -/

variable {crate : UrlCrate} {u : Url} {url : String}

/-- A URL without a token is logged as it is. -/
lemma redactAccessToken_eq_self (hparse : crate.parse url = .ok u)
    (hnone : ∀ pair ∈ crate.queryPairs u, isToken pair = false) :
    crate.redactAccessToken url = url := by
  have hany : (crate.queryPairs u).any isToken = false := by simpa using hnone
  rw [redactAccessToken, hparse]
  exact if_neg (by simp [hany])

/-- The URL that is logged when there is a token. -/
lemma redactAccessToken_eq (hparse : crate.parse url = .ok u)
    (hsome : ∃ pair ∈ crate.queryPairs u, isToken pair = true) :
    crate.redactAccessToken url =
      (((crate.queryPairs u).map masked).foldl crate.pushPair
        { u with query := some "" }).serialize := by
  rw [redactAccessToken, hparse]
  exact if_pos (List.any_eq_true.mpr hsome)

/-- A URL with a token is logged with its value masked, and with nothing else changed. -/
lemma exists_redactAccessToken (hcrate : crate.Standard) (hparse : crate.parse url = .ok u)
    (hscheme : u.scheme ∈ Url.webSchemes)
    (hsome : ∃ pair ∈ crate.queryPairs u, isToken pair = true) :
    ∃ query : String,
      crate.redactAccessToken url = Url.serialize { u with query := some query } ∧
        Url.Valid crate.validHost { u with query := some query } ∧
          crate.pairs query = (crate.queryPairs u).map masked := by
  obtain ⟨query, hfold, hpairs, hchars, hquery⟩ :=
    exists_foldl_pushPair hcrate { u with query := some "" } ((crate.queryPairs u).map masked)
  obtain ⟨query, rfl⟩ := Option.isSome_iff_exists.mp (hquery (.inl rfl))
  have hvalid : Url.Valid crate.validHost { u with query := some query } :=
    { hcrate.parse_valid url u hparse hscheme with
      query := by
        rintro _ ⟨⟩ c hc
        rcases hchars c hc with hbefore | hform
        · simp at hbefore
        · exact queryChar_of_formChar hform }
  refine ⟨query, ?_, hvalid, ?_⟩
  · rw [redactAccessToken_eq hparse hsome, hfold]
  · rw [Option.getD_some] at hpairs
    rw [hpairs, queryPairs, Option.getD_some, hcrate.pairs_empty, List.nil_append]

/-- The log depends on the masked pairs alone, for URLs that differ in their queries. -/
lemma redactAccessToken_congr {u' : Url} {url' : String} (hparse : crate.parse url = .ok u)
    (hparse' : crate.parse url' = .ok u')
    (hsome : ∃ pair ∈ crate.queryPairs u, isToken pair = true)
    (hsome' : ∃ pair ∈ crate.queryPairs u', isToken pair = true)
    (hurl : { u with query := some "" } = { u' with query := some "" })
    (hpairs : (crate.queryPairs u).map masked = (crate.queryPairs u').map masked) :
    crate.redactAccessToken url = crate.redactAccessToken url' := by
  rw [redactAccessToken_eq hparse hsome, redactAccessToken_eq hparse' hsome', hpairs, hurl]

/-- The token of a web socket is a token. -/
lemma tokenPairs_some {token : String} (htoken : token ≠ "") :
    tokenPairs (some token) = [("access_token", token)] := by
  simp [tokenPairs, htoken]

/-- The URL of a web socket to a hub, with a query of its own and without a fragment. -/
def webSocketUrl (u : Url) (query : String) : Url :=
  { u.replaced with query := some query, fragment := none }

/-- There is a token in the query of a web socket URL. -/
lemma exists_isToken {sent token : String} {kept : List (String × String)}
    (hpairs : crate.pairs sent = kept ++ [("access_token", token)]) :
    ∃ pair ∈ crate.queryPairs (webSocketUrl u sent), isToken pair = true := by
  refine ⟨("access_token", token), ?_, rfl⟩
  change ("access_token", token) ∈ crate.pairs sent
  rw [hpairs]
  exact List.mem_append_right _ (List.mem_singleton_self _)

/-- The pairs of a web socket URL, with the token masked. -/
lemma map_masked {sent token : String} {kept : List (String × String)}
    (hpairs : crate.pairs sent = kept ++ [("access_token", token)]) :
    (crate.queryPairs (webSocketUrl u sent)).map masked =
      kept.map masked ++ [("access_token", "***")] := by
  change (crate.pairs sent).map masked = _
  rw [hpairs, List.map_append]
  rfl

/-- **Access tokens are not logged.** For every hub with `http` or `https` and every token, what is
logged of the URL of a web socket is that URL with another query, which has the same pairs with the
tokens masked. It is the same for all tokens.

**Proof sketch.** The URLs for two tokens differ in the last pair of the query, and the query that
is logged is made of the masked pairs alone. -/
theorem redacts_buildWebsocketUrl (hcrate : crate.Standard) {baseUrl : String}
    (hparse : crate.parse baseUrl = .ok u) (hscheme : u.scheme = "http" ∨ u.scheme = "https")
    (connectionToken : String) :
    ∃ query : String,
      crate.pairs query =
        (crate.keptPairs u connectionToken).map masked ++ [("access_token", "***")] ∧
      crate.parse (webSocketUrl u query).serialize = .ok (webSocketUrl u query) ∧
      ∀ token, token ≠ "" → ∃ sent : String,
        crate.pairs sent = crate.keptPairs u connectionToken ++ [("access_token", token)] ∧
        crate.buildWebsocketUrl baseUrl connectionToken (some token) =
          .ok (webSocketUrl u sent).serialize ∧
        crate.redactAccessToken (webSocketUrl u sent).serialize =
          (webSocketUrl u query).serialize := by
  have hbuilt : ∀ token, token ≠ "" → ∃ sent : String,
      crate.buildWebsocketUrl baseUrl connectionToken (some token) =
          .ok (webSocketUrl u sent).serialize ∧
        (webSocketUrl u sent).Valid crate.validHost ∧
          crate.pairs sent = crate.keptPairs u connectionToken ++ [("access_token", token)] := by
    intro token htoken
    rw [← tokenPairs_some htoken]
    exact buildWebsocketUrl_eq hcrate hparse hscheme connectionToken (some token)
  -- the log for one token, and then for the others
  obtain ⟨sent, -, hvalid, hpairs⟩ := hbuilt "***" (by decide)
  have hparsed := hcrate.parse_serialize _ hvalid
  obtain ⟨query, hlogged, hvalidLogged, hread⟩ :=
    exists_redactAccessToken hcrate hparsed hvalid.scheme (exists_isToken hpairs)
  rw [map_masked hpairs] at hread
  refine ⟨query, hread, hcrate.parse_serialize _ hvalidLogged, fun token htoken => ?_⟩
  obtain ⟨sent', hbuild', hvalid', hpairs'⟩ := hbuilt token htoken
  refine ⟨sent', hpairs', hbuild', ?_⟩
  rw [redactAccessToken_congr (hcrate.parse_serialize _ hvalid') hparsed (exists_isToken hpairs')
    (exists_isToken hpairs) rfl (by rw [map_masked hpairs', map_masked hpairs])]
  exact hlogged

/-- The hub of the examples: the token is not in the log, and the pair of its query is. -/
theorem redacts_buildWebsocketUrl_example :
    ∃ query : String,
      CanonicalUrl.crate.pairs query =
        [("client", "web"), ("id", "connection-token"), ("access_token", "***")] ∧
      ∀ token, token ≠ "" → ∃ url,
        CanonicalUrl.crate.buildWebsocketUrl "https://example.com/signalr?client=web"
          "connection-token" (some token) = .ok url ∧
        CanonicalUrl.crate.redactAccessToken url =
          Url.serialize
            { scheme := "wss", host := some "example.com", path := "/signalr",
              query := some query } := by
  have hparse : CanonicalUrl.crate.parse exampleHub.serialize = .ok exampleHub :=
    CanonicalUrl.crate_parse_serialize (by decide)
  have htext : exampleHub.serialize = "https://example.com/signalr?client=web" := by decide
  rw [htext] at hparse
  obtain ⟨query, hpairs, -, hlogged⟩ :=
    redacts_buildWebsocketUrl CanonicalUrl.crate_standard hparse (.inr rfl) "connection-token"
  have hclient : CanonicalUrl.crate.queryPairs exampleHub = [("client", "web")] := by
    have happend : CanonicalUrl.crate.appendPair "" "client" "web" = "client=web" := by decide
    change CanonicalUrl.crate.pairs "client=web" = _
    rw [← happend, CanonicalUrl.crate_standard.pairs_appendPair,
      CanonicalUrl.crate_standard.pairs_empty, List.nil_append]
  have hkept : (CanonicalUrl.crate.keptPairs exampleHub "connection-token").map masked =
      [("client", "web"), ("id", "connection-token")] := by
    rw [keptPairs, hclient]
    decide
  have hpath : exampleHub.replaced.path = "/signalr" := by decide
  have hurl : webSocketUrl exampleHub query =
      { scheme := "wss", host := some "example.com", path := "/signalr", query := some query } := by
    rw [← hpath]
    rfl
  rw [hkept] at hpairs
  refine ⟨query, hpairs, fun token htoken => ?_⟩
  obtain ⟨sent, -, hbuild, hredact⟩ := hlogged token htoken
  rw [hurl] at hredact
  exact ⟨_, hbuild, hredact⟩

end UrlCrate

end Signalrr
