import Signalrr.Url.FormUrlEncoded
import Signalrr.Url.Replace

set_option relaxedAutoImplicit false
set_option autoImplicit false

/-!
# URLs

The `url` crate is not part of the sources. A URL is the record of the WHATWG URL standard, with the
standard's serializer, and the crate is a parameter: its parser and its form encoding, with what the
standard says of them.

## Main definitions

* `Signalrr.Url` — a URL, and `Signalrr.Url.serialize`, its text.
* `Signalrr.Url.Valid` — a URL of a web scheme as a parser gives it.
* `Signalrr.UrlCrate` — the functions of the crate that the client calls.
* `Signalrr.UrlCrate.Standard` — what the standard says of them.

## Main results

* `Signalrr.Url.Valid.slash_notMem_authority` — an authority has no slash.
* `Signalrr.Url.Valid.authority_last` — an authority does not end with a colon.

## Design

Host names are checked and rewritten by rules of their own (IDNA, IPv4 and IPv6 addresses), so a
host that is printed as it is parsed is a parameter, `validHost`.
-/

namespace Signalrr

/-- A condition on the characters of a text is checked one character after the other. -/
instance (priority := 2000) decidableForallMem {p : Char → Prop} [DecidablePred p]
    (text : List Char) : Decidable (∀ c ∈ text, p c) := List.decidableBAll p text

/-- `url::Url`: the parts of a URL. A path is kept as it is printed. -/
structure Url where
  scheme : String
  username : String := ""
  password : String := ""
  host : Option String
  port : Option ℕ := none
  path : String
  query : Option String := none
  fragment : Option String := none
  deriving DecidableEq, Repr

namespace Url

/-! ## Serializing -/

/-- The credentials with the sign that ends them, if there are any. -/
def credentials (u : Url) : String :=
  if u.username = "" ∧ u.password = "" then ""
  else u.username ++ (if u.password = "" then "" else ":" ++ u.password) ++ "@"

/-- A port with the colon before it. -/
def portText : Option ℕ → String
  | none => ""
  | some port => ":" ++ port.repr

/-- What stands between the two slashes and the path, where there is a host. -/
def authority (u : Url) (host : String) : String := u.credentials ++ host ++ portText u.port

/-- `Url::to_string`: the URL serializer of the standard. -/
def serialize (u : Url) : String :=
  u.scheme ++ ":" ++
    (match u.host with
      | some host => "//" ++ u.authority host
      | none => if "//".toList <+: u.path.toList then "/." else "") ++
    u.path ++
    (match u.query with
      | some query => "?" ++ query
      | none => "") ++
    (match u.fragment with
      | some fragment => "#" ++ fragment
      | none => "")

/-! ## Valid URLs -/

/-- The schemes of web pages and web sockets. -/
def webSchemes : List String := ["http", "https", "ws", "wss"]

/-- The port a scheme has by default. It is not kept in a URL. -/
def defaultPort (scheme : String) : ℕ := if scheme = "http" ∨ scheme = "ws" then 80 else 443

/-- An ASCII character that is not a control character and not a space. -/
def printable (c : Char) : Prop := 0x20 < c.toNat ∧ c.toNat < 0x7f

/-- A character outside the userinfo percent-encode set. -/
def userinfoChar (c : Char) : Prop :=
  printable c ∧ c ∉ "\"#<>?^`\x7b\x7d/:;=@[\\]|".toList

/-- A character that stays as it is in a path: it is outside the path percent-encode set, and not a
backslash, which is read as a slash. -/
def pathChar (c : Char) : Prop := printable c ∧ c ∉ "\"#<>?^`\x7b\x7d\\".toList

/-- A character outside the special-query percent-encode set. -/
def queryChar (c : Char) : Prop := printable c ∧ c ∉ "\"#<>'".toList

/-- A character outside the fragment percent-encode set. -/
def fragmentChar (c : Char) : Prop := printable c ∧ c ∉ "\"<>`".toList

instance : DecidablePred printable := fun _ => inferInstanceAs (Decidable (_ ∧ _))

instance : DecidablePred userinfoChar := fun _ => inferInstanceAs (Decidable (_ ∧ _))

instance : DecidablePred pathChar := fun _ => inferInstanceAs (Decidable (_ ∧ _))

instance : DecidablePred queryChar := fun _ => inferInstanceAs (Decidable (_ ∧ _))

instance : DecidablePred fragmentChar := fun _ => inferInstanceAs (Decidable (_ ∧ _))

/-- The segments of a path that a parser removes. -/
def dotSegments : List String :=
  [".", "%2e", "%2E", "..", ".%2e", ".%2E", "%2e.", "%2E.", "%2e%2e", "%2e%2E", "%2E%2e", "%2E%2E"]

/-- A text without a dot segment between two slashes. -/
def DotFree (text : List Char) : Prop :=
  ∀ segment ∈ dotSegments, ¬ '/' :: segment.toList ++ ['/'] <:+: text

instance : DecidablePred DotFree := fun _ =>
  inferInstanceAs (Decidable (∀ segment ∈ dotSegments, _))

/-- A URL of a web scheme as a parser gives it. -/
structure Valid (validHost : String → Prop) (u : Url) : Prop where
  scheme : u.scheme ∈ webSchemes
  username : ∀ c ∈ u.username.toList, userinfoChar c
  password : ∀ c ∈ u.password.toList, userinfoChar c
  host : ∃ host, u.host = some host ∧ validHost host
  port : ∀ port ∈ u.port, port < 65536 ∧ port ≠ defaultPort u.scheme
  pathSlash : u.path.toList.head? = some '/'
  path : ∀ c ∈ u.path.toList, pathChar c
  dotFree : DotFree (u.path.toList ++ ['/'])
  query : ∀ query ∈ u.query, ∀ c ∈ query.toList, queryChar c
  fragment : ∀ fragment ∈ u.fragment, ∀ c ∈ fragment.toList, fragmentChar c

/-- A character that is in no dot segment separates them. -/
theorem dotFree_append_cons {c : Char} (hc : c ∉ "/.%2eE".toList) (front back : List Char) :
    DotFree (front ++ c :: back) ↔ DotFree front ∧ DotFree back := by
  have hall : ∀ segment ∈ dotSegments, '/' :: segment.toList ++ ['/'] ⊆ "/.%2eE".toList := by decide
  constructor
  · intro h
    exact ⟨fun segment hmem hfront => h segment hmem
      (hfront.trans (List.prefix_append _ _).isInfix),
      fun segment hmem hback => h segment hmem
        (hback.trans ((List.suffix_cons _ _).trans (List.suffix_append _ _)).isInfix)⟩
  · rintro ⟨hfront, hback⟩ segment hmem hboth
    have hnotMem : c ∉ '/' :: segment.toList ++ ['/'] := fun h => hc (hall segment hmem h)
    rcases infix_append_cons hnotMem hboth with h | h
    · exact hfront segment hmem h
    · exact hback segment hmem h

/-- The text of a URL with a host and a query and without a fragment. -/
theorem toList_serialize {u : Url} {host query : String} (hhost : u.host = some host)
    (hquery : u.query = some query) (hfragment : u.fragment = none) :
    u.serialize.toList = u.scheme.toList ++ "://".toList ++
      ((u.authority host).toList ++ (u.path.toList ++ '?' :: query.toList)) := by
  simp [serialize, hhost, hquery, hfragment]

end Url

/-! ## The crate -/

/-- The functions of the `url` crate that the client calls: `Url::parse`, and `query_pairs` and
`append_pair` on the text of a query. -/
structure UrlCrate where
  /-- A host that is printed as it is parsed. -/
  validHost : String → Prop
  parse : String → Except String Url
  pairs : String → List (String × String)
  appendPair : String → String → String → String

namespace UrlCrate

/-- A character of form encoding: what is not escaped, and the characters of escapes and between
pairs. -/
def formChar (c : Char) : Prop := c.isAlphanum ∨ c ∈ "*-._+%&=".toList

/-- What the standard says of the crate. -/
structure Standard (crate : UrlCrate) : Prop where
  /-- A host is not empty, has no slash, and has colons in brackets only. -/
  host : ∀ host, crate.validHost host →
    host.toList ≠ [] ∧ '/' ∉ host.toList ∧ host.toList.getLast? ≠ some ':'
  /-- What is parsed is percent-encoded and normalized. -/
  parse_valid : ∀ text u, crate.parse text = .ok u → u.scheme ∈ Url.webSchemes →
    u.Valid crate.validHost
  /-- What is serialized is parsed as it was. -/
  parse_serialize : ∀ u : Url, u.Valid crate.validHost → crate.parse u.serialize = .ok u
  /-- There are no pairs in an empty query. -/
  pairs_empty : crate.pairs "" = []
  /-- A pair that is appended is read back after those before it. -/
  pairs_appendPair : ∀ query key value,
    crate.pairs (crate.appendPair query key value) = crate.pairs query ++ [(key, value)]
  /-- A pair that is appended is escaped. -/
  appendPair_chars : ∀ query key value, ∀ c ∈ (crate.appendPair query key value).toList,
    c ∈ query.toList ∨ formChar c

instance : DecidablePred formChar := fun _ => inferInstanceAs (Decidable (_ ∨ _))

/-- A letter or a digit is printable. -/
theorem printable_of_isAlphanum {c : Char} (h : c.isAlphanum) : Url.printable c := by
  have hbounds := FormUrlEncoded.bounds_of_isAlphanum h
  unfold Url.printable
  omega

/-- A character of form encoding stays as it is in a query. -/
theorem queryChar_of_formChar {c : Char} (h : formChar c) : Url.queryChar c := by
  have hothers : ∀ d ∈ "*-._+%&=".toList, Url.printable d := by decide
  have hexcluded : ∀ d ∈ "\"#<>'".toList, ¬ formChar d := by decide
  refine ⟨?_, fun hmem => hexcluded c hmem h⟩
  rcases h with halphanum | hother
  · exact printable_of_isAlphanum halphanum
  · exact hothers c hother

/-- A character of form encoding is not a slash. -/
theorem ne_slash_of_formChar {c : Char} (h : formChar c) : c ≠ '/' := by
  rintro rfl
  revert h
  decide

end UrlCrate

namespace Url

variable {crate : UrlCrate} {u : Url} {host : String}

/-- A port is a colon and digits. -/
theorem toList_portText (port : ℕ) :
    (portText (some port)).toList = ':' :: Nat.toDigits 10 port := by
  simp [portText]

/-- A port has no slash. -/
theorem slash_notMem_portText (port : Option ℕ) : '/' ∉ (portText port).toList := by
  cases port with
  | none => simp [portText]
  | some port =>
    rw [toList_portText, List.mem_cons, not_or]
    refine ⟨by decide, fun hmem => ?_⟩
    have hdigit := Nat.isDigit_of_mem_toDigits (by decide) (by decide) hmem
    revert hdigit
    decide

/-- An authority has no slash. -/
theorem Valid.slash_notMem_authority (hcrate : crate.Standard) (h : u.Valid crate.validHost)
    (hhost : u.host = some host) : '/' ∉ (u.authority host).toList := by
  obtain ⟨name, hname, hvalid⟩ := h.host
  obtain rfl : host = name := Option.some.inj (hhost.symm.trans hname)
  have huserinfo : ∀ text : String, (∀ c ∈ text.toList, userinfoChar c) → '/' ∉ text.toList :=
    fun text htext hmem => absurd (htext _ hmem) (by decide)
  have hcredentials : '/' ∉ u.credentials.toList := by
    unfold credentials
    split_ifs <;> simp [huserinfo _ h.username, huserinfo _ h.password]
  rw [authority, String.toList_append, String.toList_append, List.mem_append, List.mem_append]
  rintro ((hmem | hmem) | hmem)
  · exact hcredentials hmem
  · exact (hcrate.host host hvalid).2.1 hmem
  · exact slash_notMem_portText u.port hmem

/-- An authority does not end with a colon. -/
theorem Valid.authority_last (hcrate : crate.Standard) (h : u.Valid crate.validHost)
    (hhost : u.host = some host) : (u.authority host).toList.getLast? ≠ some ':' := by
  obtain ⟨name, hname, hvalid⟩ := h.host
  obtain rfl : host = name := Option.some.inj (hhost.symm.trans hname)
  obtain ⟨hne, -, hlast⟩ := hcrate.host host hvalid
  rw [authority, String.toList_append, String.toList_append]
  cases hport : u.port with
  | none =>
    rw [portText, String.toList_empty, List.append_nil, List.getLast?_append_of_ne_nil _ hne]
    exact hlast
  | some port =>
    rw [toList_portText, List.getLast?_append_of_ne_nil _ (List.cons_ne_nil _ _)]
    intro hcolon
    have hdigits : Nat.toDigits 10 port ≠ [] := by
      have hpos := Nat.length_toDigits_pos (b := 10) (n := port)
      exact List.ne_nil_of_length_pos hpos
    rw [List.getLast?_cons_of_ne_nil hdigits] at hcolon
    have hdigit := Nat.isDigit_of_mem_toDigits (by decide) (by decide) (List.mem_of_getLast? hcolon)
    revert hdigit
    decide

end Url

end Signalrr
