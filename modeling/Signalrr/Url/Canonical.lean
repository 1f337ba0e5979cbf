import Signalrr.Hub.JsonValue
import Signalrr.Url.FormUrlEncoded
import Signalrr.Url.Record

set_option relaxedAutoImplicit false
set_option autoImplicit false

/-!
# Canonical URLs

A crate that parses the URLs that are printed as they are parsed, with plain host names, and refuses
all others. It has what the standard says of the `url` crate.

## Main definitions

* `Signalrr.CanonicalUrl.read` — the parts of a text, cut at the delimiters of a URL.
* `Signalrr.CanonicalUrl.crate` — the crate.

## Main results

* `Signalrr.CanonicalUrl.read_serialize` — a valid URL is read back as it is.
* `Signalrr.CanonicalUrl.crate_standard` — the crate is a standard one.
-/

namespace Signalrr.CanonicalUrl

open Hub Url UrlCrate

/-! ## Reading -/

/-- A plain host name: lower-case letters, dots and hyphens. -/
def plainHost (host : String) : Prop :=
  host.toList ≠ [] ∧ ∀ c ∈ host.toList, c.isLower ∨ c = '.' ∨ c = '-'

instance : DecidablePred plainHost := fun _ => inferInstanceAs (Decidable (_ ∧ _))

/-- A text before the first delimiter, and from it on. -/
def cut (delimiter : Char) (text : List Char) : List Char × List Char :=
  (text.takeWhile (· != delimiter), text.dropWhile (· != delimiter))

/-- A part that may be missing, after its delimiter. -/
def part (delimiter : Char) : Option String → List Char
  | none => []
  | some text => delimiter :: text.toList

/-- A part after its delimiter. -/
def after : List Char → Option String
  | [] => none
  | _ :: text => some (String.ofList text)

/-- The parts of a text. -/
def read (text : List Char) : Url :=
  let (text, fragment) := cut '#' text
  let (text, query) := cut '?' text
  let (scheme, text) := cut ':' text
  let (authority, path) := cut '/' (text.drop 3)
  let (credentials, host) :=
    if '@' ∈ authority then ((cut '@' authority).1, (cut '@' authority).2.drop 1)
    else ([], authority)
  let (username, password) := cut ':' credentials
  let (host, port) := cut ':' host
  { scheme := String.ofList scheme
    username := String.ofList username
    password := String.ofList (password.drop 1)
    host := some (String.ofList host)
    port := (after port).map fun digits => Nat.ofDigitChars 10 digits.toList 0
    path := String.ofList path
    query := after query
    fragment := after fragment }

/-- A part is after its delimiter. -/
@[simp]
theorem after_part (delimiter : Char) (text : Option String) :
    after (part delimiter text) = text := by
  cases text <;> simp [after, part]

/-- A text is cut before a part, if the delimiter is not in front of it. -/
theorem cut_part {delimiter : Char} {text : List Char} (h : delimiter ∉ text)
    (rest : Option String) :
    cut delimiter (text ++ part delimiter rest) = (text, part delimiter rest) := by
  have htext : ∀ c ∈ text, (c != delimiter) = true := by
    intro c hc
    rw [bne_iff_ne]
    rintro rfl
    exact h hc
  unfold cut
  rw [List.takeWhile_append_of_pos htext, List.dropWhile_append_of_pos htext]
  cases rest <;> simp [part]

/-- A text is cut at the first delimiter. -/
theorem cut_cons {delimiter : Char} {text : List Char} (h : delimiter ∉ text) (rest : List Char) :
    cut delimiter (text ++ delimiter :: rest) = (text, delimiter :: rest) := by
  have hcut := cut_part h (some (String.ofList rest))
  rwa [part, String.toList_ofList] at hcut

/-! ## Reading what has been printed -/

section

variable {u : Url}

/-- A password that is not empty. -/
def givenPassword (u : Url) : Option String := if u.password = "" then none else some u.password

/-- The user name and the password are read back. -/
theorem cut_credentials (h : ∀ c ∈ u.username.toList, userinfoChar c) :
    cut ':' (u.username.toList ++ part ':' (givenPassword u)) =
      (u.username.toList, part ':' (givenPassword u)) := by
  have hcolon : ':' ∉ u.username.toList := fun hmem => absurd (h _ hmem) (by decide)
  exact cut_part hcolon _

/-- The password is after its colon. -/
theorem drop_part_givenPassword : (part ':' (givenPassword u)).drop 1 = u.password.toList := by
  unfold givenPassword
  split_ifs with h
  · simp [part, h]
  · rfl

/-- The credentials of a URL that has some. -/
theorem toList_credentials (h : ¬ (u.username = "" ∧ u.password = "")) :
    u.credentials.toList = u.username.toList ++ part ':' (givenPassword u) ++ ['@'] := by
  rw [credentials, if_neg h]
  unfold givenPassword
  split_ifs with hpassword <;> simp [part]

/-- A port is after its colon. -/
theorem toList_portText_eq (port : Option ℕ) :
    (portText port).toList = part ':' (port.map Nat.repr) := by
  cases port <;> simp [portText, part]

/-- The signs of an authority are not in a plain host with a port. -/
theorem notMem_hostPort {host : String} (hhost : plainHost host) (port : Option ℕ) {c : Char}
    (hc : c ∈ "@#?/".toList) : c ∉ host.toList ++ (portText port).toList := by
  have hplain : ∀ d ∈ "@#?/".toList, ¬ (d.isLower ∨ d = '.' ∨ d = '-') := by decide
  have hdigit : ∀ d ∈ "@#?/".toList, ¬ (d = ':' ∨ d.isDigit) := by decide
  rw [List.mem_append]
  rintro (hmem | hmem)
  · exact hplain c hc (hhost.2 c hmem)
  · cases port with
    | none => simp [portText] at hmem
    | some port =>
      rw [toList_portText, List.mem_cons] at hmem
      exact hdigit c hc (hmem.imp_right (Nat.isDigit_of_mem_toDigits (by decide) (by decide)))

/-- The signs around an authority are not in it. -/
theorem notMem_authority (hvalid : u.Valid plainHost) {host : String} (hhost : plainHost host)
    {c : Char} (hc : c ∈ "#?/".toList) : c ∉ (u.authority host).toList := by
  have huserinfo : ∀ d ∈ "#?/".toList, ¬ userinfoChar d := by decide
  have hsigns : ∀ d ∈ "#?/".toList, d ≠ ':' ∧ d ≠ '@' ∧ d ∈ "@#?/".toList := by decide
  obtain ⟨hcolon, hat, hmem⟩ := hsigns c hc
  have hrest := notMem_hostPort hhost u.port hmem
  have husername : c ∉ u.username.toList := fun h => huserinfo c hc (hvalid.username c h)
  have hpassword : c ∉ u.password.toList := fun h => huserinfo c hc (hvalid.password c h)
  have hcredentials : c ∉ u.credentials.toList := by
    unfold credentials
    split_ifs <;> simp [husername, hpassword, hcolon, hat]
  rw [authority, String.toList_append, String.toList_append, List.append_assoc, List.mem_append]
  exact not_or.mpr ⟨hcredentials, hrest⟩

/-- The credentials are before the at sign, if there is one. -/
theorem cut_authority (hvalid : u.Valid plainHost) {host : String} (hhost : plainHost host) :
    (if '@' ∈ (u.authority host).toList then
        ((cut '@' (u.authority host).toList).1, (cut '@' (u.authority host).toList).2.drop 1)
      else ([], (u.authority host).toList)) =
      (u.username.toList ++ part ':' (givenPassword u),
        host.toList ++ part ':' (u.port.map Nat.repr)) := by
  have hrest := notMem_hostPort hhost u.port (c := '@') (by decide)
  by_cases hnone : u.username = "" ∧ u.password = ""
  · have hauthority : (u.authority host).toList = host.toList ++ (portText u.port).toList := by
      simp [authority, credentials, hnone]
    rw [hauthority, if_neg hrest, toList_portText_eq]
    simp [givenPassword, hnone, part]
  · have hauthority : (u.authority host).toList =
        (u.username.toList ++ part ':' (givenPassword u)) ++
        '@' :: (host.toList ++ (portText u.port).toList) := by
      simp [authority, toList_credentials hnone]
    have hat : '@' ∉ u.username.toList ++ part ':' (givenPassword u) := by
      have husername : '@' ∉ u.username.toList := fun h => absurd (hvalid.username _ h) (by decide)
      have hpassword : '@' ∉ u.password.toList := fun h => absurd (hvalid.password _ h) (by decide)
      unfold givenPassword
      split_ifs <;> simp [part, husername, hpassword]
    rw [hauthority, if_pos (by simp), cut_cons hat, toList_portText_eq]
    rfl

/-- A port is read back. -/
theorem map_ofDigitChars (port : Option ℕ) :
    ((port.map Nat.repr).map fun digits => Nat.ofDigitChars 10 digits.toList 0) = port := by
  cases port with
  | none => rfl
  | some port =>
    rw [Option.map_some, Option.map_some, Nat.toList_repr,
      Nat.ofDigitChars_toDigits (by decide) (by decide)]

/-- The text of a URL with a host, by its parts. -/
theorem toList_serialize_parts {host : String} (hsome : u.host = some host) :
    u.serialize.toList =
      u.scheme.toList ++ ':' :: ("//".toList ++ (u.authority host).toList ++ u.path.toList) ++
        part '?' u.query ++ part '#' u.fragment := by
  cases hquery : u.query <;> cases hfragment : u.fragment <;>
    simp [Url.serialize, hsome, hquery, hfragment, part]

/-- A valid URL is read back as it is.

**Proof sketch.** The delimiters of each part are not in the parts before it: they are
percent-encoded in a path and a query, and not allowed in an authority and a scheme. -/
theorem read_serialize (hvalid : u.Valid plainHost) : read u.serialize.toList = u := by
  obtain ⟨host, hsome, hhost⟩ := hvalid.host
  have hscheme : ∀ d ∈ "#?:".toList, d ∉ u.scheme.toList := by
    have hall : ∀ scheme ∈ webSchemes, ∀ d ∈ "#?:".toList, d ∉ scheme.toList := by decide
    exact hall u.scheme hvalid.scheme
  have hpath : ∀ d ∈ "#?".toList, d ∉ u.path.toList := fun d hd hmem => by
    have hexcluded : ∀ d ∈ "#?".toList, ¬ pathChar d := by decide
    exact hexcluded d hd (hvalid.path d hmem)
  have hauthority : ∀ d ∈ "#?/".toList, d ∉ (u.authority host).toList :=
    fun d hd => notMem_authority hvalid hhost hd
  have hquery : '#' ∉ part '?' u.query := by
    cases hsomeQuery : u.query with
    | none => simp [part]
    | some query =>
      have hchars : '#' ∉ query.toList := fun hmem =>
        absurd (hvalid.query query hsomeQuery _ hmem) (by decide)
      simp [part, hchars]
  obtain ⟨tail, htail⟩ := List.head?_eq_some_iff.mp hvalid.pathSlash
  have hfront : ∀ d ∈ "#?".toList, d ∉ u.scheme.toList ++
      ':' :: ("//".toList ++ (u.authority host).toList ++ u.path.toList) := by
    intro d hd
    have hsigns : ∀ d ∈ "#?".toList,
        d ≠ ':' ∧ d ∉ "//".toList ∧ d ∈ "#?:".toList ∧ d ∈ "#?/".toList := by
      decide
    obtain ⟨hcolon, hslashes, hmemScheme, hmemAuthority⟩ := hsigns d hd
    simp only [List.mem_append, List.mem_cons, not_or]
    exact ⟨hscheme d hmemScheme, hcolon, ⟨hslashes, hauthority d hmemAuthority⟩, hpath d hd⟩
  have hbefore : '#' ∉ u.scheme.toList ++
      ':' :: ("//".toList ++ (u.authority host).toList ++ u.path.toList) ++ part '?' u.query := by
    rw [List.mem_append]
    exact not_or.mpr ⟨hfront '#' (by decide), hquery⟩
  have hhostColon : ':' ∉ host.toList := fun hmem => absurd (hhost.2 _ hmem) (by decide)
  have hcutFragment := cut_part hbefore u.fragment
  have hcutQuery := cut_part (hfront '?' (by decide)) u.query
  have hcutScheme := cut_cons (hscheme ':' (by decide))
    ("//".toList ++ (u.authority host).toList ++ u.path.toList)
  have hcutAuthority := cut_cons (hauthority '/' (by decide)) tail
  have hdrop : (':' :: ("//".toList ++ (u.authority host).toList ++ u.path.toList)).drop 3 =
      (u.authority host).toList ++ u.path.toList := by simp
  have hcutHost := cut_part hhostColon (u.port.map Nat.repr)
  rw [← htail] at hcutAuthority
  unfold read
  rw [toList_serialize_parts hsome]
  simp only [hcutFragment, hcutQuery, hcutScheme, hdrop, hcutAuthority, cut_authority hvalid hhost,
    cut_credentials hvalid.username, hcutHost, drop_part_givenPassword, after_part,
    map_ofDigitChars, String.ofList_toList]
  rw [← hsome]

end

/-! ## The crate -/

/-- Validity, part by part. -/
theorem valid_iff (u : Url) :
    (u.scheme ∈ webSchemes ∧ (∀ c ∈ u.username.toList, userinfoChar c) ∧
      (∀ c ∈ u.password.toList, userinfoChar c) ∧ (∃ host ∈ u.host, plainHost host) ∧
      (∀ port ∈ u.port, port < 65536 ∧ port ≠ defaultPort u.scheme) ∧
      u.path.toList.head? = some '/' ∧ (∀ c ∈ u.path.toList, pathChar c) ∧
      DotFree (u.path.toList ++ ['/']) ∧ (∀ query ∈ u.query, ∀ c ∈ query.toList, queryChar c) ∧
      (∀ fragment ∈ u.fragment, ∀ c ∈ fragment.toList, fragmentChar c)) ↔
      u.Valid plainHost := by
  constructor
  · rintro ⟨hscheme, husername, hpassword, hhost, hport, hslash, hpath, hfree, hquery, hfragment⟩
    exact ⟨hscheme, husername, hpassword, hhost, hport, hslash, hpath, hfree, hquery, hfragment⟩
  · intro h
    exact ⟨h.scheme, h.username, h.password, h.host, h.port, h.pathSlash, h.path, h.dotFree,
      h.query, h.fragment⟩

instance (u : Url) : Decidable (u.Valid plainHost) := decidable_of_iff _ (valid_iff u)

/-- The text of bytes that are its UTF-8. -/
def textOf (bytes : List UInt8) : String := (ofUtf8 bytes).getD ""

/-- A crate that parses canonical URLs and refuses all others, with form encoding. -/
def crate : UrlCrate where
  validHost := plainHost
  parse text :=
    let u := read text.toList
    if u.Valid plainHost ∧ u.serialize = text then .ok u else .error "not a canonical URL"
  pairs query :=
    (FormUrlEncoded.parse query.toList).map fun pair => (textOf pair.1, textOf pair.2)
  appendPair query key value :=
    String.ofList (FormUrlEncoded.append query.toList (utf8 key) (utf8 value))

/-- A valid URL is parsed as it was. -/
theorem crate_parse_serialize {u : Url} (hvalid : u.Valid plainHost) :
    crate.parse u.serialize = .ok u := by
  have hread := read_serialize hvalid
  simp only [crate, hread]
  rw [if_pos ⟨hvalid, trivial⟩]

/-- The crate is a standard one. -/
theorem crate_standard : crate.Standard where
  host := by
    intro host hhost
    have hslash : '/' ∉ host.toList := fun hmem => absurd (hhost.2 _ hmem) (by decide)
    refine ⟨hhost.1, hslash, fun hlast => ?_⟩
    exact absurd (hhost.2 _ (List.mem_of_getLast? hlast)) (by decide)
  parse_valid := by
    intro text u hparse _
    simp only [crate] at hparse
    split_ifs at hparse with hvalid
    obtain rfl := Except.ok.inj hparse
    exact hvalid.1
  parse_serialize := fun u hvalid => crate_parse_serialize hvalid
  pairs_empty := rfl
  pairs_appendPair := by
    intro query key value
    simp [crate, FormUrlEncoded.parse_append, textOf]
  appendPair_chars := by
    intro query key value c hc
    rw [crate, String.toList_ofList] at hc
    refine (FormUrlEncoded.mem_append hc).imp_right fun h => ?_
    rcases h with (hunescaped | rfl | rfl) | rfl | rfl
    · have hothers : ∀ d ∈ "*-._".toList, formChar d := by decide
      rcases Bool.or_eq_true_iff.mp hunescaped with halphanum | hother
      · exact .inl halphanum
      · exact hothers c (List.contains_iff_mem.mp hother)
    all_goals decide

end Signalrr.CanonicalUrl
