import Mathlib.Tactic.SplitIfs
import TextSocket.Url.Parser

/-!
# `Proofs.Url.Normal` — what is left in a normal form

Whoever cuts the written form of a URL at its signs must find the parts that the URL has. So none of the signs may be
left within a part: **the authority of a URL of the web holds no slash, no question mark and no number sign, and the sign
of the credentials only behind them; its path begins with a slash and holds only characters that a path allows, and so
does its query** (`isNormal_of_parse`). Encoding sees to the credentials, the path and the query (`escape_encode`), and
every form of a host has its own reason.

## Contents

* `escape_encode` — nothing that has to be encoded is left;
* `Stays`, `Bare` — texts within an authority: numbers, addresses, names, credentials;
* `hostAndPort`, `IsFront` — the two parts of an authority;
* `visible_of_path`, `walk_ne_nil`, `forall_rooted` — paths;
* `readAuthority_ok`, `parse_ok` — where a URL of the web comes from;
* `IsNormal`, `isNormal_of_parse` — the main result.
-/

namespace TextSocket

/-! ## Results that go through -/

section Bind

variable {ε α β : Type} {first other : Except ε α} {next : α → Except ε β} {b : β}

theorem ok_of_bind (h : first >>= next = .ok b) : ∃ a, first = .ok a ∧ next a = .ok b := by
  cases first with
  | error cause => cases h
  | ok a => exact ⟨a, rfl, h⟩

theorem ok_of_ite_bind {p : Prop} [Decidable p] (h : (if p then first >>= next else other >>= next) = .ok b) :
    ∃ a, (if p then first else other) = .ok a ∧ next a = .ok b := by
  by_cases hp : p
  · rw [if_pos hp] at h ⊢
    exact ok_of_bind h
  · rw [if_neg hp] at h ⊢
    exact ok_of_bind h

end Bind

namespace Url

/-! ## Percent signs -/

/-- The characters that encoding puts in place of others. -/
def encodingChars : List Char := "%0123456789ABCDEF".toList

theorem mem_encode {escape : Char → Bool} {text : List Char} {c : Char} (h : c ∈ encode escape text) :
    escape c = false ∨ c ∈ encodingChars := by
  have digit : ∀ n < 16, upperHexDigit n ∈ encodingChars := by decide
  obtain ⟨d, -, hd⟩ := List.mem_flatMap.1 h
  unfold encodeChar at hd
  split at hd
  case isTrue =>
    obtain ⟨b, -, hb⟩ := List.mem_flatMap.1 hd
    have hbyte := b.toNat_lt
    simp only [encodeByte, List.mem_cons, List.not_mem_nil, or_false] at hb
    rcases hb with rfl | rfl | rfl
    · exact .inr List.mem_cons_self
    · exact .inr (digit _ (by omega))
    · exact .inr (digit _ (by omega))
  case isFalse hplain =>
    obtain rfl := List.mem_singleton.1 hd
    exact .inl (Bool.eq_false_iff.2 hplain)

/-- **Nothing that has to be encoded is left**, if the characters of the encoding need not be encoded themselves. -/
theorem escape_encode {escape : Char → Bool} (hplain : encodingChars.any escape = false) {text : List Char} :
    ∀ c ∈ encode escape text, escape c = false := by
  intro c hc
  rcases mem_encode hc with h | h
  · exact h
  · exact Bool.eq_false_iff.2 (List.any_eq_false.1 hplain c h)

/-! ## Texts within an authority -/

theorem forall_append {P : Char → Prop} {a b : String} (ha : ∀ c ∈ a.toList, P c) (hb : ∀ c ∈ b.toList, P c) :
    ∀ c ∈ (a ++ b).toList, P c := by
  rw [String.toList_append]
  exact List.forall_mem_append.2 ⟨ha, hb⟩

/-- A text that does not end an authority. -/
def Stays (text : String) : Prop := ∀ c ∈ text.toList, endsAuthority false c = false

theorem Stays.append {a b : String} (ha : Stays a) (hb : Stays b) : Stays (a ++ b) := forall_append ha hb

/-- The signs that end an authority, and the one that ends the credentials in it. -/
def signs : List Char := ['/', '?', '#', '@']

/-- A text without signs. -/
def Bare (text : String) : Prop := ∀ c ∈ text.toList, c ∉ signs

instance (text : String) : Decidable (Bare text) :=
  decidable_of_iff (text.toList.all (!signs.contains ·) = true) (by simp [Bare])

theorem Bare.append {a b : String} (ha : Bare a) (hb : Bare b) : Bare (a ++ b) := forall_append ha hb

theorem Bare.stays {text : String} (h : Bare text) : Stays text := by
  intro c hc
  rw [Bool.eq_false_iff]
  intro hends
  -- what ends an authority is one of the signs
  have hsign : c ∈ ['/', '?', '#'] := by simpa [endsAuthority, isSlash, or_assoc] using hends
  exact h c hc (List.mem_append_left ['@'] hsign)

/-! ### Numbers -/

theorem mem_toDigits {base n : Nat} (hbase : 1 < base) {c : Char} (h : c ∈ Nat.toDigits base n) :
    ∃ d < base, c = d.digitChar := by
  induction n using Nat.strongRecOn with
  | ind n ih =>
    rcases Nat.lt_or_ge n base with hlt | hle
    · rw [Nat.toDigits_of_lt_base hlt, List.mem_singleton] at h
      exact ⟨n, hlt, h⟩
    · rw [Nat.toDigits_of_base_le hbase hle, List.mem_append, List.mem_singleton] at h
      rcases h with h | h
      · exact ih (n / base) (Nat.div_lt_self (by omega) hbase) h
      · exact ⟨n % base, Nat.mod_lt n (by omega), h⟩

theorem bare_toDigits {base : Nat} (hbase : 1 < base) (hgreatest : base ≤ 16) (n : Nat) :
    Bare (String.ofList (Nat.toDigits base n)) := by
  have digit : ∀ d < 16, d.digitChar ∉ signs := by decide
  intro c hc
  rw [String.toList_ofList] at hc
  obtain ⟨d, hd, rfl⟩ := mem_toDigits hbase hc
  exact digit d (by omega)

theorem bare_toString (n : Nat) : Bare (toString n) := by
  rw [Nat.toString_eq_ofList_toDigits]
  exact bare_toDigits (by decide) (by decide) n

/-! ### Hosts -/

theorem bare_ipv4 (address : Net.Ipv4) : Bare address.text := by
  have dot : Bare "." := by decide
  have octet (b : UInt8) : Bare (toString b.toNat) := bare_toString b.toNat
  exact ((((((octet _).append dot).append (octet _)).append dot).append (octet _)).append dot).append (octet _)

theorem mem_intercalate {α : Type} {separator : List α} {parts : List (List α)} {a : α}
    (h : a ∈ separator.intercalate parts) : a ∈ separator ∨ ∃ part ∈ parts, a ∈ part := by
  induction parts with
  | nil => cases h
  | cons part parts ih =>
    cases parts with
    | nil => exact .inr ⟨part, List.mem_cons_self, by simpa using h⟩
    | cons other parts =>
      rw [List.intercalate_cons_cons, List.append_assoc, List.mem_append, List.mem_append] at h
      rcases h with h | h | h
      · exact .inr ⟨part, List.mem_cons_self, h⟩
      · exact .inl h
      · rcases ih h with h | ⟨found, hfound, h⟩
        · exact .inl h
        · exact .inr ⟨found, List.mem_cons_of_mem part hfound, h⟩

theorem bare_writeWords (words : List UInt16) : Bare (Net.Ipv6.writeWords words) := by
  have colon : Bare ":" := by decide
  intro c hc
  rw [Net.Ipv6.writeWords, String.toList_intercalate] at hc
  rcases mem_intercalate hc with h | ⟨part, hpart, h⟩
  · exact colon c h
  · simp only [List.map_map, List.mem_map, Function.comp_apply] at hpart
    obtain ⟨w, -, rfl⟩ := hpart
    exact bare_toDigits (by decide) (by decide) w.toNat c h

theorem bare_ipv6 (address : Net.Ipv6) : Bare address.text := by
  have gap : Bare "::" := by decide
  unfold Net.Ipv6.text
  split
  · exact ((bare_writeWords _).append gap).append (bare_writeWords _)
  · exact bare_writeWords _

theorem toAscii?_allowed {name ascii : List Char} (h : toAscii? name = some ascii) :
    ∀ c ∈ ascii, isForbiddenAscii c = false := by
  unfold toAscii? at h
  split at h
  · cases h
  split at h
  · cases h
  split at h
  · cases h
  dsimp only at h
  split at h
  · cases h
  next hallowed =>
    cases h
    rw [Bool.or_eq_true, not_or] at hallowed
    intro c hc
    rw [Bool.eq_false_iff]
    exact fun hforbidden => hallowed.2 (List.any_eq_true.2 ⟨c, hc, hforbidden⟩)

/-- Characters that are not refused are no signs, if the signs are refused. -/
theorem bare_of_forall {refused : Char → Bool} (hsigns : signs.all refused = true)
    {chars : List Char} (h : ∀ c ∈ chars, refused c = false) : Bare (String.ofList chars) := by
  intro c hc hsign
  rw [String.toList_ofList] at hc
  have hrefused := List.all_eq_true.1 hsigns c hsign
  rw [h c hc] at hrefused
  cases hrefused

/-- **No host of the web holds a sign.** -/
theorem bare_host {text : List Char} {host : Host} (h : Host.ofWeb text = .ok host) : Bare host.text := by
  -- a host is an address in brackets, an address of four numbers, or a name
  unfold Host.ofWeb at h
  split at h
  · unfold Host.ofBrackets at h
    split at h
    · cases h
      exact ((show Bare "[" by decide).append (bare_ipv6 _)).append (by decide)
    · cases h
  split at h
  · cases h
  · cases h
  next ascii _ hascii =>
    split at h
    · split at h
      · cases h
        exact bare_ipv4 _
      · cases h
    · cases h
      exact bare_of_forall (by decide) (toAscii?_allowed hascii)

/-! ### Credentials -/

theorem bare_encode (text : List Char) : Bare (String.ofList (encode isUserEscape text)) :=
  bare_of_forall (by decide) (escape_encode (by decide))

theorem bare_credentials {web : Bool} {text : List Char} {credentials : Credentials}
    (h : readCredentials web text = .ok credentials) :
    Bare (String.ofList credentials.username) ∧ Bare (String.ofList credentials.password) := by
  unfold readCredentials at h
  dsimp only at h
  split at h
  · split at h
    · cases h
    · cases h
      exact ⟨bare_encode _, bare_encode _⟩
  · cases h
    have empty : Bare (String.ofList []) := by decide
    exact ⟨empty, empty⟩

/-! ### Hosts and ports -/

/-- The host and the port, as they stand behind the credentials. -/
def hostAndPort (url : Url) : String :=
  match url.host with
  | some host =>
    host.text ++
      (match url.port with
       | some port => ":" ++ toString port.toNat
       | none => "")
  | none => ""

/-- Behind the slashes stand the credentials, the host and the port. -/
theorem authority_eq {url : Url} {host : Host} (hurl : url.host = some host) :
    url.authority = "//" ++ (url.credentials ++ url.hostAndPort) := by
  cases hport : url.port <;> simp only [authority, hostAndPort, hurl, hport, String.append_assoc]

theorem bare_hostAndPort {url : Url} (hhost : ∀ host, url.host = some host → Bare host.text) :
    Bare url.hostAndPort := by
  unfold hostAndPort
  split
  · next host hurl =>
    apply (hhost host hurl).append
    split
    · exact Bare.append (by decide) (bare_toString _)
    · decide
  · decide

/-- **Credentials have their sign at the end and nowhere else**, if they are there. -/
structure IsFront (front : String) : Prop where
  /-- They end with their sign. -/
  ends : front = "" ∨ ∃ text, front = text ++ "@" ∧ '@' ∉ text.toList
  /-- They do not end the authority. -/
  stays : Stays front

theorem isFront_credentials {url : Url} (husername : Bare url.username) (hpassword : Bare url.password) :
    IsFront url.credentials := by
  have empty : Stays "" := nofun
  have sign : Stays "@" := by
    intro c hc
    obtain rfl := List.mem_singleton.1 hc
    decide
  have bare {text : String} (h : Bare text) : '@' ∉ text.toList := fun hmem => h '@' hmem (by decide)
  unfold credentials
  split_ifs
  · exact ⟨.inl rfl, empty⟩
  · have h : Bare (url.username ++ "") := husername.append nofun
    exact ⟨.inr ⟨_, rfl, bare h⟩, h.stays.append sign⟩
  · have h : Bare (url.username ++ (":" ++ url.password)) := husername.append (Bare.append (by decide) hpassword)
    exact ⟨.inr ⟨_, rfl, bare h⟩, h.stays.append sign⟩

/-! ## Paths and queries -/

theorem visible_of_fragment {c : Char} (h : isFragmentEscape c = false) : 33 ≤ c.toNat ∧ c.toNat < 127 := by
  have space : c ≠ ' ' := by
    rintro rfl
    revert h
    decide
  have hne : c.toNat ≠ 32 := fun e => space (Char.toNat_inj.1 e)
  simp only [isFragmentEscape, isControlEscape, Bool.or_eq_false_iff, decide_eq_false_iff_not] at h
  omega

/-- A character that a path allows shows. -/
theorem visible_of_path {c : Char} (h : isPathEscape c = false) : 33 ≤ c.toNat ∧ c.toNat < 127 :=
  visible_of_fragment (Bool.or_eq_false_iff.1 h).1

/-- A character that a query of the web allows shows. -/
theorem visible_of_query {c : Char} (h : isWebQueryEscape c = false) : 33 ≤ c.toNat ∧ c.toNat < 127 := by
  have space : c ≠ ' ' := by
    rintro rfl
    revert h
    decide
  have hne : c.toNat ≠ 32 := fun e => space (Char.toNat_inj.1 e)
  simp only [isWebQueryEscape, isQueryEscape, isControlEscape, Bool.or_eq_false_iff, decide_eq_false_iff_not] at h
  omega

theorem cutSegments_ne_nil (web : Bool) (text : List Char) : cutSegments web text ≠ [] := by
  cases text with
  | nil => exact List.cons_ne_nil _ _
  | cons c rest =>
    unfold cutSegments
    split
    · exact List.cons_ne_nil _ _
    · split
      · exact List.cons_ne_nil _ _
      · exact List.cons_ne_nil _ _

/-- A path that has been followed has at least one segment. -/
theorem walk_ne_nil {above segments : List (List Char)} (h : above ≠ [] ∨ segments ≠ []) :
    walk above segments ≠ [] := by
  induction segments generalizing above with
  | nil => exact h.resolve_right (not_not_intro rfl)
  | cons segment rest ih =>
    have more : rest.isEmpty = false → rest ≠ [] := by
      rintro hrest rfl
      cases hrest
    unfold walk
    split_ifs with _ hlast _ hlast
    · exact List.cons_ne_nil _ _
    · exact ih (.inr (more (Bool.eq_false_iff.2 hlast)))
    · exact List.cons_ne_nil _ _
    · exact ih (.inr (more (Bool.eq_false_iff.2 hlast)))
    · exact ih (.inl (List.cons_ne_nil _ _))

/-- Following a path adds nothing but empty segments. -/
theorem mem_walk {above segments : List (List Char)} {segment : List Char} (h : segment ∈ walk above segments) :
    segment = [] ∨ segment ∈ above ∨ segment ∈ segments := by
  induction segments generalizing above with
  | nil => exact .inr (.inl h)
  | cons other rest ih =>
    unfold walk at h
    split_ifs at h
    · rcases List.mem_cons.1 h with h | h
      · exact .inl h
      · exact .inr (.inl (List.mem_of_mem_tail h))
    · rcases ih h with h | h | h
      · exact .inl h
      · exact .inr (.inl (List.mem_of_mem_tail h))
      · exact .inr (.inr (List.mem_cons_of_mem other h))
    · rcases List.mem_cons.1 h with h | h
      · exact .inl h
      · exact .inr (.inl h)
    · rcases ih h with h | h | h
      · exact .inl h
      · exact .inr (.inl h)
      · exact .inr (.inr (List.mem_cons_of_mem other h))
    · rcases ih h with h | h | h
      · exact .inl h
      · rcases List.mem_cons.1 h with rfl | h
        · exact .inr (.inr List.mem_cons_self)
        · exact .inr (.inl h)
      · exact .inr (.inr (List.mem_cons_of_mem other h))

theorem rooted_ne_nil (web : Bool) (text : List Char) : rooted web text ≠ [] := by
  intro h
  have hsegments : (cutSegments web text).map (encode isPathEscape) ≠ [] :=
    fun hnil => cutSegments_ne_nil web text (List.map_eq_nil_iff.1 hnil)
  exact walk_ne_nil (.inr hsegments) (List.reverse_eq_nil_iff.1 h)

theorem forall_rooted {web : Bool} {text segment : List Char} (h : segment ∈ rooted web text) :
    ∀ c ∈ segment, isPathEscape c = false := by
  rcases mem_walk (List.mem_reverse.1 h) with rfl | h | h
  · exact nofun
  · cases h
  · obtain ⟨plain, -, rfl⟩ := List.mem_map.1 h
    exact escape_encode (by decide)

theorem pathAfterHost_eq (text : List Char) : ∃ plain, pathAfterHost true text = rooted true plain := by
  unfold pathAfterHost
  split
  · exact ⟨_, rfl⟩
  · split_ifs
    · exact ⟨_, rfl⟩
    · exact ⟨_, rfl⟩

theorem readTail_query {text : List Char} {query : String} (h : (readTail true text).1 = some query) :
    ∀ c ∈ query.toList, isWebQueryEscape c = false := by
  unfold readTail at h
  dsimp only at h
  split at h
  · cases h
    rw [String.toList_ofList]
    exact escape_encode (by decide)
  · cases h
  · cases h

/-! ## Where a URL of the web comes from -/

theorem readAuthority_ok {web : Bool} {scheme text : List Char} {url : Url}
    (h : readAuthority web scheme text = .ok url) :
    ∃ credentials host port path tail, readCredentials web text = .ok credentials ∧
      (web = true → ∃ hostText, Host.ofWeb hostText = .ok host) ∧
      url = assemble web scheme credentials (some host) port
        (.segments ((pathAfterHost web path).map String.ofList)) tail := by
  obtain ⟨credentials, hcredentials, h⟩ := ok_of_bind h
  obtain ⟨host, hhost, h⟩ := ok_of_ite_bind h
  have web_host : web = true → ∃ hostText, Host.ofWeb hostText = .ok host := by
    intro hweb
    rw [if_pos hweb] at hhost
    split_ifs at hhost
    exact ⟨_, hhost⟩
  dsimp only at h
  split at h
  · cases h
  -- the port may be there or not; what follows is the same
  split at h
  all_goals
    obtain ⟨⟨port, rest⟩, -, h⟩ := ok_of_bind h
    dsimp only at h
    split at h
    · cases h
    cases h
    exact ⟨credentials, host, port, _, _, hcredentials, web_host, rfl⟩

theorem readFile_ok {scheme text : List Char} {url : Url} (h : readFile scheme text = .ok url) :
    url.scheme = String.ofList scheme := by
  unfold readFile at h
  split at h
  · split at h
    · dsimp only at h
      split at h
      · cases h
        rfl
      · obtain ⟨host, -, h⟩ := ok_of_bind h
        cases h
        rfl
    · cases h
      rfl
  · cases h
    rfl

/-- A URL of the web has an authority. -/
theorem parse_ok {text : String} {url : Url} (h : parse text = .ok url) (hweb : isWebScheme url.scheme = true) :
    ∃ scheme rest, readAuthority true scheme rest = .ok url := by
  unfold parse at h
  split at h
  · cases h
  next scheme rest _ =>
    split at h
    case isTrue => exact ⟨_, _, h⟩
    case isFalse hother =>
      have hscheme : url.scheme = String.ofList scheme := by
        split at h
        · exact readFile_ok h
        split at h
        · obtain ⟨_, _, _, _, _, -, -, rfl⟩ := readAuthority_ok h
          rfl
        · cases h
          rfl
        · cases h
          rfl
      exact absurd (hscheme ▸ hweb) hother

/-! ## Normal forms -/

/-- **The parts of a URL of the web can be told apart in its written form.** -/
structure IsNormal (url : Url) : Prop where
  /-- Behind the slashes stand the credentials, the host and the port. -/
  authority : url.authority = "//" ++ (url.credentials ++ url.hostAndPort)
  /-- The credentials have their sign at the end. -/
  credentials : IsFront url.credentials
  /-- The host and the port hold no sign. -/
  host : Bare url.hostAndPort
  /-- The path begins with a slash. -/
  rooted : ∃ rest, url.path.text.toList = '/' :: rest
  /-- It holds what a path allows. -/
  path : ∀ c ∈ url.path.text.toList, isPathEscape c = false
  /-- The query holds what a query allows. -/
  query : ∀ query, url.query = some query → ∀ c ∈ query.toList, isWebQueryEscape c = false

theorem toList_segments (names : List String) :
    (Path.segments names).text.toList = names.flatMap fun name => '/' :: name.toList := by
  rw [Path.text, String.toList_join, List.flatMap_map]
  simp only [String.toList_append]
  rfl

/-- **A URL of the web that has been read is in normal form.** -/
theorem isNormal_of_parse {text : String} {url : Url} (h : parse text = .ok url)
    (hweb : isWebScheme url.scheme = true) : IsNormal url := by
  obtain ⟨scheme, rest, h⟩ := parse_ok h hweb
  obtain ⟨credentials, host, port, path, tail, hcredentials, hhost, rfl⟩ := readAuthority_ok h
  obtain ⟨hostText, hhost⟩ := hhost rfl
  obtain ⟨plain, hplain⟩ := pathAfterHost_eq path
  have hpath : (assemble true scheme credentials (some host) port
      (.segments ((pathAfterHost true path).map String.ofList)) tail).path.text.toList
        = (Url.rooted true plain).flatMap fun segment => '/' :: segment := by
    show (Path.segments ((pathAfterHost true path).map String.ofList)).text.toList = _
    rw [toList_segments, hplain, List.flatMap_map]
    simp only [String.toList_ofList]
  constructor
  case authority => exact authority_eq rfl
  case credentials =>
    have hcredentials := bare_credentials hcredentials
    exact isFront_credentials hcredentials.1 hcredentials.2
  case host =>
    apply bare_hostAndPort
    rintro _ ⟨⟩
    exact bare_host hhost
  case rooted =>
    rw [hpath]
    cases hrooted : Url.rooted true plain with
    | nil => exact absurd hrooted (rooted_ne_nil true plain)
    | cons segment rest => exact ⟨_, List.flatMap_cons⟩
  case path =>
    intro c hc
    rw [hpath] at hc
    obtain ⟨segment, hsegment, hc⟩ := List.mem_flatMap.1 hc
    rcases List.mem_cons.1 hc with rfl | hc
    · decide
    · exact forall_rooted hsegment c hc
  case query =>
    intro query hquery
    exact readTail_query hquery

end Url

end TextSocket
