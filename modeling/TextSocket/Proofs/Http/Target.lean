import TextSocket.Proofs.Http.Request
import TextSocket.Proofs.Url.Normal

/-!
# `Proofs.Http.Target` — a URL survives as a target

A client cuts the written form of its URL at the signs once more, as the target of a request, and sends the path and
the query; the server cuts these again. **Both find the path and the query that the URL has** (`parse_url`), whatever
they are: no sign within a part is left in a normal form, and what one reading has admitted the other one admits.

## Contents

* `marked`, `checkParts`, `readPath_marked` — a path and a query behind their signs;
* `visible_of_checkAuthority`, `cutAuthority_slash` — an authority;
* `parse_whole`, `parse_pathAndQuery` — a whole address, and a path with a query;
* `Checked`, `isTarget_of_parse` — a target that is kept as it is;
* `parse_url` — the main result.
-/

namespace TextSocket.Http.Target

open Ascii (IsVisible)
open Request (IsTarget)

/-! ## Paths and queries -/

/-- A part behind its sign, if it is there. -/
def marked (sign : UInt8) : Option Bytes → Bytes
  | some part => sign :: part
  | none => []

/-- The checks of a path and a query. -/
def checkParts (path : Bytes) (query : Option Bytes) : Except PartFault (Bytes × Option Bytes) :=
  if !path.all isPathByte || !(query.getD []).all isQueryByte then .error .uriCharacter
  else if (Bytes.text? path).isNone || (Bytes.text? (query.getD [])).isNone then .error .uriCharacter
  else .ok (path, query)

section readPath

variable {path : Bytes} {query : Option Bytes}

theorem checkParts_ok {parts : Bytes × Option Bytes} (h : checkParts path query = .ok parts) : parts = (path, query) := by
  unfold checkParts at h
  split_ifs at h
  cases h
  rfl

/-- **Reading finds the path and the query**, if none of their bytes is a sign that ends them. -/
theorem readPath_marked (hpath : ∀ b ∈ path, b ≠ 63 ∧ b ≠ 35) (hquery : ∀ part, query = some part → 35 ∉ part)
    (fragment : Option Bytes) : readPath (path ++ marked 63 query ++ marked 35 fragment) = checkParts path query := by
  have inner : ∀ b ∈ path, (b != 63 && b != 35) = true := by
    intro b hb
    have := hpath b hb
    simp [this.1, this.2]
  have before : ∀ part, query = some part → ∀ b ∈ part, (b != 35) = true := by
    intro part hpart b hb
    have : b ≠ 35 := fun e => hquery part hpart (e ▸ hb)
    simp [this]
  have taken : (path ++ (marked 63 query ++ marked 35 fragment)).takeWhile (fun b => b != 63 && b != 35) = path := by
    rw [List.takeWhile_append_of_pos inner]
    cases query with
    | some part => exact List.append_nil path
    | none =>
      cases fragment with
      | some part => exact List.append_nil path
      | none => exact List.append_nil path
  rw [List.append_assoc]
  unfold readPath
  simp only [taken, List.drop_left]
  cases query with
  | none =>
    cases fragment with
    | none => rfl
    | some part => rfl
  | some part =>
    have taken : (part ++ marked 35 fragment).takeWhile (· != 35) = part := by
      rw [List.takeWhile_append_of_pos (before part rfl)]
      cases fragment with
      | none => exact List.append_nil part
      | some part' => exact List.append_nil part
    simp only [marked, List.cons_append, taken] at taken ⊢
    rfl

end readPath

/-! ## Authorities -/

theorem visible_of_isAuthorityByte {b : UInt8} (h : isAuthorityByte b = true) : IsVisible b := by
  revert b
  apply Bytes.forall_byte
  decide +kernel

theorem visible_of_pass {scan scan' : AuthorityScan} {b : UInt8} (h : scan.pass b = .ok scan') : IsVisible b := by
  unfold AuthorityScan.pass at h
  dsimp only at h
  by_cases colon : b = 58
  · exact colon ▸ by decide
  by_cases opening : b = 91
  · exact opening ▸ by decide
  by_cases closing : b = 93
  · exact closing ▸ by decide
  by_cases sign : b = 64
  · exact sign ▸ by decide
  by_cases percent : b = 37
  · exact percent ▸ by decide
  rw [if_neg colon, if_neg opening, if_neg closing, if_neg sign, if_neg percent] at h
  split_ifs at h with hbyte
  exact visible_of_isAuthorityByte hbyte

theorem visible_of_foldlM {authority : Bytes} {scan scan' : AuthorityScan}
    (h : authority.foldlM AuthorityScan.pass scan = .ok scan') : ∀ b ∈ authority, IsVisible b := by
  induction authority generalizing scan with
  | nil => exact nofun
  | cons b authority ih =>
    rw [List.foldlM_cons] at h
    obtain ⟨next, hnext, h⟩ := ok_of_bind h
    intro c hc
    rcases List.mem_cons.1 hc with rfl | hc
    · exact visible_of_pass hnext
    · exact ih h c hc

/-- **An authority that passes shows.** -/
theorem visible_of_checkAuthority {authority : Bytes} (h : checkAuthority authority = .ok ()) :
    ∀ b ∈ authority, IsVisible b := by
  obtain ⟨scan, hscan, -⟩ := ok_of_bind h
  exact visible_of_foldlM hscan

/-- An authority is cut off at the slash behind it. -/
theorem cutAuthority_slash {authority rest : Bytes} (hauthority : ∀ b ∈ authority, endsAuthority b = false)
    {parts : Bytes × Bytes} (h : cutAuthority (authority ++ 47 :: rest) = .ok parts) :
    checkAuthority authority = .ok () ∧ parts = (authority, 47 :: rest) := by
  have taken : (authority ++ 47 :: rest).takeWhile (fun b => !endsAuthority b) = authority :=
    Head.takeWhile_stop (fun b hb => by rw [hauthority b hb]; rfl) (by decide)
  unfold cutAuthority at h
  rw [taken] at h
  obtain ⟨⟨⟩, hcheck, h⟩ := ok_of_bind h
  rw [List.drop_left] at h
  cases h
  exact ⟨hcheck, rfl⟩

/-! ## Whole targets -/

section parse

variable {authority path : Bytes} {query : Option Bytes}

theorem cutScheme_ws (rest : Bytes) :
    cutScheme (119 :: 115 :: 58 :: 47 :: 47 :: rest) = .ok (some (Bytes.ofText "ws"), rest) := by
  have taken : ([119, 115] ++ 58 :: 47 :: 47 :: rest).takeWhile isSchemeByte = [119, 115] :=
    Head.takeWhile_stop (List.all_eq_true.1 rfl) (by decide)
  rw [List.cons_append, List.singleton_append] at taken
  have other : ¬ ([119, 115].map Ascii.lower = Bytes.ofText "http"
      ∨ [119, 115].map Ascii.lower = Bytes.ofText "https") := by
    decide
  unfold cutScheme
  simp only [taken, List.length_cons, List.length_nil, List.drop_succ_cons, List.drop_zero, if_neg other]
  rfl

/-- **A whole address is taken apart as it was put together.** -/
theorem parse_whole (hauthority : ∀ b ∈ authority, endsAuthority b = false)
    (hpath : ∀ b ∈ path, b ≠ 63 ∧ b ≠ 35) (hrooted : path.head? = some 47)
    (hquery : ∀ part, query = some part → 35 ∉ part) {fragment : Option Bytes} {target : Target}
    (h : parse (119 :: 115 :: 58 :: 47 :: 47 :: (authority ++ (path ++ marked 63 query ++ marked 35 fragment)))
      = .ok target) :
    target = ⟨some (Bytes.ofText "ws"), some authority, path, query⟩ ∧ checkAuthority authority = .ok () ∧
      checkParts path query = .ok (path, query) ∧ (path ++ marked 63 query).length ≤ lengthLimit := by
  obtain ⟨rest, rfl⟩ : ∃ rest, path = 47 :: rest := by
    cases path with
    | nil => cases hrooted
    | cons b rest => exact ⟨rest, congrArg (· :: rest) (Option.some.inj hrooted)⟩
  unfold parse at h
  split at h
  · cases h
  next hlength =>
    dsimp only at h
    rw [if_neg (by decide)] at h
    obtain ⟨⟨scheme, left⟩, hscheme, h⟩ := ok_of_bind h
    rw [cutScheme_ws] at hscheme
    cases hscheme
    obtain ⟨⟨authority', left⟩, hcut, h⟩ := ok_of_bind h
    obtain ⟨hcheck, hparts⟩ := cutAuthority_slash hauthority hcut
    cases hparts
    dsimp only at h
    split at h
    · cases h
    · -- the fragment is dropped, and the checks of the rest are the end of the reading
      obtain ⟨⟨path', query'⟩, hread, h⟩ := ok_of_bind h
      have hchecked := (readPath_marked hpath hquery fragment).symm.trans hread
      cases checkParts_ok hchecked
      cases h
      refine ⟨rfl, hcheck, hchecked, ?_⟩
      simp only [List.length_cons, List.length_append] at hlength ⊢
      omega

/-- **A path with a query is read as what it is.** -/
theorem parse_pathAndQuery (hpath : ∀ b ∈ path, b ≠ 63 ∧ b ≠ 35) (hrooted : path.head? = some 47)
    (hquery : ∀ part, query = some part → 35 ∉ part) (hchecked : checkParts path query = .ok (path, query))
    (hlength : (path ++ marked 63 query).length ≤ lengthLimit) :
    parse (path ++ marked 63 query) = .ok ⟨none, none, path, query⟩ := by
  have hread := readPath_marked hpath hquery none
  rw [show marked 35 none = [] from rfl, List.append_nil, hchecked] at hread
  cases path with
  | nil => cases hrooted
  | cons b rest =>
    obtain rfl : b = 47 := Option.some.inj hrooted
    unfold parse
    rw [if_neg (Nat.not_lt.2 hlength)]
    cases hmore : rest ++ marked 63 query with
    | nil =>
      -- a single slash is read in its own way
      obtain ⟨rfl, hnone⟩ := List.append_eq_nil_iff.1 hmore
      cases query with
      | some part => cases hnone
      | none => rfl
    | cons c more =>
      rw [List.cons_append, hmore] at hread ⊢
      simp only [hread, if_true]
      rfl

end parse

/-! ## Targets that are kept as they are -/

section kept

variable {target path : Bytes} {query : Option Bytes} {made : Target}

theorem shown_of_isPathByte {b : UInt8} (h : isPathByte b = true) : 32 < b := by
  revert b
  apply Bytes.forall_byte
  decide +kernel

theorem shown_of_isQueryByte {b : UInt8} (h : isQueryByte b = true) : 32 < b := by
  revert b
  apply Bytes.forall_byte
  decide +kernel

/-- What the checks of a path and a query come to. -/
structure Checked (path : Bytes) (query : Option Bytes) : Prop where
  /-- The bytes of the path. -/
  pathBytes : ∀ b ∈ path, isPathByte b = true
  /-- The bytes of the query. -/
  queryBytes : ∀ b ∈ query.getD [], isQueryByte b = true
  /-- Both are valid UTF-8. -/
  text : ∃ pathText queryText : String, path = Bytes.ofText pathText ∧ query.getD [] = Bytes.ofText queryText

theorem checked_of_ok {parts : Bytes × Option Bytes} (h : checkParts path query = .ok parts) : Checked path query := by
  unfold checkParts at h
  split at h
  · cases h
  split at h
  · cases h
  next hbytes htext =>
    simp only [Bool.not_eq_true, Bool.or_eq_false_iff, Bool.not_eq_false'] at hbytes
    simp only [Bool.not_eq_true, Bool.or_eq_false_iff, Option.isNone_eq_false_iff, Option.isSome_iff_exists] at htext
    obtain ⟨⟨pathText, hpath⟩, queryText, hquery⟩ := htext
    exact ⟨List.all_eq_true.mp hbytes.1, List.all_eq_true.mp hbytes.2, pathText, queryText,
      Bytes.text?_eq_some_iff.mp hpath, Bytes.text?_eq_some_iff.mp hquery⟩

/-- A target that begins with a slash is a path with a query, and both pass their checks. -/
theorem parse_rooted (hrooted : target.head? = some 47) (h : parse target = .ok made) :
    ∃ path query, made = ⟨none, none, path, query⟩ ∧ Checked path query := by
  have slash : Checked [47] none := checked_of_ok (show checkParts [47] none = .ok ([47], none) by decide)
  obtain ⟨rest, rfl⟩ : ∃ rest, target = 47 :: rest := by
    cases target with
    | nil => cases hrooted
    | cons b rest => exact ⟨rest, congrArg (· :: rest) (Option.some.inj hrooted)⟩
  unfold parse at h
  split at h
  · cases h
  cases rest with
  | nil =>
    -- a single slash is read in its own way
    cases h
    exact ⟨[47], none, rfl, slash⟩
  | cons c rest =>
    dsimp only at h
    rw [if_pos rfl] at h
    cases hread : readPath (47 :: c :: rest) with
    | error cause => rw [hread] at h; cases h
    | ok parts =>
      rw [hread] at h
      cases h
      -- the checks are the end of the reading
      obtain rfl := checkParts_ok hread
      exact ⟨_, _, rfl, checked_of_ok hread⟩

theorem text_rooted (path : Bytes) (query : Option Bytes) :
    text ⟨none, none, path, query⟩ = path ++ marked 63 query := by
  cases query <;> rfl

theorem Checked.shown (h : Checked path query) : ∀ b ∈ path ++ marked 63 query, 32 < b := by
  intro b hb
  rcases List.mem_append.mp hb with hb | hb
  · exact shown_of_isPathByte (h.pathBytes b hb)
  · cases query with
    | none => cases hb
    | some part =>
      rcases List.mem_cons.mp hb with rfl | hb
      · decide
      · exact shown_of_isQueryByte (h.queryBytes b hb)

theorem Checked.isText (h : Checked path query) : (Bytes.text? (path ++ marked 63 query)).isSome = true := by
  obtain ⟨pathText, queryText, rfl, hquery⟩ := h.text
  cases query with
  | none => rw [marked, List.append_nil, Bytes.text?_ofText]; rfl
  | some part =>
    obtain rfl : part = Bytes.ofText queryText := hquery
    -- the mark between two texts is itself a text
    have question : Bytes.ofText "?" = [63] := by decide
    have whole : Bytes.ofText pathText ++ marked 63 (some (Bytes.ofText queryText))
        = Bytes.ofText (pathText ++ "?" ++ queryText) := by
      rw [Bytes.ofText_append, Bytes.ofText_append, question, List.append_assoc]
      rfl
    rw [whole, Bytes.text?_ofText]
    rfl

/-- **A target that is kept as it is has neither controls below the space nor a space.** -/
theorem shown_of_parse (hrooted : target.head? = some 47) (h : parse target = .ok made) (hkept : made.text = target) :
    ∀ b ∈ target, 32 < b := by
  obtain ⟨path, query, rfl, hchecked⟩ := parse_rooted hrooted h
  rw [← hkept, text_rooted]
  exact hchecked.shown

/-- **Such a target can be written in a request, unless it holds the one control that a path may hold.** -/
theorem isTarget_of_parse (hrooted : target.head? = some 47) (h : parse target = .ok made)
    (hkept : made.text = target) (hdelete : 127 ∉ target) : IsTarget target where
  nonempty := by
    rintro rfl
    cases hrooted
  bytes := by
    intro b hb
    have hne : b ≠ 127 := fun e => hdelete (e ▸ hb)
    simp [Head.isTargetByte, hne, shown_of_parse hrooted h hkept b hb]
  text := by
    obtain ⟨path, query, rfl, hchecked⟩ := parse_rooted hrooted h
    rw [← hkept, text_rooted]
    exact hchecked.isText

end kept

/-! ## URLs -/

section url

variable {url : Url}

theorem not_mem_ofText {text : String} {p : Char → Bool} (h : ∀ c ∈ text.toList, p c = false) {b : UInt8}
    (hb : b.toNat < 128) (hp : p (Char.ofNat b.toNat) = true) : b ∉ Bytes.ofText text := by
  intro hmem
  obtain ⟨c, hc, hbyte⟩ := Bytes.mem_ofText hmem hb
  rw [← hbyte, Char.ofNat_toNat, h c hc] at hp
  cases hp

theorem visible_ofText {text : String} (h : ∀ c ∈ text.toList, 33 ≤ c.toNat ∧ c.toNat < 127) :
    ∀ b ∈ Bytes.ofText text, IsVisible b := by
  have hascii : ∀ c ∈ text.toList, c.toNat < 128 := fun c hc => Nat.lt_of_lt_of_le (h c hc).2 (by decide)
  rw [← String.ofList_toList (s := text), Bytes.ofText_ascii hascii]
  intro b hb
  obtain ⟨c, hc, rfl⟩ := List.mem_map.1 hb
  have hchar := h c hc
  rw [Ascii.IsVisible, UInt8.toNat_ofNat']
  omega

theorem ofText_query : Bytes.ofText (Url.behind "?" url.query) = marked 63 (url.query.map Bytes.ofText) := by
  cases url.query with
  | none => rfl
  | some query => exact Bytes.ofText_append "?" query

/-- The path and the query of a URL, as they are written. -/
theorem ofText_pathAndQuery : Bytes.ofText (url.path.text ++ Url.behind "?" url.query)
    = Bytes.ofText url.path.text ++ marked 63 (url.query.map Bytes.ofText) := by
  rw [Bytes.ofText_append, ofText_query]

theorem ofText_fragment :
    Bytes.ofText (Url.behind "#" url.fragment) = marked 35 (url.fragment.map Bytes.ofText) := by
  cases url.fragment with
  | none => rfl
  | some fragment => exact Bytes.ofText_append "#" fragment

/-- The bytes of a URL. -/
theorem ofText_url {authority : String} (hscheme : url.scheme = "ws") (hauthority : url.authority = "//" ++ authority) :
    Bytes.ofText url.text = 119 :: 115 :: 58 :: 47 :: 47 :: (Bytes.ofText authority ++
      (Bytes.ofText url.path.text ++ marked 63 (url.query.map Bytes.ofText)
        ++ marked 35 (url.fragment.map Bytes.ofText))) := by
  have scheme : Bytes.ofText "ws" = [119, 115] := by decide
  have colon : Bytes.ofText ":" = [58] := by decide
  have slashes : Bytes.ofText "//" = [47, 47] := by decide
  simp only [Url.text, hscheme, hauthority, Bytes.ofText_append, scheme, colon, slashes, ofText_query,
    ofText_fragment, List.append_assoc, List.cons_append, List.nil_append]

/-- The first byte of a path is a slash. -/
theorem head_path (hnormal : url.IsNormal) : (Bytes.ofText url.path.text).head? = some 47 := by
  obtain ⟨rest, hrest⟩ := hnormal.rooted
  rw [← String.ofList_toList (s := url.path.text), hrest, Bytes.ofText_ofList]
  rfl

/-- The path and the query of a URL can be written as a target. -/
theorem isTarget_url (hnormal : url.IsNormal) :
    IsTarget (Bytes.ofText url.path.text ++ marked 63 (url.query.map Bytes.ofText)) where
  nonempty := by
    intro hnil
    have hhead := head_path hnormal
    rw [(List.append_eq_nil_iff.1 hnil).1] at hhead
    cases hhead
  bytes := by
    have shown {b : UInt8} (h : IsVisible b) : Head.isTargetByte b = true := by
      have hne : b ≠ 127 := fun e => by rw [e] at h; revert h; decide
      have hlt : 32 < b := UInt8.lt_iff_toNat_lt.2 h.1
      simp [Head.isTargetByte, hne, hlt]
    have question : Head.isTargetByte 63 = true := by decide
    intro b hb
    rcases List.mem_append.1 hb with hb | hb
    · exact shown (visible_ofText (fun c hc => Url.visible_of_path (hnormal.path c hc)) b hb)
    · cases hquery : url.query with
      | none => rw [hquery] at hb; cases hb
      | some query =>
        rw [hquery] at hb
        rcases List.mem_cons.1 hb with rfl | hb
        · exact question
        · exact shown (visible_ofText (fun c hc => Url.visible_of_query (hnormal.query query hquery c hc)) b hb)
  text := by
    rw [← ofText_pathAndQuery, Bytes.text?_ofText]
    rfl

/-- **A URL is taken apart into its parts, and its path and query are read back on their own.** -/
theorem parse_url (hnormal : url.IsNormal) (hscheme : url.scheme = "ws") {target : Target}
    (h : parse (Bytes.ofText url.text) = .ok target) :
    target = ⟨some (Bytes.ofText "ws"), some (Bytes.ofText (url.credentials ++ url.hostAndPort)),
        Bytes.ofText url.path.text, url.query.map Bytes.ofText⟩ ∧
      (∀ b ∈ Bytes.ofText (url.credentials ++ url.hostAndPort), IsVisible b) ∧ IsTarget target.pathAndQuery ∧
      parse target.pathAndQuery = .ok ⟨none, none, Bytes.ofText url.path.text, url.query.map Bytes.ofText⟩ := by
  have hstays : Url.Stays (url.credentials ++ url.hostAndPort) := hnormal.credentials.stays.append hnormal.host.stays
  have hends : ∀ b ∈ Bytes.ofText (url.credentials ++ url.hostAndPort), endsAuthority b = false := by
    have slash := not_mem_ofText (b := 47) hstays (by decide) (by decide)
    have question := not_mem_ofText (b := 63) hstays (by decide) (by decide)
    have number := not_mem_ofText (b := 35) hstays (by decide) (by decide)
    intro b hb
    have : b ≠ 47 ∧ b ≠ 63 ∧ b ≠ 35 := ⟨fun e => slash (e ▸ hb), fun e => question (e ▸ hb), fun e => number (e ▸ hb)⟩
    simp [endsAuthority, this]
  have hpath : ∀ b ∈ Bytes.ofText url.path.text, b ≠ 63 ∧ b ≠ 35 := by
    have question := not_mem_ofText (b := 63) hnormal.path (by decide) (by decide)
    have number := not_mem_ofText (b := 35) hnormal.path (by decide) (by decide)
    exact fun b hb => ⟨fun e => question (e ▸ hb), fun e => number (e ▸ hb)⟩
  have hquery : ∀ part, url.query.map Bytes.ofText = some part → 35 ∉ part := by
    intro part hpart
    obtain ⟨query, hquery, rfl⟩ := Option.map_eq_some_iff.1 hpart
    exact not_mem_ofText (b := 35) (hnormal.query query hquery) (by decide) (by decide)
  have hrooted := head_path hnormal
  rw [ofText_url hscheme hnormal.authority] at h
  obtain ⟨rfl, hcheck, hchecked, hlength⟩ := parse_whole hends hpath hrooted hquery h
  exact ⟨rfl, visible_of_checkAuthority hcheck, isTarget_url hnormal,
    parse_pathAndQuery hpath hrooted hquery hchecked hlength⟩

end url

end TextSocket.Http.Target
