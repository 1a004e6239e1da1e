import Mathlib.Data.List.TakeWhile
import TextSocket.Proofs.Http.Head

/-!
# `Proofs.Header.Elements` — the elements of a list in a header value

A header value may be a list: elements with commas between them, and blanks around each. The library cuts the value at
the commas and trims the pieces. Here the same is said without cutting: **a word is an element exactly if the value can
be written with the word between two commas or ends of the value**, with nothing but blanks beside it
(`any_splitOn_iff`).

## Contents

* `splitOn_append_separator`, `IsPiece`, `mem_splitOn_iff` — the pieces between separators;
* `trimBlanks_pad`, `exists_pad` — what trimming takes away;
* `IsElement`, `any_splitOn_iff` — the elements of a list;
* `isElement_trimBlanks`, `isElement_intercalate` — lists without the blanks around them, and lists of lists.
-/

namespace TextSocket.Ascii

/-! ## Pieces -/

section pieces

variable {separator : UInt8} {piece bytes : Bytes}

theorem splitOn_ne_nil (separator : UInt8) (bytes : Bytes) : splitOn separator bytes ≠ [] := by
  cases bytes with
  | nil => exact List.cons_ne_nil _ _
  | cons b rest =>
    unfold splitOn
    split
    · exact List.cons_ne_nil _ _
    · split
      · exact List.cons_ne_nil _ _
      · exact List.cons_ne_nil _ _

/-- **Cutting goes on behind a separator as if it began there.** The induction is on the bytes in front of it. -/
theorem splitOn_append_separator (front back : Bytes) :
    splitOn separator (front ++ separator :: back) = splitOn separator front ++ splitOn separator back := by
  induction front with
  | nil =>
    show splitOn separator (separator :: back) = [] :: splitOn separator back
    simp only [splitOn, if_true]
  | cons b front ih =>
    rw [List.cons_append, splitOn, splitOn, ih]
    split
    · rfl
    · cases hfront : splitOn separator front with
      | nil => exact absurd hfront (splitOn_ne_nil separator front)
      | cons piece pieces => rfl

theorem splitOn_of_not_mem (h : separator ∉ bytes) : splitOn separator bytes = [bytes] := by
  induction bytes with
  | nil => rfl
  | cons b rest ih =>
    rw [List.mem_cons, not_or] at h
    rw [splitOn, if_neg (Ne.symm h.1), ih h.2]

/-- **A piece of bytes**: it holds no separator, and stands between two separators or ends of the bytes. -/
structure IsPiece (separator : UInt8) (piece bytes : Bytes) : Prop where
  /-- It holds no separator. -/
  whole : separator ∉ piece
  /-- It stands between separators. -/
  between : ∃ front back, bytes = front ++ piece ++ back ∧ (front = [] ∨ front.getLast? = some separator) ∧
    (back = [] ∨ back.head? = some separator)

theorem isPiece_of_mem_splitOn (h : piece ∈ splitOn separator bytes) : IsPiece separator piece bytes := by
  -- the induction is on the length, since what is left behind a separator is cut in the same way
  induction hn : bytes.length using Nat.strongRecOn generalizing bytes with
  | ind n ih =>
    by_cases hmem : separator ∈ bytes
    · obtain ⟨first, rest, rfl, hfirst⟩ := List.eq_append_cons_of_mem hmem
      rw [splitOn_append_separator, splitOn_of_not_mem hfirst, List.singleton_append, List.mem_cons] at h
      rcases h with rfl | h
      · exact ⟨hfirst, [], separator :: rest, by simp, Or.inl rfl, Or.inr rfl⟩
      · have hshorter : rest.length < n := by
          rw [← hn, List.length_append, List.length_cons]
          omega
        obtain ⟨hwhole, front, back, rfl, hfront, hback⟩ := ih rest.length hshorter h rfl
        refine ⟨hwhole, first ++ separator :: front, back, by simp, Or.inr ?_, hback⟩
        rw [List.getLast?_append]
        rcases hfront with rfl | hfront
        · rfl
        · rw [List.getLast?_cons, hfront]
          rfl
    · rw [splitOn_of_not_mem hmem, List.mem_singleton] at h
      subst h
      exact ⟨hmem, [], [], by simp, Or.inl rfl, Or.inl rfl⟩

theorem mem_splitOn_of_isPiece (h : IsPiece separator piece bytes) : piece ∈ splitOn separator bytes := by
  obtain ⟨hwhole, front, back, rfl, hfront, hback⟩ := h
  have hlast : piece ∈ splitOn separator (piece ++ back) := by
    rcases hback with rfl | hback
    · rw [List.append_nil, splitOn_of_not_mem hwhole]
      exact List.mem_singleton_self _
    · obtain ⟨back, rfl⟩ := List.head?_eq_some_iff.mp hback
      rw [splitOn_append_separator, splitOn_of_not_mem hwhole]
      exact List.mem_append_left _ (List.mem_singleton_self _)
  rcases hfront with rfl | hfront
  · exact hlast
  · obtain ⟨front, rfl⟩ := List.getLast?_eq_some_iff.mp hfront
    rw [List.append_assoc, List.append_assoc, List.singleton_append, splitOn_append_separator]
    exact List.mem_append_right _ hlast

/-- **The pieces are what stands between separators.** -/
theorem mem_splitOn_iff : piece ∈ splitOn separator bytes ↔ IsPiece separator piece bytes :=
  ⟨isPiece_of_mem_splitOn, mem_splitOn_of_isPiece⟩

end pieces

/-! ## Trimming -/

section trimming

variable {word : Bytes}

/-- Blanks beside a word are taken away. -/
theorem trimBlanks_pad (hword : ∀ b ∈ word, isBlank b = false) {left right : Bytes}
    (hleft : ∀ b ∈ left, isBlank b = true) (hright : ∀ b ∈ right, isBlank b = true) :
    trimBlanks (left ++ word ++ right) = word := by
  have behind : (word ++ right).dropWhile isBlank = word ++ right ∨ word = [] := by
    cases word with
    | nil => exact Or.inr rfl
    | cons b word =>
      have hb := hword b List.mem_cons_self
      exact Or.inl (List.dropWhile_cons_of_neg (by simp [hb]))
  have back : ∀ b ∈ word.reverse.head?, isBlank b = false :=
    fun b hb => hword b (List.mem_reverse.mp (List.mem_of_mem_head? hb))
  rw [trimBlanks, List.append_assoc, List.dropWhile_append_of_pos hleft]
  rcases behind with hsame | rfl
  · rw [hsame, List.reverse_append, List.dropWhile_append_of_pos fun b hb => hright b (List.mem_reverse.mp hb),
      Http.Head.dropWhile_eq_self back, List.reverse_reverse]
  · rw [List.nil_append, List.dropWhile_eq_nil_iff.mpr hright]
    rfl

/-- What is taken away are blanks. -/
theorem exists_pad (bytes : Bytes) : ∃ left right, bytes = left ++ trimBlanks bytes ++ right ∧
    (∀ b ∈ left, isBlank b = true) ∧ ∀ b ∈ right, isBlank b = true := by
  refine ⟨bytes.takeWhile isBlank, ((bytes.dropWhile isBlank).reverse.takeWhile isBlank).reverse, ?_, ?_, ?_⟩
  · rw [List.append_assoc, trimBlanks, ← List.reverse_append, List.takeWhile_append_dropWhile, List.reverse_reverse,
      List.takeWhile_append_dropWhile]
  · exact fun b hb => List.mem_takeWhile_imp hb
  · exact fun b hb => List.mem_takeWhile_imp (List.mem_reverse.mp hb)

end trimming

/-! ## Elements -/

/-- **A word is an element of a list**: it stands between two commas or ends of the list, with blanks beside it. -/
def IsElement (word list : Bytes) : Prop :=
  ∃ front left right back, list = front ++ (left ++ word ++ right) ++ back ∧
    (∀ b ∈ left, isBlank b = true) ∧ (∀ b ∈ right, isBlank b = true) ∧
    (front = [] ∨ front.getLast? = some 44) ∧ (back = [] ∨ back.head? = some 44)

/-- A byte of a word in small letters has neither the value of a comma nor that of a blank, and it shows. -/
theorem of_isLower_lower {b : UInt8} (h : isLower (lower b) = true) :
    b ≠ 44 ∧ isBlank b = false ∧ isPrintable b = true := by
  revert b
  apply Bytes.forall_byte
  decide +kernel

/-- **The trimmed pieces of a list are its elements**, as far as words of letters are concerned. -/
theorem any_splitOn_iff {token list : Bytes} (htoken : ∀ b ∈ token, isLower b = true) (hsmall : token.map lower = token) :
    ((splitOn 44 list).any fun piece => equalFold (trimBlanks piece) token) = true ↔
      ∃ word, IsElement word list ∧ word.map lower = token := by
  have letters {word : Bytes} (hword : word.map lower = token) : ∀ b ∈ word, isLower (lower b) = true :=
    fun b hb => htoken _ (hword ▸ List.mem_map_of_mem hb)
  simp only [List.any_eq_true, equalFold, beq_iff_eq, hsmall]
  constructor
  · rintro ⟨piece, hpiece, hword⟩
    obtain ⟨-, front, back, rfl, hfront, hback⟩ := mem_splitOn_iff.mp hpiece
    obtain ⟨left, right, hpad, hleft, hright⟩ := exists_pad piece
    exact ⟨trimBlanks piece, ⟨front, left, right, back, by rw [← hpad], hleft, hright, hfront, hback⟩, hword⟩
  · rintro ⟨word, ⟨front, left, right, back, rfl, hleft, hright, hfront, hback⟩, hword⟩
    have comma : isBlank 44 = false := by decide
    refine ⟨left ++ word ++ right, mem_splitOn_iff.mpr ⟨?_, front, back, rfl, hfront, hback⟩, ?_⟩
    · intro hmem
      rcases List.mem_append.mp hmem with hmem | hmem
      · rcases List.mem_append.mp hmem with hmem | hmem
        · rw [hleft 44 hmem] at comma
          cases comma
        · exact (of_isLower_lower (letters hword 44 hmem)).1 rfl
      · rw [hright 44 hmem] at comma
        cases comma
    · rw [trimBlanks_pad (fun b hb => (of_isLower_lower (letters hword b hb)).2.1) hleft hright]
      exact hword

/-! ## Blanks around a list, and lists of lists -/

section lists

variable {bytes left right token : Bytes}

/-- Blanks in front are trimmed with the others. -/
theorem trimBlanks_append_left (hleft : ∀ b ∈ left, isBlank b = true) (bytes : Bytes) :
    trimBlanks (left ++ bytes) = trimBlanks bytes := by
  rw [trimBlanks, List.dropWhile_append_of_pos hleft]
  rfl

/-- So are blanks behind. -/
theorem trimBlanks_append_right (hright : ∀ b ∈ right, isBlank b = true) (bytes : Bytes) :
    trimBlanks (bytes ++ right) = trimBlanks bytes := by
  have hback : ∀ b ∈ right.reverse, isBlank b = true := fun b hb => hright b (List.mem_reverse.mp hb)
  rw [trimBlanks, trimBlanks, List.dropWhile_append]
  split
  · next hempty =>
    rw [List.isEmpty_iff.mp hempty, List.dropWhile_eq_nil_iff.mpr hright]
  · rw [List.reverse_append, List.dropWhile_append_of_pos hback]

theorem not_mem_of_blank (hblank : ∀ b ∈ bytes, isBlank b = true) : (44 : UInt8) ∉ bytes := by
  intro hmem
  have hcomma := hblank 44 hmem
  revert hcomma
  decide

/-- Blanks in front of a list do not change its trimmed pieces. -/
theorem map_splitOn_append_left (hleft : ∀ b ∈ left, isBlank b = true) (bytes : Bytes) :
    (splitOn 44 (left ++ bytes)).map trimBlanks = (splitOn 44 bytes).map trimBlanks := by
  have hnone := not_mem_of_blank hleft
  by_cases hmem : (44 : UInt8) ∈ bytes
  · obtain ⟨first, rest, rfl, hfirst⟩ := List.eq_append_cons_of_mem hmem
    have hjoint : (44 : UInt8) ∉ left ++ first := fun h => (List.mem_append.mp h).elim hnone hfirst
    rw [← List.append_assoc, splitOn_append_separator, splitOn_append_separator, splitOn_of_not_mem hjoint,
      splitOn_of_not_mem hfirst]
    simp only [List.map_append, List.map_cons, trimBlanks_append_left hleft]
  · have hjoint : (44 : UInt8) ∉ left ++ bytes := fun h => (List.mem_append.mp h).elim hnone hmem
    rw [splitOn_of_not_mem hjoint, splitOn_of_not_mem hmem]
    simp only [List.map_cons, List.map_nil, trimBlanks_append_left hleft]

/-- Neither do blanks behind it. -/
theorem map_splitOn_append_right (hright : ∀ b ∈ right, isBlank b = true) (bytes : Bytes) :
    (splitOn 44 (bytes ++ right)).map trimBlanks = (splitOn 44 bytes).map trimBlanks := by
  have hnone := not_mem_of_blank hright
  -- the induction is on the length: behind the first comma there is a shorter list
  induction hn : bytes.length using Nat.strongRecOn generalizing bytes with
  | ind n ih =>
    by_cases hmem : (44 : UInt8) ∈ bytes
    · obtain ⟨first, rest, rfl, -⟩ := List.eq_append_cons_of_mem hmem
      have hshorter : rest.length < n := by
        rw [← hn, List.length_append, List.length_cons]
        omega
      rw [List.append_assoc, List.cons_append, splitOn_append_separator, splitOn_append_separator, List.map_append,
        List.map_append, ih rest.length hshorter rest rfl]
    · have hjoint : (44 : UInt8) ∉ bytes ++ right := fun h => (List.mem_append.mp h).elim hmem hnone
      rw [splitOn_of_not_mem hjoint, splitOn_of_not_mem hmem]
      simp only [List.map_cons, List.map_nil, trimBlanks_append_right hright]

/-- The pieces of lists with a separator between two of them are the pieces of each. -/
theorem splitOn_intercalate (separator : UInt8) (part : Bytes) (parts : List Bytes) :
    splitOn separator ([separator].intercalate (part :: parts)) = (part :: parts).flatMap (splitOn separator) := by
  induction parts generalizing part with
  | nil => simp
  | cons next parts ih =>
    rw [List.intercalate_cons_cons, List.append_assoc, List.singleton_append, splitOn_append_separator, ih,
      List.flatMap_cons, List.flatMap_cons, List.flatMap_cons]

variable (htoken : ∀ b ∈ token, isLower b = true) (hsmall : token.map lower = token)

include htoken hsmall

/-- A list is trimmed without losing a word. -/
theorem isElement_trimBlanks (bytes : Bytes) :
    (∃ word, IsElement word (trimBlanks bytes) ∧ word.map lower = token) ↔
      ∃ word, IsElement word bytes ∧ word.map lower = token := by
  obtain ⟨left, right, hpad, hleft, hright⟩ := exists_pad bytes
  have hpieces : (splitOn 44 (trimBlanks bytes)).map trimBlanks = (splitOn 44 bytes).map trimBlanks :=
    calc (splitOn 44 (trimBlanks bytes)).map trimBlanks
        = (splitOn 44 (left ++ trimBlanks bytes)).map trimBlanks := (map_splitOn_append_left hleft _).symm
      _ = (splitOn 44 (left ++ trimBlanks bytes ++ right)).map trimBlanks := (map_splitOn_append_right hright _).symm
      _ = (splitOn 44 bytes).map trimBlanks := by rw [← hpad]
  have hany := congrArg (List.any · fun piece => equalFold piece token) hpieces
  simp only [List.any_map] at hany
  rw [← any_splitOn_iff htoken hsmall, ← any_splitOn_iff htoken hsmall]
  exact iff_of_eq (congrArg (· = true) hany)

/-- **A word is an element of lists with a comma between two of them exactly if it is one of one of them.** -/
theorem isElement_intercalate (part : Bytes) (parts : List Bytes) :
    (∃ word, IsElement word ([44].intercalate (part :: parts)) ∧ word.map lower = token) ↔
      ∃ list ∈ part :: parts, ∃ word, IsElement word list ∧ word.map lower = token := by
  simp only [← any_splitOn_iff htoken hsmall]
  rw [splitOn_intercalate, List.any_flatMap, List.any_eq_true]

end lists

end TextSocket.Ascii
