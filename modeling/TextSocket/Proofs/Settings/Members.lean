import Mathlib.Data.List.Forall2
import TextSocket.Config
import TextSocket.Proofs.Json.Object
import TextSocket.Proofs.Settings.RoundTrip

/-!
# `Proofs.Settings.Members` — what a document says, member by member

A document of settings may say something about each setting, once and in any order, in any spelling, among members that
nobody knows (`Tells`). **What is read are the defaults, but for what is said** (`read_of_tells`). That does not depend
on the order, nor on the unknown members, since it does not mention them (`Holds`, `Holds.unique`). And **a document that
repeats a known member is refused**, wherever it does so and whatever else it holds (`read_of_repeats`).

## Contents

* `Said`, `Writes`, `IsDocument`, `Tells` — what a document says, and how;
* `putHeader`, `readHeaders_writes`, `readHeaders_exact` — the headers;
* `readMember_writes`, `readMember_exact`, `readEntry_known`, `readEntry_unknown`, `takesExactly_readEntry` — one member;
* `Holds`, `read_of_tells` — a document that says everything once;
* `Names`, `goes_once`, `read_of_repeats` — a document that repeats a member.
-/

namespace TextSocket.Settings

open Config (Quantity)
open Json (Closed Entry Exact Goes IsBody IsGap IsJson Spells Stops TakesExactly objectText)

/-! ## What a document says -/

/-- What a document says about one setting. -/
inductive Said where
  /-- A number. -/
  | word (quantity : Quantity) (n : UInt64)
  /-- The keys and texts of the headers, in their order. -/
  | headers (pairs : List (String × String))

/-- A number of settings. -/
def quantity (settings : Settings) : Quantity → UInt64
  | .pingInterval => settings.pingIntervalMs
  | .pingTimeout => settings.pingTimeoutMs
  | .receiveTimeout => settings.receiveTimeoutMs
  | .sendTimeout => settings.sendTimeoutMs
  | .bufferSize => settings.bufferSize

namespace Said

/-- The member that says it. -/
def member : Said → Member
  | word .pingInterval _ => .pingInterval
  | word .pingTimeout _ => .pingTimeout
  | word .receiveTimeout _ => .receiveTimeout
  | word .sendTimeout _ => .sendTimeout
  | word .bufferSize _ => .bufferSize
  | headers _ => .headers

/-- Settings with what is said. -/
def put (settings : Settings) : Said → Settings
  | word .pingInterval n => { settings with pingIntervalMs := n }
  | word .pingTimeout n => { settings with pingTimeoutMs := n }
  | word .receiveTimeout n => { settings with receiveTimeoutMs := n }
  | word .sendTimeout n => { settings with sendTimeoutMs := n }
  | word .bufferSize n => { settings with bufferSize := n }
  | headers pairs => { settings with headers := .ofList pairs }

end Said

/-- A member that writes a header: two strings that stand for its key and its text. -/
structure WritesHeader (entry : Entry) (pair : String × String) : Prop where
  /-- The key. -/
  key : Spells entry.key pair.1.toList
  /-- The text. -/
  value : ∃ body, entry.value = '"' :: (body ++ ['"']) ∧ Spells body pair.2.toList

/-- A value that writes what is said: plain digits, or an object of strings. -/
inductive Said.Writes : Said → List Char → Prop where
  /-- Plain digits. -/
  | word (quantity : Quantity) (n : UInt64) : Writes (.word quantity n) (Nat.toDigits 10 n.toNat)
  /-- An object of strings. -/
  | headers {gap : List Char} {entries : List Entry} {pairs : List (String × String)} (hgap : IsGap gap)
      (hspaced : ∀ entry ∈ entries, entry.IsSpaced) (hentries : List.Forall₂ WritesHeader entries pairs) :
      Writes (.headers pairs) (objectText gap entries)

/-- **A member that says something**, or that nobody knows. -/
inductive Writes : Entry → Option Said → Prop where
  /-- A known member, with a key in any spelling. -/
  | known {entry : Entry} {said : Said} (hkey : Spells entry.key said.member.key.toList)
      (hvalue : said.Writes entry.value) : Writes entry (some said)
  /-- Another member, with any value. -/
  | unknown {entry : Entry} {key : String} (hkey : Spells entry.key key.toList) (hother : ∀ m : Member, key ≠ m.key)
      (hvalue : IsJson entry.value) : Writes entry none

/-- What members say, of those that say something. -/
def said (items : List (Option Said)) : List Said := items.filterMap id

/-- **A document is an object with given members**, with white space anywhere between its parts. -/
structure IsDocument (document : String) (entries : List Entry) : Prop where
  /-- The text. -/
  text : ∃ front gap back, IsGap front ∧ IsGap gap ∧ IsGap back ∧
    document.toList = front ++ (objectText gap entries ++ back)
  /-- The white space within the members. -/
  spaced : ∀ entry ∈ entries, entry.IsSpaced

/-- **A document that says given things**, each about another setting. -/
structure Tells (document : String) (sayings : List Said) : Prop where
  /-- Its members say them, in this order. -/
  written : ∃ entries items, IsDocument document entries ∧ List.Forall₂ Writes entries items ∧ said items = sayings
  /-- Nothing is said twice. -/
  once : (sayings.map Said.member).Nodup

/-! ## The headers -/

/-- Reads one header into a table. -/
def putHeader (table : Table) (key : String) (s : List Char) : Except Json.Stuck (Table × List Char) := do
  let rest ← Json.readColon s
  let (value, rest) ← Json.readText "a string" rest
  .ok (table.insert key value, rest)

section headers

variable {gap rest : List Char} {entries : List Entry}

/-- The text of a member from behind its key, with what stands behind the member. -/
theorem tail_append (entry : Entry) (rest : List Char) : entry.tail ++ rest
    = entry.behind ++ ':' :: (entry.ahead ++ (entry.value ++ (entry.back ++ rest))) := by
  simp [Entry.tail]

theorem objectText_append (gap : List Char) (entries : List Entry) (rest : List Char) :
    objectText gap entries ++ rest = '\x7b' :: (Json.inside gap (entries.map Entry.text) ++ '\x7d' :: rest) := by
  rw [objectText, List.cons_append, List.append_assoc, List.singleton_append]

/-- The headers are an object that is read header by header. -/
theorem readHeaders_object (hgap : IsGap gap) (inner : List Char) (entries : List Entry) (rest : List Char) :
    readHeaders (gap ++ (objectText inner entries ++ rest))
      = Json.readObject putHeader Table.empty (Json.inside inner (entries.map Entry.text) ++ '\x7d' :: rest) := by
  rw [objectText_append, readHeaders, Json.skipBlanks_gap hgap, Json.skipBlanks_cons rfl]
  rfl

/-- A header is put into the table. -/
theorem putHeader_writes {entry : Entry} {pair : String × String} (hspaced : entry.IsSpaced)
    (h : WritesHeader entry pair) (table : Table) (rest : List Char) :
    putHeader table pair.1 (entry.tail ++ rest) = .ok (table.insert pair.1 pair.2, entry.back ++ rest) := by
  obtain ⟨body, hvalue, hbody⟩ := h.value
  have hshape : entry.tail ++ rest
      = entry.behind ++ ':' :: (entry.ahead ++ ('"' :: (body ++ '"' :: (entry.back ++ rest)))) := by
    simp [Entry.tail, hvalue]
  rw [putHeader, hshape, Json.readColon_gap hspaced.behind]
  show (Json.readText _ _ >>= _) = _
  rw [Json.readText_spells _ hspaced.ahead hbody, String.ofList_toList]
  rfl

/-- The headers are put into the table one after another. -/
theorem goes_headers {pairs : List (String × String)} (hspaced : ∀ entry ∈ entries, entry.IsSpaced)
    (h : List.Forall₂ WritesHeader entries pairs) (table : Table) (rest : List Char) :
    Goes putHeader rest table entries (pairs.foldl (fun table pair => table.insert pair.1 pair.2) table) := by
  induction h generalizing table with
  | nil => exact .nil table
  | @cons entry pair entries pairs hentry _ ih =>
    obtain ⟨hspaced, hspaceds⟩ := List.forall_mem_cons.mp hspaced
    refine .cons hentry.key ?_ (ih hspaceds _)
    rw [String.ofList_toList]
    exact putHeader_writes hspaced hentry table _

/-- **Headers are read in any spelling.** -/
theorem readHeaders_writes {inner : List Char} {pairs : List (String × String)} (hgap : IsGap gap) (hinner : IsGap inner)
    (hspaced : ∀ entry ∈ entries, entry.IsSpaced) (h : List.Forall₂ WritesHeader entries pairs) (rest : List Char) :
    readHeaders (gap ++ (objectText inner entries ++ rest)) = .ok (.ofList pairs, rest) := by
  rw [readHeaders_object hgap]
  exact Json.readObject_goes (goes_headers hspaced h Table.empty rest) hspaced hinner

/-- A header is taken exactly, or its reader stops. -/
theorem takesExactly_putHeader (hspaced : ∀ entry ∈ entries, entry.IsSpaced)
    (hvalues : ∀ entry ∈ entries, IsJson entry.value) : TakesExactly putHeader entries := by
  intro entry hentry table key rest hrest
  rw [putHeader, tail_append, Json.readColon_gap (hspaced entry hentry).behind]
  show Exact _ (Json.readText _ _ >>= _)
  rcases Json.readText_exact "a string" (hspaced entry hentry).ahead (hvalues entry hentry) (entry.back ++ rest) with
    hstops | ⟨value, hread⟩
  · exact Or.inl (hstops.bind _)
  · rw [hread]
    exact Or.inr ⟨_, rfl⟩

/-- Headers begin with a brace. -/
theorem readHeaders_stops {s more : List Char} {c : Char} (hskip : Json.skipBlanks s = c :: more) (hbrace : c ≠ '\x7b') :
    Stops (readHeaders s) := by
  unfold readHeaders
  rw [hskip]
  dsimp only
  split
  · exact ⟨_, rfl⟩
  · next heq => exact absurd (List.cons.inj heq).1 hbrace
  · exact Json.wrongType_stops _ _

/-- **Headers are read from a value exactly, or not at all.** -/
theorem readHeaders_exact {value : List Char} (hgap : IsGap gap) (h : IsJson value) (rest : List Char) :
    Exact rest (readHeaders (gap ++ (value ++ rest))) := by
  have hskip := Json.skipBlanks_value hgap h rest
  cases h with
  | null => exact Or.inl (readHeaders_stops hskip (by decide))
  | true => exact Or.inl (readHeaders_stops hskip (by decide))
  | false => exact Or.inl (readHeaders_stops hskip (by decide))
  | string _ => exact Or.inl (readHeaders_stops hskip (by decide))
  | list _ _ _ => exact Or.inl (readHeaders_stops hskip (by decide))
  | number htext =>
    obtain ⟨c, more, rfl, hhead⟩ := htext.head
    refine Or.inl (readHeaders_stops hskip ?_)
    rintro rfl
    exact absurd hhead (by decide)
  | object hinner hspaced hkeys hvalues =>
    rw [readHeaders_object hgap]
    rcases Json.goes_or_stops hspaced hkeys (takesExactly_putHeader hspaced hvalues) _ Table.empty with
      ⟨table, htable⟩ | hstops
    · exact Or.inr ⟨table, Json.readObject_goes htable hspaced hinner⟩
    · exact Or.inl hstops

end headers

/-! ## One member -/

section members

variable {gap rest : List Char}

/-- **What is said is read into the settings.** -/
theorem readMember_writes {said : Said} {value : List Char} (h : said.Writes value) (hgap : IsGap gap)
    (hrest : Closed rest) (settings : Settings) :
    readMember said.member settings (gap ++ (value ++ rest)) = .ok (said.put settings, rest) := by
  cases h with
  | word quantity n =>
    have hread (expected : String) : Json.readWord expected (gap ++ (Nat.toDigits 10 n.toNat ++ rest)) = .ok (n, rest) := by
      rw [Json.readWord_gap expected hgap]
      exact Json.readWord_writeWord expected n hrest
    cases quantity with
    | pingInterval => simp only [Said.member, readMember, hread, bind, Except.bind, Said.put]
    | pingTimeout => simp only [Said.member, readMember, hread, bind, Except.bind, Said.put]
    | receiveTimeout => simp only [Said.member, readMember, hread, bind, Except.bind, Said.put]
    | sendTimeout => simp only [Said.member, readMember, hread, bind, Except.bind, Said.put]
    | bufferSize => simp only [Said.member, readMember, hread, bind, Except.bind, Said.put]
  | headers hinner hspaced hentries =>
    simp only [Said.member, readMember, readHeaders_writes hgap hinner hspaced hentries, bind, Except.bind, Said.put]

/-- A value is read into the settings exactly, or its reader stops. -/
theorem readMember_exact {value : List Char} (member : Member) (settings : Settings) (hgap : IsGap gap)
    (h : IsJson value) (hrest : Closed rest) : Exact rest (readMember member settings (gap ++ (value ++ rest))) := by
  have step {α : Type} {outcome : Except Json.Stuck (α × List Char)} (houtcome : Exact rest outcome)
      (put : α → Settings) : Exact rest (outcome >>= fun read => .ok (put read.1, read.2)) := by
    rcases houtcome with hstops | ⟨a, rfl⟩
    · exact Or.inl (hstops.bind _)
    · exact Or.inr ⟨put a, rfl⟩
  cases member with
  | headers => exact step (readHeaders_exact hgap h rest) fun table => { settings with headers := table }
  | pingInterval => exact step (Json.readWord_exact "u64" hgap h hrest) fun n => { settings with pingIntervalMs := n }
  | pingTimeout => exact step (Json.readWord_exact "u64" hgap h hrest) fun n => { settings with pingTimeoutMs := n }
  | receiveTimeout =>
    exact step (Json.readWord_exact "u64" hgap h hrest) fun n => { settings with receiveTimeoutMs := n }
  | sendTimeout => exact step (Json.readWord_exact "u64" hgap h hrest) fun n => { settings with sendTimeoutMs := n }
  | bufferSize => exact step (Json.readWord_exact "usize" hgap h hrest) fun n => { settings with bufferSize := n }

theorem ofKey?_eq_none {key : String} (h : ∀ m : Member, key ≠ m.key) : Member.ofKey? key = none := by
  rw [Member.ofKey?, List.find?_eq_none]
  intro m _ heq
  exact h m (beq_iff_eq.mp heq).symm

theorem key_of_ofKey? {key : String} {m : Member} (h : Member.ofKey? key = some m) : key = m.key := by
  rw [Member.ofKey?] at h
  have hfound := List.find?_some h
  exact (beq_iff_eq.mp hfound).symm

/-- **A known member is read, if it has not been seen**; what it says is put into the draft. -/
theorem readEntry_known {entry : Entry} {said : Said} (hspaced : entry.IsSpaced) (h : said.Writes entry.value)
    {draft : Draft} (hunseen : said.member ∉ draft.seen) (hrest : Closed rest) :
    readEntry draft said.member.key (entry.tail ++ rest)
      = .ok (⟨said.put draft.settings, said.member :: draft.seen⟩, entry.back ++ rest) := by
  have hclosed := Json.closed_gap hspaced.back hrest
  simp only [readEntry, Member.ofKey?_key, if_neg hunseen, tail_append, Json.readColon_gap hspaced.behind,
    readMember_writes h hspaced.ahead hclosed, bind, Except.bind]

/-- **An unknown member is passed over.** -/
theorem readEntry_unknown {entry : Entry} {key : String} (hspaced : entry.IsSpaced) (hkey : Member.ofKey? key = none)
    (hvalue : IsJson entry.value) (draft : Draft) (hrest : Closed rest) :
    readEntry draft key (entry.tail ++ rest) = .ok (draft, entry.back ++ rest) := by
  have hclosed := Json.closed_gap hspaced.back hrest
  simp only [readEntry, hkey, tail_append, Json.readColon_gap hspaced.behind,
    Json.skipValue_append hspaced.ahead hvalue hclosed, bind, Except.bind]

/-- A member with any value is taken exactly, or its reader stops. -/
theorem takesExactly_readEntry {entries : List Entry} (hspaced : ∀ entry ∈ entries, entry.IsSpaced)
    (hvalues : ∀ entry ∈ entries, IsJson entry.value) : TakesExactly readEntry entries := by
  intro entry hentry draft key rest hrest
  have hgaps := hspaced entry hentry
  have hclosed := Json.closed_gap hgaps.back hrest
  cases hkey : Member.ofKey? key with
  | none => exact Or.inr ⟨draft, readEntry_unknown hgaps hkey (hvalues entry hentry) draft hrest⟩
  | some member =>
    by_cases hseen : member ∈ draft.seen
    · simp only [readEntry, hkey, if_pos hseen]
      exact Or.inl ⟨_, rfl⟩
    · simp only [readEntry, hkey, if_neg hseen, tail_append, Json.readColon_gap hgaps.behind, bind, Except.bind]
      rcases readMember_exact member draft.settings hgaps.ahead (hvalues entry hentry) hclosed with
        ⟨stuck, hstuck⟩ | ⟨settings, hread⟩
      · rw [hstuck]
        exact Or.inl ⟨stuck, rfl⟩
      · rw [hread]
        exact Or.inr ⟨_, rfl⟩

/-- What a member that is taken leaves: it had not been seen, and it has been seen now. -/
theorem seen_of_readEntry {draft next : Draft} {key : String} {s left : List Char}
    (h : readEntry draft key s = .ok (next, left)) :
    (∀ m, key = Member.key m → m ∉ draft.seen ∧ m ∈ next.seen) ∧ ∀ m ∈ draft.seen, m ∈ next.seen := by
  unfold readEntry at h
  cases hkey : Member.ofKey? key with
  | none =>
    simp only [hkey, bind, Except.bind] at h
    have hnext : next = draft := by
      split at h
      · cases h
      · split at h
        · cases h
        · cases h
          rfl
    subst hnext
    refine ⟨?_, fun m hm => hm⟩
    rintro m rfl
    rw [Member.ofKey?_key] at hkey
    cases hkey
  | some member =>
    obtain rfl := key_of_ofKey? hkey
    simp only [hkey] at h
    split at h
    · cases h
    · next hunseen =>
      simp only [bind, Except.bind] at h
      split at h
      · cases h
      · split at h
        · cases h
        · cases h
          refine ⟨?_, fun m hm => List.mem_cons_of_mem _ hm⟩
          intro m hm
          have hsame : some m = some member := by rw [← Member.ofKey?_key m, ← hm, Member.ofKey?_key]
          cases hsame
          exact ⟨hunseen, List.mem_cons_self⟩

end members

/-! ## A document that says everything once -/

section documents

variable {document : String} {entries : List Entry}

/-- A document is read as its members are gone through. -/
theorem read_of_document (h : IsDocument document entries) : ∃ gap back, IsGap back ∧
    (∀ last, Goes readEntry back ⟨Settings.default, []⟩ entries last → read document = .ok last.settings) ∧
    (Stops (Json.readObject readEntry ⟨Settings.default, []⟩
        (Json.inside gap (entries.map Entry.text) ++ '\x7d' :: back)) → ∃ cause, read document = .error cause) := by
  obtain ⟨front, gap, back, hfront, hgap, hback, htext⟩ := h.text
  have hvalue : readValue document.toList = Json.readObject readEntry ⟨Settings.default, []⟩
      (Json.inside gap (entries.map Entry.text) ++ '\x7d' :: back) >>= fun read => .ok (read.1.settings, read.2) := by
    rw [htext, objectText_append, readValue, Json.skipBlanks_gap hfront, Json.skipBlanks_cons rfl]
    rfl
  refine ⟨gap, back, hback, ?_, ?_⟩
  · intro last hlast
    have hempty : Json.skipBlanks back = [] := by
      have hskip := Json.skipBlanks_gap hback []
      rw [List.append_nil] at hskip
      exact hskip
    rw [Json.readObject_goes hlast h.spaced hgap] at hvalue
    rw [read, Json.read, hvalue]
    simp only [bind, Except.bind, hempty]
    rfl
  · rintro ⟨stuck, hstuck⟩
    rw [hstuck] at hvalue
    refine ⟨stuck.toError document.toList, ?_⟩
    rw [read, Json.read, hvalue]
    rfl

/-- **The members of a document are taken one after another**, and what they say is put into the draft. -/
theorem goes_of_writes {items : List (Option Said)} (hspaced : ∀ entry ∈ entries, entry.IsSpaced)
    (h : List.Forall₂ Writes entries items) (draft : Draft) (honce : ((said items).map Said.member).Nodup)
    (hunseen : ∀ s ∈ said items, s.member ∉ draft.seen) (rest : List Char) :
    ∃ last, Goes readEntry rest draft entries last ∧ last.settings = (said items).foldl Said.put draft.settings := by
  induction h generalizing draft with
  | nil => exact ⟨draft, .nil draft, rfl⟩
  | @cons entry item entries items hentry _ ih =>
    obtain ⟨hspaced, hspaceds⟩ := List.forall_mem_cons.mp hspaced
    have hclosed := Json.closed_behind entries rest
    cases hentry with
    | @known said hkey hvalue =>
      change ((said :: Settings.said items).map Said.member).Nodup at honce
      change ∀ s ∈ said :: Settings.said items, s.member ∉ draft.seen at hunseen
      rw [List.map_cons, List.nodup_cons] at honce
      obtain ⟨hfirst, hlater⟩ := List.forall_mem_cons.mp hunseen
      have hrest : ∀ s ∈ Settings.said items, s.member ∉ said.member :: draft.seen := by
        intro s hs hseen
        rcases List.mem_cons.mp hseen with heq | hseen
        · exact honce.1 (heq ▸ List.mem_map_of_mem hs)
        · exact hlater s hs hseen
      obtain ⟨last, hlast, hsettings⟩ :=
        ih hspaceds ⟨said.put draft.settings, said.member :: draft.seen⟩ honce.2 hrest
      refine ⟨last, .cons hkey ?_ hlast, hsettings⟩
      rw [String.ofList_toList]
      exact readEntry_known hspaced hvalue hfirst hclosed
    | @unknown key hkey hother hvalue =>
      obtain ⟨last, hlast, hsettings⟩ := ih hspaceds draft honce hunseen
      refine ⟨last, .cons hkey ?_ hlast, hsettings⟩
      rw [String.ofList_toList]
      exact readEntry_unknown hspaced (ofKey?_eq_none hother) hvalue draft hclosed

end documents

/-! ## The settings that are read -/

/-- **Settings hold what is said, and the defaults otherwise.** -/
structure Holds (settings : Settings) (sayings : List Said) : Prop where
  /-- A number that is said. -/
  word : ∀ q n, .word q n ∈ sayings → settings.quantity q = n
  /-- A number about which nothing is said. -/
  otherWord : ∀ q, (∀ n, .word q n ∉ sayings) → settings.quantity q = Settings.default.quantity q
  /-- Headers that are said: of equal keys the last one counts. -/
  headers : ∀ pairs, .headers pairs ∈ sayings →
    ∀ key, settings.headers.get? key = (Table.texts pairs key).getLast?
  /-- No headers are said. -/
  noHeaders : (∀ pairs, .headers pairs ∉ sayings) → settings.headers = Settings.default.headers

section holds

variable {sayings : List Said}

theorem eq_of_quantity {settings other : Settings} (hquantity : ∀ q, settings.quantity q = other.quantity q)
    (hheaders : settings.headers = other.headers) : settings = other := by
  have hinterval := hquantity .pingInterval
  have htimeout := hquantity .pingTimeout
  have hreceive := hquantity .receiveTimeout
  have hsend := hquantity .sendTimeout
  have hbuffer := hquantity .bufferSize
  obtain ⟨interval, timeout, receive, send, buffer, headers⟩ := settings
  simp only [quantity] at hinterval htimeout hreceive hsend hbuffer
  rw [hinterval, htimeout, hreceive, hsend, hbuffer]
  obtain rfl : headers = other.headers := hheaders
  rfl

/-- **What is said determines the settings**, in whatever order it is said. -/
theorem Holds.unique {settings other : Settings} {sayings' : List Said} (h : Holds settings sayings)
    (h' : Holds other sayings') (hsame : ∀ s, s ∈ sayings ↔ s ∈ sayings') : settings = other := by
  apply eq_of_quantity
  · intro q
    by_cases hword : ∃ n, Said.word q n ∈ sayings
    · obtain ⟨n, hn⟩ := hword
      rw [h.word q n hn, h'.word q n ((hsame _).mp hn)]
    · have hnone : ∀ n, Said.word q n ∉ sayings := fun n hn => hword ⟨n, hn⟩
      rw [h.otherWord q hnone, h'.otherWord q fun n hn => hnone n ((hsame _).mpr hn)]
  · by_cases hheaders : ∃ pairs, Said.headers pairs ∈ sayings
    · obtain ⟨pairs, hpairs⟩ := hheaders
      apply Table.ext_get?
      intro key
      rw [h.headers pairs hpairs key, h'.headers pairs ((hsame _).mp hpairs) key]
    · have hnone : ∀ pairs, Said.headers pairs ∉ sayings := fun pairs hpairs => hheaders ⟨pairs, hpairs⟩
      rw [h.noHeaders hnone, h'.noHeaders fun pairs hpairs => hnone pairs ((hsame _).mpr hpairs)]

theorem quantity_put_word (settings : Settings) (q q' : Quantity) (n : UInt64) :
    ((Said.word q n).put settings).quantity q' = if q = q' then n else settings.quantity q' := by
  cases q with
  | pingInterval => cases q' <;> rfl
  | pingTimeout => cases q' <;> rfl
  | receiveTimeout => cases q' <;> rfl
  | sendTimeout => cases q' <;> rfl
  | bufferSize => cases q' <;> rfl

theorem headers_put_word (settings : Settings) (q : Quantity) (n : UInt64) :
    ((Said.word q n).put settings).headers = settings.headers := by
  cases q <;> rfl

/-- A number about which nothing is said stays. -/
theorem quantity_foldl_of_not_mem {q : Quantity} (h : ∀ n, .word q n ∉ sayings) (settings : Settings) :
    (sayings.foldl Said.put settings).quantity q = settings.quantity q := by
  induction sayings generalizing settings with
  | nil => rfl
  | cons s sayings ih =>
    rw [List.foldl_cons, ih fun n hn => h n (List.mem_cons_of_mem _ hn)]
    cases s with
    | word q' n =>
      have hne : q' ≠ q := by
        rintro rfl
        exact h n List.mem_cons_self
      rw [quantity_put_word, if_neg hne]
    | headers pairs => cases q <;> rfl

/-- Headers about which nothing is said stay. -/
theorem headers_foldl_of_not_mem (h : ∀ pairs, .headers pairs ∉ sayings) (settings : Settings) :
    (sayings.foldl Said.put settings).headers = settings.headers := by
  induction sayings generalizing settings with
  | nil => rfl
  | cons s sayings ih =>
    rw [List.foldl_cons, ih fun pairs hpairs => h pairs (List.mem_cons_of_mem _ hpairs)]
    cases s with
    | word q n => exact headers_put_word settings q n
    | headers pairs => exact absurd List.mem_cons_self (h pairs)

/-- **Settings into which everything is put once hold it.** -/
theorem holds_foldl (honce : (sayings.map Said.member).Nodup) :
    Holds (sayings.foldl Said.put Settings.default) sayings := by
  constructor
  case otherWord =>
    intro q h
    exact quantity_foldl_of_not_mem h _
  case noHeaders =>
    intro h
    exact headers_foldl_of_not_mem h _
  case word =>
    intro q n hmem
    obtain ⟨before, after, rfl⟩ := List.append_of_mem hmem
    rw [List.map_append, List.map_cons, List.nodup_append] at honce
    -- nothing behind it says anything about the same number
    have hlater : ∀ m, Said.word q m ∉ after := by
      intro m hm
      apply (List.nodup_cons.mp honce.2.1).1
      have hsame : (Said.word q n).member = (Said.word q m).member := by cases q <;> rfl
      rw [hsame]
      exact List.mem_map_of_mem hm
    rw [List.foldl_append, List.foldl_cons, quantity_foldl_of_not_mem hlater, quantity_put_word, if_pos rfl]
  case headers =>
    intro pairs hmem key
    obtain ⟨before, after, rfl⟩ := List.append_of_mem hmem
    rw [List.map_append, List.map_cons, List.nodup_append] at honce
    have hlater : ∀ pairs', Said.headers pairs' ∉ after := by
      intro pairs' hm
      apply (List.nodup_cons.mp honce.2.1).1
      show (Said.headers pairs').member ∈ after.map Said.member
      exact List.mem_map_of_mem hm
    rw [List.foldl_append, List.foldl_cons, headers_foldl_of_not_mem hlater]
    exact Table.get?_ofList pairs key

end holds

/-- **A document that says each thing once is read as the defaults, but for what it says.** -/
theorem read_of_tells {document : String} {sayings : List Said} (h : Tells document sayings) :
    ∃ settings, read document = .ok settings ∧ settings.Holds sayings := by
  obtain ⟨entries, items, hdocument, hwrites, rfl⟩ := h.written
  obtain ⟨_, back, _, hread, _⟩ := read_of_document hdocument
  obtain ⟨last, hlast, hsettings⟩ := goes_of_writes hdocument.spaced hwrites ⟨Settings.default, []⟩ h.once
    (fun _ _ => List.not_mem_nil) back
  refine ⟨last.settings, hread last hlast, ?_⟩
  rw [hsettings]
  exact holds_foldl h.once

/-! ## A document that repeats a member -/

/-- A key that stands for that of a known member. -/
def Names (entry : Entry) (m : Member) : Prop := Spells entry.key m.key.toList

/-- Two members with the key of one known member, wherever they stand. -/
def Repeats (entries : List Entry) : Prop :=
  ∃ front first between second back m, entries = front ++ first :: between ++ second :: back ∧
    Names first m ∧ Names second m

section repeats

variable {document : String} {entries : List Entry}

/-- **Members that are gone through repeat nothing**, and nothing that has been seen before. -/
theorem goes_once {rest : List Char} {draft last : Draft} (h : Goes readEntry rest draft entries last) :
    (∀ entry ∈ entries, ∀ m, Names entry m → m ∉ draft.seen) ∧
      entries.Pairwise fun first second => ∀ m, ¬ (Names first m ∧ Names second m) := by
  induction h with
  | nil draft => exact ⟨nofun, .nil⟩
  | @cons draft next last entry entries text hkey hmember _ ih =>
    obtain ⟨hunseen, hpairs⟩ := ih
    obtain ⟨hnew, hold⟩ := seen_of_readEntry hmember
    have hnamed {m : Member} (hname : Names entry m) : m ∉ draft.seen ∧ m ∈ next.seen := by
      apply hnew
      rw [hkey.unique hname, String.ofList_toList]
    constructor
    · intro other hother m hname
      rcases List.mem_cons.mp hother with rfl | hother
      · exact (hnamed hname).1
      · exact fun hseen => hunseen other hother m hname (hold m hseen)
    · refine List.pairwise_cons.mpr ⟨?_, hpairs⟩
      rintro other hother m ⟨hfirst, hsecond⟩
      exact hunseen other hother m hsecond (hnamed hfirst).2

theorem not_goes_of_repeats (h : Repeats entries) (rest : List Char) (draft last : Draft) :
    ¬ Goes readEntry rest draft entries last := by
  obtain ⟨front, first, between, second, back, m, rfl, hfirst, hsecond⟩ := h
  intro hgoes
  have hpairs := (goes_once hgoes).2
  rw [List.append_assoc, List.cons_append, List.pairwise_append, List.pairwise_cons] at hpairs
  exact hpairs.2.1.1 second (List.mem_append_right _ List.mem_cons_self) m ⟨hfirst, hsecond⟩

/-- **A document that repeats a member is refused**, whatever its members are. -/
theorem read_of_repeats (hdocument : IsDocument document entries) (hkeys : ∀ entry ∈ entries, IsBody entry.key)
    (hvalues : ∀ entry ∈ entries, IsJson entry.value) (hrepeats : Repeats entries) :
    ∃ cause, read document = .error cause := by
  obtain ⟨gap, back, _, _, hstops⟩ := read_of_document hdocument
  apply hstops
  rcases Json.goes_or_stops hdocument.spaced hkeys (takesExactly_readEntry hdocument.spaced hvalues) gap
    ⟨Settings.default, []⟩ with ⟨last, hgoes⟩ | hstopped
  · exact absurd hgoes (not_goes_of_repeats hrepeats back _ last)
  · exact hstopped

end repeats

end TextSocket.Settings
