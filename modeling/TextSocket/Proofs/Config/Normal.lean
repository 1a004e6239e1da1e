import Mathlib.Tactic.ByContra
import TextSocket.Proofs.Config.Export

/-!
# `Proofs.Config.Normal` — loading brings settings into a normal form

Settings that are loaded and exported again come back with the same numbers and with their keys in small letters. Keys
that differ in case only are one name, and **the greatest of them decides**: its text is what is left of them, or
nothing is left if this text does not show (`get?_exportHeaders_iff`). Loading fails exactly if some key is no name or
some text holds a control (`exists_fault_iff`). **Nothing else happens, and nothing happens a second time**
(`ofSettings_normalizes`).

## Contents

* `exists_admits_iff`, `exists_fault_iff` — when settings are refused;
* `getLast?_filter_iff` — the last of some entries in key order is the greatest;
* `Decides`, `get?_exportHeaders_iff` — which text is left for a name;
* `Normalizes`, `ofSettings_normalizes` — the main result.
-/

namespace TextSocket.Config

open Header (Name Value Fields IsName IsControl IsShown)

/-! ## When settings are refused -/

/-- An entry amounts to a field if its key is a name and its text holds no control. -/
theorem exists_admits_iff {entry : String × String} :
    (∃ field, Admits entry field) ↔ IsName (Bytes.ofText entry.1) ∧ ∀ c ∈ entry.2.toList, ¬ IsControl c := by
  rw [← Name.exists_ofBytes?_iff, ← Value.exists_ofBytes?_iff]
  constructor
  · rintro ⟨field, hfield⟩
    exact ⟨⟨field.1, hfield.name⟩, ⟨field.2, hfield.value⟩⟩
  · rintro ⟨⟨name, hname⟩, value, hvalue⟩
    exact ⟨(name, value), hname, hvalue⟩

/-- **One entry that amounts to no field is enough for a refusal.** -/
theorem admitHeaders_refused {entries : List (String × String)} (h : ∃ entry ∈ entries, ¬ ∃ field, Admits entry field) :
    ∃ fault, admitHeaders entries = .error fault := by
  unfold admitHeaders
  generalize Fields.empty = start
  -- the induction is on the entries, since those in front of the bad one may be refused as well
  induction entries generalizing start with
  | nil => simp at h
  | cons entry entries ih =>
    rw [List.foldlM_cons]
    cases hname : Name.ofBytes? (Bytes.ofText entry.1) with
    | none => exact ⟨_, rfl⟩
    | some name =>
      cases hvalue : Value.ofBytes? (Bytes.ofText entry.2) with
      | none => exact ⟨_, rfl⟩
      | some value =>
        obtain ⟨bad, hbad, hnone⟩ := h
        rcases List.mem_cons.1 hbad with rfl | hbad
        · exact absurd ⟨(name, value), hname, hvalue⟩ hnone
        · exact ih ⟨bad, hbad, hnone⟩ _

/-- Fields are made of the entries in their order, if they are made at all. -/
theorem fields_of_ofSettings {settings : Settings} {config : Config} (h : ofSettings settings = .ok config) :
    ∃ fields, List.Forall₂ Admits settings.headers.entries fields ∧
      config.headers = fields.foldl (fun made pair => made.insert pair.1 pair.2) Fields.empty := by
  have hall : ∀ entry ∈ settings.headers.entries, ∃ field, Admits entry field := by
    intro entry hentry
    by_contra hnone
    obtain ⟨fault, hfault⟩ := admitHeaders_refused ⟨entry, hentry, hnone⟩
    rw [ofSettings, hfault] at h
    cases h
  obtain ⟨fields, hfields⟩ := Header.exists_forall₂ hall
  refine ⟨fields, hfields, ?_⟩
  rw [ofSettings, admitHeaders_of_admits hfields] at h
  cases h
  rfl

/-- **Settings are refused exactly if some key is no name or some text holds a control.** -/
theorem exists_fault_iff {settings : Settings} :
    (∃ fault, ofSettings settings = .error fault) ↔
      ∃ key text, settings.headers.get? key = some text ∧
        (¬ IsName (Bytes.ofText key) ∨ ∃ c ∈ text.toList, IsControl c) := by
  constructor
  · rintro ⟨fault, hfault⟩
    by_contra hnone
    have hall : ∀ entry ∈ settings.headers.entries, ∃ field, Admits entry field := by
      intro entry hentry
      rw [exists_admits_iff]
      have hget := Table.mem_entries_iff.1 hentry
      constructor
      · by_contra hname
        exact hnone ⟨entry.1, entry.2, hget, .inl hname⟩
      · intro c hc hcontrol
        exact hnone ⟨entry.1, entry.2, hget, .inr ⟨c, hc, hcontrol⟩⟩
    obtain ⟨fields, hfields⟩ := Header.exists_forall₂ hall
    rw [ofSettings, admitHeaders_of_admits hfields] at hfault
    cases hfault
  · rintro ⟨key, text, hget, hbad⟩
    have hnone : ¬ ∃ field, Admits (key, text) field := by
      rw [exists_admits_iff]
      rintro ⟨hname, hplain⟩
      rcases hbad with hbad | ⟨c, hc, hcontrol⟩
      · exact hbad hname
      · exact hplain c hc hcontrol
    obtain ⟨fault, hfault⟩ := admitHeaders_refused ⟨_, Table.mem_entries_iff.2 hget, hnone⟩
    refine ⟨fault, ?_⟩
    rw [ofSettings, hfault]
    rfl

/-! ## The greatest key decides -/

/-- Of some entries in key order, the last one is the greatest. -/
theorem getLast?_filter_iff {entries : List (String × String)} (sorted : entries.Pairwise fun a b => a.1 < b.1)
    {p : String × String → Bool} {entry : String × String} :
    (entries.filter p).getLast? = some entry ↔
      entry ∈ entries ∧ p entry = true ∧ ∀ other ∈ entries, p other = true → other.1 ≤ entry.1 := by
  have hgreatest {last : String × String} (h : (entries.filter p).getLast? = some last) :
      ∀ other ∈ entries, p other = true → other.1 ≤ last.1 := by
    intro other hother hp
    obtain ⟨front, hfront⟩ := List.getLast?_eq_some_iff.1 h
    have hpairs := sorted.filter p
    rw [hfront, List.pairwise_append] at hpairs
    have hmem : other ∈ front ++ [last] := hfront ▸ List.mem_filter.2 ⟨hother, hp⟩
    rcases List.mem_append.1 hmem with hmem | hmem
    · exact Std.le_of_lt (hpairs.2.2 other hmem last List.mem_cons_self)
    · obtain rfl := List.mem_singleton.1 hmem
      exact String.le_refl _
  constructor
  · intro h
    obtain ⟨hmem, hp⟩ := List.mem_filter.1 (List.mem_of_getLast? h)
    exact ⟨hmem, hp, hgreatest h⟩
  · rintro ⟨hmem, hp, hmost⟩
    cases hlast : (entries.filter p).getLast? with
    | none =>
      have hnil := List.getLast?_eq_none_iff.1 hlast
      exact absurd (List.mem_filter.2 ⟨hmem, hp⟩) (hnil ▸ List.not_mem_nil)
    | some last =>
      obtain ⟨hlastmem, hlastp⟩ := List.mem_filter.1 (List.mem_of_getLast? hlast)
      -- both are greatest, and a key stands for one entry
      have hkey : last.1 = entry.1 := String.le_antisymm (hmost last hlastmem hlastp) (hgreatest hlast entry hmem hp)
      have htext := Table.lookup_eq_some_of_mem sorted hlastmem
      rw [hkey, Table.lookup_eq_some_of_mem sorted hmem] at htext
      exact congrArg some (Prod.ext hkey (Option.some.inj htext).symm)

/-- **The key that decides about a name**: among the keys of a table that are the name when written in small letters,
    the greatest. -/
structure Decides (table : Table) (small key text : String) : Prop where
  /-- It is a key of the table, with a text. -/
  entry : table.get? key = some text
  /-- In small letters it is the name. -/
  lower : key.toLower = small
  /-- No key that is the name in small letters is greater. -/
  greatest : ∀ other otherText, table.get? other = some otherText → other.toLower = small → other ≤ key

theorem decides_iff {table : Table} {small key text : String} :
    Decides table small key text ↔
      (table.entries.filter fun entry => entry.1.toLower == small).getLast? = some (key, text) := by
  rw [getLast?_filter_iff table.sorted]
  simp only [beq_iff_eq]
  constructor
  · rintro ⟨hentry, hlower, hgreatest⟩
    refine ⟨Table.mem_entries_iff.2 hentry, hlower, ?_⟩
    rintro ⟨other, otherText⟩ hother
    exact hgreatest other otherText (Table.mem_entries_iff.1 hother)
  · rintro ⟨hentry, hlower, hgreatest⟩
    refine ⟨Table.mem_entries_iff.1 hentry, hlower, ?_⟩
    intro other otherText hother
    exact hgreatest (other, otherText) (Table.mem_entries_iff.2 hother)

section admits

variable {entries : List (String × String)} {fields : List (Name × Value)}

/-- The values of a name are the texts of the keys that are the name in small letters. -/
theorem values_of_admits (h : List.Forall₂ Admits entries fields) (name : Name) :
    (Fields.valuesIn fields name).map Value.bytes
      = (entries.filter fun entry => entry.1.toLower == name.text).map fun entry => Bytes.ofText entry.2 := by
  induction h with
  | nil => rfl
  | @cons entry field entries fields hentry _ ih =>
    have hlower := Name.text_of_ofBytes? hentry.name
    rw [Fields.valuesIn_cons, List.filter_cons]
    by_cases hname : field.1 = name
    · subst hname
      simp [← hlower, ih, Value.bytes_of_ofBytes? hentry.value]
    · have hother : entry.1.toLower ≠ name.text := by
        rw [← hlower]
        intro e
        exact hname (Name.text_injective e)
      simp [hname, hother, ih]

/-- Every key in small letters is a name. -/
theorem exists_name_of_admits (h : List.Forall₂ Admits entries fields) {entry : String × String}
    (hentry : entry ∈ entries) : ∃ name : Name, name.text = entry.1.toLower := by
  induction h with
  | nil => cases hentry
  | cons hadmits _ ih =>
    rcases List.mem_cons.1 hentry with rfl | hentry
    · exact ⟨_, Name.text_of_ofBytes? hadmits.name⟩
    · exact ih hentry

/-- What settings show of a name is the last value that stands beside it, if this one is printable. -/
theorem lastPrintable_foldl (name : Name) :
    lastPrintable (fields.foldl (fun made pair => made.insert pair.1 pair.2) Fields.empty) name
      = (Fields.valuesIn fields name).getLast?.filter Value.isPrintable := by
  rw [lastPrintable, Fields.values_foldl_insert, Fields.values_empty]
  cases (Fields.valuesIn fields name).getLast? with
  | none => rfl
  | some value => by_cases h : value.isPrintable = true <;> simp [h, Option.filter]

end admits

/-- **The text of the greatest key is what is left of a name**, if it shows. -/
theorem get?_exportHeaders_iff {table : Table} {fields : List (Name × Value)}
    (h : List.Forall₂ Admits table.entries fields) {small text : String} :
    (exportHeaders (fields.foldl (fun made pair => made.insert pair.1 pair.2) Fields.empty)).get? small = some text ↔
      ∃ key, Decides table small key text ∧ ∀ c ∈ text.toList, IsShown c := by
  by_cases hsmall : ∃ name : Name, name.text = small
  case neg =>
    have hnone : ∀ name : Name, name.text ≠ small := fun name e => hsmall ⟨name, e⟩
    rw [get?_exportHeaders_eq_none hnone]
    constructor
    · intro hsome
      cases hsome
    · rintro ⟨key, hkey, -⟩
      obtain ⟨name, hname⟩ := exists_name_of_admits h (Table.mem_entries_iff.2 hkey.entry)
      exact absurd (hname.trans hkey.lower) (hnone name)
  obtain ⟨name, rfl⟩ := hsmall
  have hbytes := congrArg List.getLast? (values_of_admits h name)
  rw [List.getLast?_map, List.getLast?_map] at hbytes
  rw [get?_exportHeaders, lastPrintable_foldl]
  constructor
  · intro hsome
    obtain ⟨value, hvalue, rfl⟩ := Option.map_eq_some_iff.1 hsome
    obtain ⟨hlast, hprintable⟩ := Option.filter_eq_some_iff.1 hvalue
    rw [hlast, Option.map_some] at hbytes
    obtain ⟨⟨key, text⟩, hentry, htext⟩ := Option.map_eq_some_iff.1 hbytes.symm
    have hshown := (Value.isPrintable_iff htext.symm).1 hprintable
    rw [Value.latin1_bytes htext.symm hshown]
    exact ⟨key, decides_iff.2 hentry, hshown⟩
  · rintro ⟨key, hkey, hshown⟩
    rw [decides_iff.1 hkey, Option.map_some] at hbytes
    obtain ⟨value, hlast, hvalue⟩ := Option.map_eq_some_iff.1 hbytes
    have hprintable : value.isPrintable = true := (Value.isPrintable_iff hvalue).2 hshown
    rw [hlast, Option.filter_some, if_pos hprintable, Option.map_some, Value.latin1_bytes hvalue hshown]

/-! ## The normal form -/

/-- **What settings are when they have been loaded and exported.** -/
structure Normalizes (settings normal : Settings) : Prop where
  /-- Heartbeats are as far apart as before. -/
  pingInterval : normal.pingIntervalMs = settings.pingIntervalMs
  /-- A heartbeat waits as long as before. -/
  pingTimeout : normal.pingTimeoutMs = settings.pingTimeoutMs
  /-- A read has as long as before. -/
  receiveTimeout : normal.receiveTimeoutMs = settings.receiveTimeoutMs
  /-- A write has as long as before. -/
  sendTimeout : normal.sendTimeoutMs = settings.sendTimeoutMs
  /-- Buffers are as large as before. -/
  bufferSize : normal.bufferSize = settings.bufferSize
  /-- Each name in small letters has the text of the key that decides about it, if this text shows. -/
  headers : ∀ small text, normal.headers.get? small = some text ↔
    ∃ key, Decides settings.headers small key text ∧ ∀ c ∈ text.toList, IsShown c

theorem normalizes_of_ofSettings {settings : Settings} {config : Config} (h : ofSettings settings = .ok config) :
    Normalizes settings config.settings := by
  obtain ⟨fields, hfields, hheaders⟩ := fields_of_ofSettings h
  rw [ofSettings, admitHeaders_of_admits hfields] at h
  cases h
  constructor
  case headers =>
    intro small text
    exact get?_exportHeaders_iff hfields
  all_goals simp only [Config.settings, Duration.millis_ofMillis]

/-- **Loading and exporting settings normalises them and does nothing else.** It fails, with a failure of the
    configuration, exactly if some key is no name or some text holds a control. Otherwise numbers stay as they are, and
    a name in small letters has the text of the greatest of its keys, if this text shows. A second time changes
    nothing. -/
theorem ofSettings_normalizes (settings : Settings) :
    ((∃ message, (ofSettings settings).mapError Fault.toError = .error (.config message)) ↔
      ∃ key text, settings.headers.get? key = some text ∧
        (¬ IsName (Bytes.ofText key) ∨ ∃ c ∈ text.toList, IsControl c)) ∧
    ∀ config, ofSettings settings = .ok config →
      Normalizes settings config.settings ∧
        ∃ again, ofSettings config.settings = .ok again ∧ again.settings = config.settings := by
  constructor
  · rw [← exists_fault_iff]
    cases ofSettings settings with
    | ok config => simp [Except.mapError]
    | error fault => simp [Except.mapError, Fault.toError]
  · intro config hconfig
    obtain ⟨again, hagain, hsettled⟩ := exists_settled config
    exact ⟨normalizes_of_ofSettings hconfig, again, hagain, hsettled.settings⟩

/-- Settings with names in several cases, and with a text that does not show. -/
def variants : Settings :=
  { Settings.default with
    headers := .ofList [("Trace", "one"), ("trace", "two"), ("accept", "café"), ("Accept", "tea"), ("X-Tab", "a\tb")] }

/-- Small letters are greater than capitals, so they decide; what they decide for does not always show. -/
theorem ofSettings_normalizes_of_variants : ∃ config, ofSettings variants = .ok config ∧
    config.settings.headers.entries = [("trace", "two"), ("x-tab", "a\tb")] ∧
      Normalizes variants config.settings ∧
        ∃ again, ofSettings config.settings = .ok again ∧ again.settings = config.settings := by
  obtain ⟨config, hconfig, hentries⟩ : ∃ config, ofSettings variants = .ok config ∧
      config.settings.headers.entries = [("trace", "two"), ("x-tab", "a\tb")] := ⟨_, rfl, by decide +kernel⟩
  exact ⟨config, hconfig, hentries, (ofSettings_normalizes variants).2 config hconfig⟩

end TextSocket.Config
