import TextSocket.Config
import TextSocket.Proofs.Header.Fields
import TextSocket.Proofs.Header.Spelling
import TextSocket.Proofs.Settings.RoundTrip

/-!
# `Proofs.Config.Export` — exported settings are a fixed point

Settings cannot say all that a configuration holds: spans come in whole milliseconds of one word, a name has one
value, and a value is printable text. What they do say is admitted again, and says the same again: **the settings of
a configuration make a configuration with these settings** (`export_settles`), and they survive being written down.

## Contents

* `Admits`, `admitHeaders_of_admits`, `exportHeaders_eq` — headers from entries, and the entries that show them;
* `Settled`, `exists_settled`, `export_settles` — what is kept, and the main result.
-/

namespace TextSocket

namespace Config

open Header (Name Value Fields)

/-! ## Headers -/

/-- A pair as settings show it. -/
def shown (pair : Name × Value) : String × String := (pair.1.text, pair.2.bytes.latin1)

theorem shown_fst (pair : Name × Value) : (shown pair).1 = pair.1.text := rfl

/-- The value of a name that settings show: the last one that is printable. -/
def lastPrintable (fields : Fields) (name : Name) : Option Value :=
  ((fields.values name).filter Value.isPrintable).getLast?

/-- An entry of settings and the field that it amounts to. -/
structure Admits (entry : String × String) (field : Name × Value) : Prop where
  /-- The key is the name. -/
  name : Name.ofBytes? (Bytes.ofText entry.1) = some field.1
  /-- The text is the value. -/
  value : Value.ofBytes? (Bytes.ofText entry.2) = some field.2

/-- **Entries that amount to fields are admitted**, each in the place of those before it with its name. -/
theorem admitHeaders_of_admits {entries : List (String × String)} {fields : List (Name × Value)}
    (h : List.Forall₂ Admits entries fields) :
    admitHeaders entries = .ok (fields.foldl (fun fields pair => fields.insert pair.1 pair.2) Fields.empty) := by
  unfold admitHeaders
  generalize Fields.empty = start
  induction h generalizing start with
  | nil => rfl
  | cons hentry _ ih =>
    rw [List.foldlM_cons]
    simp only [hentry.name, hentry.value]
    exact ih _

/-- What is shown of a printable value amounts to it. -/
theorem admits_shown {pair : Name × Value} (printable : pair.2.isPrintable = true) : Admits (shown pair) pair where
  name := Name.ofBytes?_text pair.1
  value := Value.ofBytes?_text printable

/-- **What is shown is admitted.** -/
theorem admitHeaders_shown {pairs : List (Name × Value)} (printable : ∀ pair ∈ pairs, pair.2.isPrintable = true) :
    admitHeaders (pairs.map shown)
      = .ok (pairs.foldl (fun fields pair => fields.insert pair.1 pair.2) Fields.empty) := by
  apply admitHeaders_of_admits
  rw [List.forall₂_map_left_iff, List.forall₂_same]
  intro pair hpair
  exact admits_shown (printable pair hpair)

theorem texts_shown (pairs : List (Name × Value)) (name : Name) :
    Table.texts (pairs.map shown) name.text = (Fields.valuesIn pairs name).map fun value => value.bytes.latin1 := by
  induction pairs with
  | nil => rfl
  | cons pair pairs ih =>
    rw [List.map_cons, Table.texts_cons, shown_fst, Fields.valuesIn_cons, ih]
    by_cases h : pair.1 = name
    · rw [if_pos h, if_pos (congrArg Name.text h)]
      rfl
    · rw [if_neg h, if_neg (fun e => h (Name.text_injective e))]

theorem texts_shown_eq_nil {key : String} (h : ∀ name : Name, name.text ≠ key) (pairs : List (Name × Value)) :
    Table.texts (pairs.map shown) key = [] := by
  induction pairs with
  | nil => rfl
  | cons pair pairs ih => rw [List.map_cons, Table.texts_cons, shown_fst, if_neg (h pair.1), ih]

theorem valuesIn_filter (pairs : List (Name × Value)) (name : Name) :
    Fields.valuesIn (pairs.filter fun pair => pair.2.isPrintable) name
      = (Fields.valuesIn pairs name).filter Value.isPrintable := by
  induction pairs with
  | nil => rfl
  | cons pair pairs ih =>
    rw [List.filter_cons, Fields.valuesIn_cons]
    by_cases hname : pair.1 = name <;> by_cases hvalue : pair.2.isPrintable = true <;>
      simp [Fields.valuesIn_cons, hname, hvalue, ih]

/-- Settings show the printable values. -/
theorem exportHeaders_eq (fields : Fields) :
    exportHeaders fields = Table.ofList ((fields.toList.filter fun pair => pair.2.isPrintable).map shown) := by
  unfold exportHeaders
  congr 1
  induction fields.toList with
  | nil => rfl
  | cons pair pairs ih =>
    rw [List.filterMap_cons, List.filter_cons, ih]
    by_cases h : pair.2.isPrintable = true
    · have text : pair.2.text? = some pair.2.bytes.latin1 := if_pos h
      rw [if_pos h, text]
      rfl
    · have text : pair.2.text? = none := if_neg h
      rw [if_neg h, text]
      rfl

/-- **Settings show the last printable value of a name.** -/
theorem get?_exportHeaders (fields : Fields) (name : Name) :
    (exportHeaders fields).get? name.text = (lastPrintable fields name).map fun value => value.bytes.latin1 := by
  rw [exportHeaders_eq, Table.get?_ofList, texts_shown, valuesIn_filter, Fields.valuesIn_toList, List.getLast?_map]
  rfl

theorem get?_exportHeaders_eq_none {key : String} (h : ∀ name : Name, name.text ≠ key) (fields : Fields) :
    (exportHeaders fields).get? key = none := by
  rw [exportHeaders_eq, Table.get?_ofList, texts_shown_eq_nil h]
  rfl

theorem exists_shown {entries : List (String × String)} {fields : Fields}
    (h : ∀ e ∈ entries, e ∈ (fields.toList.filter fun pair => pair.2.isPrintable).map shown) :
    ∃ pairs : List (Name × Value), (∀ pair ∈ pairs, pair.2.isPrintable = true) ∧ entries = pairs.map shown := by
  induction entries with
  | nil => exact ⟨[], by simp, rfl⟩
  | cons e entries ih =>
    obtain ⟨pair, hpair, rfl⟩ := List.mem_map.1 (h e List.mem_cons_self)
    obtain ⟨pairs, printable, rfl⟩ := ih fun e he => h e (List.mem_cons_of_mem _ he)
    refine ⟨pair :: pairs, ?_, rfl⟩
    intro other hother
    rcases List.mem_cons.1 hother with rfl | hother
    · exact (List.mem_filter.1 hpair).2
    · exact printable other hother

theorem latin1_values_injective {values others : List Value}
    (h : (values.map fun value => value.bytes.latin1) = others.map fun value => value.bytes.latin1) :
    values = others :=
  (List.map_inj_right fun _ _ e => Value.eq_of_bytes (Bytes.latin1_injective e)).1 h

/-- **The headers that settings show are admitted, and are what settings show.** -/
theorem admitHeaders_exportHeaders (fields : Fields) :
    ∃ admitted, admitHeaders (exportHeaders fields).entries = .ok admitted ∧
      ∀ name, admitted.values name = (lastPrintable fields name).toList := by
  have shownAll : ∀ e ∈ (exportHeaders fields).entries,
      e ∈ (fields.toList.filter fun pair => pair.2.isPrintable).map shown := by
    rw [exportHeaders_eq]
    exact fun e => Table.mem_ofList
  obtain ⟨pairs, printable, hentries⟩ := exists_shown shownAll
  refine ⟨_, hentries ▸ admitHeaders_shown printable, fun name => ?_⟩
  -- a table has one text for a key, so the pairs have one value for a name
  have single : Fields.valuesIn pairs name = (lastPrintable fields name).toList := by
    apply latin1_values_injective
    have texts := Table.texts_of_sorted (exportHeaders fields).sorted name.text
    rw [hentries, texts_shown, ← hentries] at texts
    rw [texts]
    show ((exportHeaders fields).get? name.text).toList = _
    rw [get?_exportHeaders]
    cases lastPrintable fields name <;> rfl
  rw [Fields.values_foldl_insert, single, Fields.values_empty]
  cases lastPrintable fields name <;> rfl

theorem isPrintable_of_lastPrintable {fields : Fields} {name : Name} {value : Value}
    (h : lastPrintable fields name = some value) : value.isPrintable = true :=
  (List.mem_filter.1 (List.mem_of_getLast? h)).2

/-- One printable value for each name is shown as it is. -/
theorem exportHeaders_of_values {fields admitted : Fields}
    (h : ∀ name, admitted.values name = (lastPrintable fields name).toList) :
    exportHeaders admitted = exportHeaders fields := by
  refine Table.ext_get? fun key => ?_
  by_cases hkey : ∃ name : Name, name.text = key
  · obtain ⟨name, rfl⟩ := hkey
    rw [get?_exportHeaders, get?_exportHeaders, lastPrintable, h]
    cases hlast : lastPrintable fields name with
    | none => rfl
    | some value => simp [isPrintable_of_lastPrintable hlast]
  · have hnone : ∀ name : Name, name.text ≠ key := fun name e => hkey ⟨name, e⟩
    rw [get?_exportHeaders_eq_none hnone, get?_exportHeaders_eq_none hnone]

/-! ## The fixed point -/

/-- A span as settings hold it: in whole milliseconds, rounded down, as many as fit into a 64-bit word. -/
def wholeMillis (span : Duration) : Duration := ⟨min (span.nanos / 1000000) 0xFFFFFFFFFFFFFFFF * 1000000⟩

theorem ofMillis_millis (span : Duration) : Duration.ofMillis span.millis = wholeMillis span := by
  have fits : min (span.nanos / 1000000) 0xFFFFFFFFFFFFFFFF < 2 ^ 64 := by omega
  rw [Duration.ofMillis, Duration.millis, UInt64.toNat_ofNat', Nat.mod_eq_of_lt fits]
  rfl

/-- What a configuration is when it comes back from its settings. -/
structure Settled (config reloaded : Config) : Prop where
  /-- Heartbeats are apart by whole milliseconds. -/
  pingInterval : reloaded.pingInterval = wholeMillis config.pingInterval
  /-- A heartbeat waits whole milliseconds. -/
  pingTimeout : reloaded.pingTimeout = wholeMillis config.pingTimeout
  /-- A read has whole milliseconds. -/
  receiveTimeout : reloaded.receiveTimeout = wholeMillis config.receiveTimeout
  /-- A write has whole milliseconds. -/
  sendTimeout : reloaded.sendTimeout = wholeMillis config.sendTimeout
  /-- Buffers are as large as before. -/
  bufferSize : reloaded.bufferSize = config.bufferSize
  /-- Of the printable values of a name the last one is left. -/
  headers : ∀ name, reloaded.headers.values name
    = ((config.headers.values name).filter Value.isPrintable).getLast?.toList
  /-- The settings are the same. -/
  settings : reloaded.settings = config.settings

/-- **The settings of a configuration amount to a configuration**, and this one has the same settings. -/
theorem exists_settled (config : Config) :
    ∃ reloaded, ofSettings config.settings = .ok reloaded ∧ Settled config reloaded := by
  obtain ⟨admitted, hadmitted, hvalues⟩ := admitHeaders_exportHeaders config.headers
  have hload : ofSettings config.settings = .ok {
      pingInterval := .ofMillis config.pingInterval.millis
      pingTimeout := .ofMillis config.pingTimeout.millis
      receiveTimeout := .ofMillis config.receiveTimeout.millis
      sendTimeout := .ofMillis config.sendTimeout.millis
      bufferSize := config.bufferSize
      headers := admitted
      tls := .builtinRoots } := by
    simp only [ofSettings, settings, hadmitted]
    rfl
  refine ⟨_, hload, ?_⟩
  constructor
  case pingInterval => exact ofMillis_millis config.pingInterval
  case pingTimeout => exact ofMillis_millis config.pingTimeout
  case receiveTimeout => exact ofMillis_millis config.receiveTimeout
  case sendTimeout => exact ofMillis_millis config.sendTimeout
  case bufferSize => rfl
  case headers => exact hvalues
  case settings => simp only [settings, Duration.millis_ofMillis, exportHeaders_of_values hvalues]

/-- **Exported settings are a fixed point**: they are read back as they were written, and the configuration that
    they amount to, which there always is, exports them again. -/
theorem export_settles :
    (∀ settings : Settings, Settings.read settings.write = .ok settings) ∧
      ∀ config : Config, ∃ reloaded, ofSettings config.settings = .ok reloaded ∧ Settled config reloaded := by
  constructor
  · intro settings
    exact Settings.read_write settings
  · intro config
    exact exists_settled config

end Config

end TextSocket
