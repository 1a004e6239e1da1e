import TextSocket.Proofs.Config.Normal
import TextSocket.Proofs.Config.Reload
import TextSocket.Proofs.Settings.Members

/-!
# `Proofs.Config.Load` — what a document of settings is loaded as

**Loading depends on what a document says about the known settings, and on nothing else**: not on the order of its
members, their spelling, the white space or the members that nobody knows. What is loaded obeys the rules, and settings
that break them are refused as a configuration, not as a document (`Obeys`). A document that repeats a known member is
refused as a document (`load_decides`).

All of this is about keys that stand for a text. The grammar also allows escapes of single surrogates, which stand for
none; a document with such a key is refused, even if nobody asks for the member (`lone_surrogate_refused`).

## Contents

* `Obeys` — the rules, said of settings;
* `validate_iff`, `exists_config_iff` — they are the rules of a configuration;
* `load_of_obeys`, `load_of_not_obeys`, `load_of_repeats` — what is loaded and what is refused;
* `load_decides`, `lone_surrogate_refused` — the main result, and a document to which it does not apply.
-/

namespace TextSocket.Config

open Header (IsName IsControl)
open Json (Entry IsBody IsJson)

/-! ## The rules -/

/-- **Settings that obey the rules.** -/
structure Obeys (settings : Settings) : Prop where
  /-- No number is zero. -/
  numbers : ∀ q, settings.quantity q ≠ 0
  /-- The keys of the headers are names. -/
  names : ∀ key text, settings.headers.get? key = some text → IsName (Bytes.ofText key)
  /-- The texts of the headers hold no control. -/
  texts : ∀ key text, settings.headers.get? key = some text → ∀ c ∈ text.toList, ¬ IsControl c

section rules

variable {settings : Settings} {config : Config}

theorem isZero_ofMillis (millis : UInt64) : (Duration.ofMillis millis).isZero = true ↔ millis = 0 := by
  rw [Duration.isZero, Duration.ofMillis, beq_iff_eq, ← UInt64.toNat_inj]
  show millis.toNat * 1000000 = 0 ↔ millis.toNat = 0
  omega

/-- The numbers of a configuration that settings amount to. -/
theorem numbers_of_ofSettings (h : ofSettings settings = .ok config) :
    config.spans = [(.pingInterval, .ofMillis settings.pingIntervalMs), (.pingTimeout, .ofMillis settings.pingTimeoutMs),
      (.receiveTimeout, .ofMillis settings.receiveTimeoutMs), (.sendTimeout, .ofMillis settings.sendTimeoutMs)] ∧
    config.bufferSize = settings.bufferSize := by
  unfold ofSettings at h
  cases hheaders : admitHeaders settings.headers.entries with
  | error fault =>
    rw [hheaders] at h
    cases h
  | ok headers =>
    rw [hheaders] at h
    cases h
    exact ⟨rfl, rfl⟩

/-- A configuration is valid if no span is empty and it has buffers. -/
theorem validate_iff_spans :
    config.validate = .ok () ↔ (∀ span ∈ config.spans, ¬ span.2.isZero = true) ∧ config.bufferSize ≠ 0 := by
  rw [validate_eq, ← List.find?_eq_none]
  cases config.spans.find? fun span => span.2.isZero with
  | some span => exact ⟨nofun, fun h => nomatch h.1⟩
  | none =>
    by_cases hbuffer : config.bufferSize = 0
    · simp [hbuffer]
    · simp [hbuffer]

/-- **A configuration is valid if no number of its settings is zero.** -/
theorem validate_iff (h : ofSettings settings = .ok config) :
    config.validate = .ok () ↔ ∀ q, settings.quantity q ≠ 0 := by
  obtain ⟨hspans, hbuffer⟩ := numbers_of_ofSettings h
  rw [validate_iff_spans, hspans, hbuffer]
  simp only [List.forall_mem_cons, isZero_ofMillis]
  constructor
  · rintro ⟨⟨hinterval, htimeout, hreceive, hsend, -⟩, hbuffer⟩ q
    cases q with
    | pingInterval => exact hinterval
    | pingTimeout => exact htimeout
    | receiveTimeout => exact hreceive
    | sendTimeout => exact hsend
    | bufferSize => exact hbuffer
  · intro hnumbers
    exact ⟨⟨hnumbers .pingInterval, hnumbers .pingTimeout, hnumbers .receiveTimeout, hnumbers .sendTimeout, nofun⟩,
      hnumbers .bufferSize⟩

/-- **Settings amount to a configuration if their headers are legal.** -/
theorem exists_config_iff : (∃ config, ofSettings settings = .ok config) ↔
    ∀ key text, settings.headers.get? key = some text →
      IsName (Bytes.ofText key) ∧ ∀ c ∈ text.toList, ¬ IsControl c := by
  constructor
  · rintro ⟨config, hconfig⟩ key text hget
    by_contra hbad
    have hfault : ∃ fault, ofSettings settings = .error fault := by
      refine exists_fault_iff.mpr ⟨key, text, hget, ?_⟩
      by_contra hlegal
      push Not at hlegal
      exact hbad hlegal
    obtain ⟨fault, hfault⟩ := hfault
    rw [hconfig] at hfault
    cases hfault
  · intro hlegal
    cases hconfig : ofSettings settings with
    | ok config => exact ⟨config, rfl⟩
    | error fault =>
      obtain ⟨key, text, hget, hbad⟩ := exists_fault_iff.mp ⟨fault, hconfig⟩
      obtain ⟨hname, htext⟩ := hlegal key text hget
      rcases hbad with hbad | ⟨c, hc, hcontrol⟩
      · exact absurd hname hbad
      · exact absurd hcontrol (htext c hc)

end rules

/-! ## What is loaded -/

section loading

variable {document : String} {settings : Settings} (hread : Settings.read document = .ok settings)

include hread

/-- **Settings that obey the rules are loaded.** -/
theorem load_of_obeys (hobeys : Obeys settings) :
    ∃ config, load document = .ok config ∧ ofSettings settings = .ok config ∧ config.validate = .ok () := by
  obtain ⟨config, hconfig⟩ := exists_config_iff.mpr fun key text h => ⟨hobeys.names key text h, hobeys.texts key text h⟩
  have hvalid := (validate_iff hconfig).mpr hobeys.numbers
  refine ⟨config, ?_, hconfig, hvalid⟩
  rw [load_of_read hread hconfig, hvalid]
  rfl

/-- **Settings that break a rule are refused as a configuration.** -/
theorem load_of_not_obeys (hbroken : ¬ Obeys settings) : ∃ message, load document = .error (.config message) := by
  cases hconfig : ofSettings settings with
  | error fault =>
    refine ⟨fault.message, ?_⟩
    unfold load
    rw [hread]
    show ((ofSettings settings).mapError Fault.toError >>= _) = _
    rw [hconfig]
    rfl
  | ok config =>
    cases hvalid : config.validate with
    | error fault =>
      refine ⟨fault.message, ?_⟩
      rw [load_of_read hread hconfig, hvalid]
      rfl
    | ok _ =>
      have hlegal := exists_config_iff.mp ⟨config, hconfig⟩
      exact absurd ⟨(validate_iff hconfig).mp hvalid, fun key text h => (hlegal key text h).1,
        fun key text h => (hlegal key text h).2⟩ hbroken

end loading

/-- A document that repeats a member is refused as a document. -/
theorem load_of_repeats {document : String} {entries : List Entry} (hdocument : Settings.IsDocument document entries)
    (hkeys : ∀ entry ∈ entries, IsBody entry.key) (hvalues : ∀ entry ∈ entries, IsJson entry.value)
    (hrepeats : Settings.Repeats entries) : ∃ cause, load document = .error (.json cause) := by
  obtain ⟨cause, hcause⟩ := Settings.read_of_repeats hdocument hkeys hvalues hrepeats
  refine ⟨cause, ?_⟩
  rw [load, hcause]
  rfl

/-- **Loading depends on what a document says about the known settings.** What it says is put in the place of the
    defaults, and every document that says the same, in whatever order and among whatever other members, is read and
    loaded alike. It is loaded if the settings obey the rules, and refused as a configuration if they do not. A document
    that repeats a known member is refused as a document, wherever it does so. -/
theorem load_decides :
    (∀ document sayings, Settings.Tells document sayings → ∃ settings,
      (Settings.read document = .ok settings ∧ settings.Holds sayings) ∧
      (∀ other sayings', Settings.Tells other sayings' → sayings'.Perm sayings →
        Settings.read other = .ok settings ∧ load other = load document) ∧
      (Obeys settings → ∃ config, load document = .ok config ∧ ofSettings settings = .ok config ∧
        config.validate = .ok ()) ∧
      (¬ Obeys settings → ∃ message, load document = .error (.config message))) ∧
    ∀ document entries, Settings.IsDocument document entries → (∀ entry ∈ entries, IsBody entry.key) →
      (∀ entry ∈ entries, IsJson entry.value) → Settings.Repeats entries →
        ∃ cause, load document = .error (.json cause) := by
  constructor
  · intro document sayings htells
    obtain ⟨settings, hread, hholds⟩ := Settings.read_of_tells htells
    refine ⟨settings, ⟨hread, hholds⟩, ?_, load_of_obeys hread, load_of_not_obeys hread⟩
    intro other sayings' hother hperm
    obtain ⟨settings', hread', hholds'⟩ := Settings.read_of_tells hother
    have hsame : settings' = settings := hholds'.unique hholds fun s => hperm.mem_iff
    rw [hsame] at hread'
    refine ⟨hread', ?_⟩
    rw [load, load, hread', hread]
  · intro document entries
    exact load_of_repeats

/-- A member without white space. -/
def tightEntry (key value : String) : Entry := ⟨[], key.toList, [], [], value.toList, []⟩

/-- A document with given members. -/
def documentOf (entries : List Entry) : String := String.ofList (Json.objectText [] entries)

theorem isDocument_documentOf {entries : List Entry} (hspaced : ∀ entry ∈ entries, entry.IsSpaced) :
    Settings.IsDocument (documentOf entries) entries where
  text := by
    refine ⟨[], [], [], nofun, nofun, nofun, ?_⟩
    rw [documentOf, String.toList_ofList, List.nil_append, List.append_nil]
  spaced := hspaced

theorem isJson_one : IsJson "1".toList :=
  .number (@Json.IsNumber.parts [] ['1'] [] [] (.inl rfl) (.digits rfl (by decide) nofun) .none .none)

/-- Half of a character is the inside of a string. -/
theorem isBody_surrogate : IsBody "\\ud800".toList :=
  .unit (@Json.IsHex4.digits 'd' '8' '0' '0' 13 8 0 0 rfl rfl rfl rfl) .nil

/-- An unknown member whose key is half of a character. -/
def loneEntry : Entry := tightEntry "\\ud800" "1"

/-- Headers of which the text is half of a character. -/
def loneHeaders : Entry := tightEntry "headers" "\x7b\"a\":\"\\ud800\"\x7d"

/-- **A document is refused for the key of an unknown member.** The member is well-formed, and the defaults obey the
    rules. So is a document for a well-formed string among the headers. -/
theorem lone_surrogate_refused :
    (Settings.IsDocument (documentOf [loneEntry]) [loneEntry] ∧ IsBody loneEntry.key ∧ IsJson loneEntry.value ∧
      (∀ m, ¬ Settings.Names loneEntry m) ∧ Obeys Settings.default ∧
      ∃ cause, load (documentOf [loneEntry]) = .error (.json cause)) ∧
    Settings.IsDocument (documentOf [loneHeaders]) [loneHeaders] ∧ IsJson loneHeaders.value ∧
      ∃ cause, load (documentOf [loneHeaders]) = .error (.json cause) := by
  have hother : ∀ m, ¬ Settings.Names loneEntry m := by
    intro m hname
    -- a key that stands for a text would be read
    have hread := Json.readString_spells hname []
    have hstop : (Json.readString (loneEntry.key ++ ['"'])).isOk = false := rfl
    rw [hread] at hstop
    cases hstop
  have hdefault : Obeys Settings.default := ⟨by rintro ⟨⟩ <;> decide, nofun, nofun⟩
  have hheaders : IsJson loneHeaders.value := by
    refine @IsJson.object [] [tightEntry "a" "\"\\ud800\""] nofun (by decide) ?_ ?_
    · rintro entry (_ | ⟨_, ⟨⟩⟩)
      exact (Json.spells_plain (by decide)).isBody
    · rintro entry (_ | ⟨_, ⟨⟩⟩)
      exact .string isBody_surrogate
  exact ⟨⟨isDocument_documentOf (by decide), isBody_surrogate, isJson_one, hother, hdefault, _, rfl⟩,
    isDocument_documentOf (by decide), hheaders, _, rfl⟩

/-- An unknown member with a nested value, between the size of the buffers and two headers with one key. -/
def plainEntries : List Entry :=
  [tightEntry "bufferSize" "1", tightEntry "x" "[true]", tightEntry "headers" "\x7b\"a\":\"1\",\"a\":\"2\"\x7d"]

/-- The same without the unknown member, the other way round, with white space and in another spelling. -/
def spelledEntries : List Entry :=
  [⟨[' '], "headers".toList, ['\n'], [], "\x7b\"a\":\"1\",\"a\":\"2\"\x7d".toList, []⟩,
    ⟨[], "\\u0062ufferSize".toList, [], ['\t'], ['1'], [' ']⟩]

/-- The size of the buffers, and once more in another spelling and with no number. -/
def repeatedEntries : List Entry :=
  [tightEntry "bufferSize" "1", tightEntry "x" "null", tightEntry "\\u0062ufferSize" "true"]

/-- A key with an escape. -/
theorem spells_bufferSize : Json.Spells "\\u0062ufferSize".toList "bufferSize".toList := by
  have hrest : Json.Spells "ufferSize".toList "ufferSize".toList := Json.spells_plain (by decide)
  exact .unit (@Json.IsHex4.digits '0' '0' '6' '2' 0 0 6 2 rfl rfl rfl rfl) (by decide) hrest

/-- What the first two lists of members say. -/
def sampleSayings : List Settings.Said := [.word .bufferSize 1, .headers [("a", "1"), ("a", "2")]]

theorem writes_sampleHeaders :
    (Settings.Said.headers [("a", "1"), ("a", "2")]).Writes "\x7b\"a\":\"1\",\"a\":\"2\"\x7d".toList := by
  have hkey : Json.Spells ['a'] "a".toList := Json.spells_plain (by decide)
  have hfirst : Json.Spells ['1'] "1".toList := Json.spells_plain (by decide)
  have hsecond : Json.Spells ['2'] "2".toList := Json.spells_plain (by decide)
  exact @Settings.Said.Writes.headers [] [tightEntry "a" "\"1\"", tightEntry "a" "\"2\""] _ nofun (by decide)
    (.cons ⟨hkey, _, rfl, hfirst⟩ (.cons ⟨hkey, _, rfl, hsecond⟩ .nil))

theorem tells_plainEntries : Settings.Tells (documentOf plainEntries) sampleSayings where
  written := by
    have hvalue : IsJson "[true]".toList := @IsJson.list [] [⟨[], "true".toList, []⟩] nofun (by decide) (by
      rintro slot (_ | ⟨_, ⟨⟩⟩)
      exact .true)
    refine ⟨plainEntries, [some _, none, some _], isDocument_documentOf (by decide), ?_, rfl⟩
    refine .cons (.known (Json.spells_plain (by decide)) (.word .bufferSize 1)) (.cons ?_ (.cons ?_ .nil))
    · exact @Settings.Writes.unknown _ "x" (Json.spells_plain (by decide)) (by rintro ⟨⟩ <;> decide) hvalue
    · exact .known (Json.spells_plain (by decide)) writes_sampleHeaders
  once := by decide

theorem tells_spelledEntries : Settings.Tells (documentOf spelledEntries) sampleSayings.reverse where
  written := by
    refine ⟨spelledEntries, [some _, some _], isDocument_documentOf (by decide), ?_, rfl⟩
    refine .cons ?_ (.cons ?_ .nil)
    · exact .known (Json.spells_plain (by decide)) writes_sampleHeaders
    · exact .known spells_bufferSize (.word .bufferSize 1)
  once := by decide

theorem tells_halted : Settings.Tells (documentOf [tightEntry "sendTimeoutMs" "0"]) [.word .sendTimeout 0] where
  written := ⟨_, [some _], isDocument_documentOf (by decide),
    .cons (.known (Json.spells_plain (by decide)) (.word .sendTimeout 0)) .nil, rfl⟩
  once := by decide

/-- The settings that the first two lists of members amount to. -/
def sampleSettings : Settings := { Settings.default with bufferSize := 1, headers := .ofList [("a", "2")] }

theorem obeys_sampleSettings : Obeys sampleSettings := by
  have honly {key text : String} (h : sampleSettings.headers.get? key = some text) : key = "a" ∧ text = "2" :=
    Prod.mk.inj (List.mem_singleton.mp (Table.mem_entries_iff.mpr h))
  constructor
  case numbers => rintro ⟨⟩ <;> decide
  case names =>
    intro key text h
    rw [(honly h).1]
    decide
  case texts =>
    intro key text h
    rw [(honly h).2]
    intro c hc
    obtain rfl := List.mem_singleton.mp hc
    decide

theorem repeats_repeatedEntries : Settings.Repeats repeatedEntries :=
  ⟨[], _, [_], _, [], .bufferSize, rfl, Json.spells_plain (by decide), spells_bufferSize⟩

/-- Two documents that say the same are loaded alike, one with an empty span is refused as a configuration, and one that
    repeats a member as a document. -/
theorem load_decides_of_samples :
    (∃ config, load (documentOf plainEntries) = .ok config ∧ load (documentOf spelledEntries) = .ok config) ∧
      (∃ message, load (documentOf [tightEntry "sendTimeoutMs" "0"]) = .error (.config message)) ∧
      ∃ cause, load (documentOf repeatedEntries) = .error (.json cause) := by
  refine ⟨?_, ?_, ?_⟩
  · obtain ⟨settings, ⟨hread, -⟩, hsame, hloads, -⟩ := load_decides.1 _ _ tells_plainEntries
    obtain rfl : settings = sampleSettings := Except.ok.inj (hread.symm.trans rfl)
    obtain ⟨config, hconfig, -⟩ := hloads obeys_sampleSettings
    obtain ⟨-, hother⟩ := hsame _ _ tells_spelledEntries (List.reverse_perm _)
    exact ⟨config, hconfig, hother.trans hconfig⟩
  · obtain ⟨settings, ⟨-, hholds⟩, -, -, hrefused⟩ := load_decides.1 _ _ tells_halted
    apply hrefused
    intro hobeys
    exact hobeys.numbers .sendTimeout (hholds.word .sendTimeout 0 List.mem_cons_self)
  · have hparts : ∀ entry ∈ repeatedEntries, IsBody entry.key ∧ IsJson entry.value := by
      rintro entry (_ | ⟨_, _ | ⟨_, _ | ⟨_, ⟨⟩⟩⟩⟩)
      · exact ⟨(Json.spells_plain (by decide)).isBody, isJson_one⟩
      · exact ⟨(Json.spells_plain (by decide)).isBody, .null⟩
      · exact ⟨spells_bufferSize.isBody, .true⟩
    exact load_decides.2 _ _ (isDocument_documentOf (by decide)) (fun entry h => (hparts entry h).1)
      (fun entry h => (hparts entry h).2) repeats_repeatedEntries

end TextSocket.Config
