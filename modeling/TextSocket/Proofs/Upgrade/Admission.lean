import TextSocket.Inbound
import TextSocket.Proofs.Base64
import TextSocket.Proofs.Header.Elements

/-!
# `Proofs.Upgrade.Admission` — which requests may be upgraded

What is asked of the header fields of a request can be said without cutting, trimming or decoding anything
(`requirements`): the first value of each of four names has a form of its own, and a key is what 16 bytes are written
as. **A request is admitted exactly if it meets every requirement, and otherwise refused for the first one that it
does not meet** (`judge_decides`). The proof that an admitted request gets is made of its key alone.

## Contents

* `Has`, `ListsUpgrade`, `NamesWebsocket`, `IsNonceKey` — what is asked of a value;
* `requirements`, `FailsFirst` — the requirements in their order, and the first one that is not met;
* `lists_iff`, `isToken_iff`, `isKey_iff` — the checks of the library say the same;
* `Admits`, `Decides`, `judge_decides` — the decision.
-/

namespace TextSocket.Upgrade

open Header (Fields Name Value)

/-! ## Requirements -/

/-- A name has a value, and the first one satisfies a condition. -/
def Has (fields : Fields) (name : Name) (condition : Value → Prop) : Prop :=
  ∃ value, fields.get? name = some value ∧ condition value

/-- A value shows as text, and lists the word `upgrade` in any case. -/
def ListsUpgrade (value : Value) : Prop :=
  value.isPrintable = true ∧
    ∃ word, Ascii.IsElement word value.bytes ∧ word.map Ascii.lower = Bytes.ofText "upgrade"

/-- A value is the word `websocket` in any case. -/
def NamesWebsocket (value : Value) : Prop := value.bytes.map Ascii.lower = Bytes.ofText "websocket"

/-- A value is the written form of 16 bytes. -/
def IsNonceKey (value : Value) : Prop := ∃ nonce : Bytes, nonce.length = 16 ∧ value.bytes = Base64.encode nonce

/-- **What is asked of a request**, in the order of the checks, with what a request is refused for otherwise. -/
def requirements (fields : Fields) : List (Refusal × Prop) := [
  (.noConnection, Has fields .connection fun _ => True),
  (.connectionWithoutUpgrade, Has fields .connection ListsUpgrade),
  (.noUpgrade, Has fields .upgrade fun _ => True),
  (.upgradeToOther, Has fields .upgrade NamesWebsocket),
  (.version, Has fields .socketVersion fun value => value.bytes = Bytes.ofText "13"),
  (.noKey, Has fields .socketKey fun _ => True),
  (.emptyKey, Has fields .socketKey fun value => value.bytes ≠ []),
  (.badKey, Has fields .socketKey IsNonceKey)]

/-- The first requirement that is not met. -/
inductive FailsFirst : List (Refusal × Prop) → Refusal → Prop where
  /-- It is this one. -/
  | here {refusal : Refusal} {requirement : Prop} {later : List (Refusal × Prop)} (hfails : ¬ requirement) :
      FailsFirst ((refusal, requirement) :: later) refusal
  /-- This one is met. -/
  | there {refusal refusal' : Refusal} {requirement : Prop} {later : List (Refusal × Prop)} (hmet : requirement)
      (hlater : FailsFirst later refusal') : FailsFirst ((refusal, requirement) :: later) refusal'

section requirements

variable {list : List (Refusal × Prop)} {refusal refusal' : Refusal}

theorem FailsFirst.unique (h : FailsFirst list refusal) (h' : FailsFirst list refusal') : refusal' = refusal := by
  induction h with
  | here hfails =>
    cases h' with
    | here _ => rfl
    | there hmet _ => exact absurd hmet hfails
  | there hmet _ ih =>
    cases h' with
    | here hfails => exact absurd hmet hfails
    | there _ hlater => exact ih hlater

/-- When one is not met, not all of them are. -/
theorem FailsFirst.not_all (h : FailsFirst list refusal) : ¬ ∀ r ∈ list, r.2 := by
  induction h with
  | here hfails => exact fun hall => hfails (hall _ List.mem_cons_self)
  | there _ _ ih => exact fun hall => ih fun r hr => hall r (List.mem_cons_of_mem _ hr)

end requirements

/-! ## The checks -/

section checks

variable {value : Value}

/-- A check is not failed if it is passed. -/
theorem not_check_iff {check : Bool} : ¬ (!check) = true ↔ check = true := by
  cases check
  · simp
  · simp

/-- A value lists the word exactly if the word is an element of it. -/
theorem lists_iff : lists (Bytes.ofText "upgrade") value = true ↔ ListsUpgrade value := by
  have hletters : ∀ b ∈ Bytes.ofText "upgrade", Ascii.isLower b = true := by decide +kernel
  rw [lists, Bool.and_eq_true, Ascii.any_splitOn_iff hletters (by decide)]
  rfl

/-- A word of letters shows as text. -/
theorem isToken_iff : isToken (Bytes.ofText "websocket") value = true ↔ NamesWebsocket value := by
  have hletters : ∀ b ∈ Bytes.ofText "websocket", Ascii.isLower b = true := by decide +kernel
  have hsmall : (Bytes.ofText "websocket").map Ascii.lower = Bytes.ofText "websocket" := by decide
  rw [isToken, Bool.and_eq_true, Ascii.equalFold, beq_iff_eq, hsmall]
  constructor
  · exact And.right
  · intro hword
    refine ⟨List.all_eq_true.mpr fun b hb => ?_, hword⟩
    have hb : Ascii.lower b ∈ Bytes.ofText "websocket" := hword ▸ List.mem_map_of_mem hb
    exact (Ascii.of_isLower_lower (hletters _ hb)).2.2

/-- A key is what 16 bytes are written as. -/
theorem isKey_iff : isKey value.bytes = true ↔ IsNonceKey value := by
  unfold isKey
  constructor
  · intro h
    split at h
    · next nonce hnonce => exact ⟨nonce, beq_iff_eq.mp h, Base64.decode?_eq_some_iff.mp hnonce⟩
    · cases h
  · rintro ⟨nonce, hlength, hvalue⟩
    rw [Base64.decode?_eq_some_iff.mpr hvalue]
    exact beq_iff_eq.mpr hlength

theorem has_iff {fields : Fields} {name : Name} {condition : Value → Prop} (h : fields.get? name = some value) :
    Has fields name condition ↔ condition value := by
  constructor
  · rintro ⟨value', hvalue', hcondition⟩
    rw [h] at hvalue'
    cases hvalue'
    exact hcondition
  · exact fun hcondition => ⟨value, h, hcondition⟩

theorem not_has_of_none {fields : Fields} {name : Name} (h : fields.get? name = none) (condition : Value → Prop) :
    ¬ Has fields name condition := by
  rintro ⟨value, hvalue, -⟩
  rw [h] at hvalue
  cases hvalue

end checks

/-! ## The decision -/

/-- **An admitted request**: the value of each field, and the proof that its key was seen. -/
structure Admits (fields : Fields) (accept : Bytes) : Prop where
  /-- The connection field lists the upgrade. -/
  connection : Has fields .connection ListsUpgrade
  /-- The upgrade field names the protocol. -/
  upgrade : Has fields .upgrade NamesWebsocket
  /-- The version is that of the protocol. -/
  version : Has fields .socketVersion fun value => value.bytes = Bytes.ofText "13"
  /-- The key is the written form of 16 bytes, so it has 24 characters. The proof is the written form of the digest of the
      key together with the identifier of the protocol. -/
  key : Has fields .socketKey fun value => IsNonceKey value ∧ value.bytes.length = 24 ∧
    accept = Base64.encode (Sha1.digest (value.bytes ++ Bytes.ofText "258EAFA5-E914-47DA-95CA-C5AB0DC85B11"))
  /-- The proof has 28 characters. -/
  length : accept.length = 28
  /-- They are those of an alphabet that does not hold the end of a line. -/
  characters : ∀ b ∈ accept, Base64.IsCharacter b ∧ b ≠ 13 ∧ b ≠ 10

section decision

variable {fields : Fields} {accept : Bytes}

theorem Admits.meets (h : Admits fields accept) : ∀ r ∈ requirements fields, r.2 := by
  obtain ⟨connection, hconnection, hlists⟩ := h.connection
  obtain ⟨upgrade, hupgrade, hnames⟩ := h.upgrade
  obtain ⟨key, hkey, hnonce, hlength, -⟩ := h.key
  have hsome : key.bytes ≠ [] := by
    intro hnil
    rw [hnil] at hlength
    cases hlength
  simp only [requirements, List.forall_mem_cons]
  exact ⟨⟨connection, hconnection, trivial⟩, ⟨connection, hconnection, hlists⟩, ⟨upgrade, hupgrade, trivial⟩,
    ⟨upgrade, hupgrade, hnames⟩, h.version, ⟨key, hkey, trivial⟩, ⟨key, hkey, hsome⟩, ⟨key, hkey, hnonce⟩, nofun⟩

/-- The proof is determined by the fields. -/
theorem Admits.unique {accept' : Bytes} (h : Admits fields accept) (h' : Admits fields accept') : accept' = accept := by
  obtain ⟨key, hkey, -, -, rfl⟩ := h.key
  obtain ⟨-, -, haccept'⟩ := (has_iff hkey).mp h'.key
  exact haccept'

theorem admits_of_key (hconnection : Has fields .connection ListsUpgrade) (hupgrade : Has fields .upgrade NamesWebsocket)
    (hversion : Has fields .socketVersion fun value => value.bytes = Bytes.ofText "13") {key : Value}
    (hkey : fields.get? .socketKey = some key) (hnonce : IsNonceKey key) : Admits fields (acceptOf key.bytes) := by
  constructor
  case connection => exact hconnection
  case upgrade => exact hupgrade
  case version => exact hversion
  case key =>
    refine ⟨key, hkey, hnonce, ?_, rfl⟩
    obtain ⟨nonce, hlength, hvalue⟩ := hnonce
    rw [hvalue, Base64.length_encode, hlength]
  case length => rw [acceptOf, Base64.length_encode, Sha1.length_digest]
  case characters =>
    intro b hb
    have hvisible := Base64.visible_encode _ b hb
    refine ⟨Base64.isCharacter_encode _ b hb, ?_, ?_⟩
    · rintro rfl
      revert hvisible
      decide
    · rintro rfl
      revert hvisible
      decide

/-- **What checks come to**: the request is admitted, or refused for the first requirement that it does not meet. -/
def Decides (fields : Fields) (list : List (Refusal × Prop)) (result : Except Refusal Bytes) : Prop :=
  (∃ accept, result = .ok accept ∧ Admits fields accept) ∨ ∃ refusal, result = .error refusal ∧ FailsFirst list refusal

section decides

variable {refusal : Refusal} {requirement : Prop} {later : List (Refusal × Prop)} {next : Except Refusal Bytes}

/-- A requirement that is not met decides. -/
theorem decides_here (hfails : ¬ requirement) : Decides fields ((refusal, requirement) :: later) (.error refusal) :=
  Or.inr ⟨refusal, rfl, .here hfails⟩

/-- A requirement that is met leaves the decision to those behind it. -/
theorem decides_there (hmet : requirement) (h : Decides fields later next) :
    Decides fields ((refusal, requirement) :: later) next :=
  h.imp_right fun ⟨refusal', hresult, hfails⟩ => ⟨refusal', hresult, .there hmet hfails⟩

/-- **A check that says whether a requirement is met**, with the checks behind it. -/
theorem decides_if {fails : Prop} [Decidable fails] (hcheck : ¬ fails ↔ requirement)
    (h : requirement → Decides fields later next) :
    Decides fields ((refusal, requirement) :: later) (if fails then .error refusal else next) := by
  by_cases hfails : fails
  · rw [if_pos hfails]
    exact decides_here fun hmet => hcheck.mpr hmet hfails
  · rw [if_neg hfails]
    exact decides_there (hcheck.mp hfails) (h (hcheck.mp hfails))

end decides

/-- The version is read off the field, and one that is missing is a wrong one. -/
theorem version_iff : ¬ (fields.get? .socketVersion).map Value.bytes ≠ some version ↔
    Has fields .socketVersion fun value => value.bytes = Bytes.ofText "13" := by
  rw [Decidable.not_not, Option.map_eq_some_iff]
  rfl

/-- What the checks come to. The case splits follow them: a field that is missing, and then its value. -/
theorem judge_settles (fields : Fields) : Decides fields (requirements fields) (judge fields) := by
  unfold judge requirements
  cases hconnection : fields.get? .connection with
  | none => exact decides_here (not_has_of_none hconnection _)
  | some connection =>
    refine decides_there ((has_iff hconnection).mpr trivial) ?_
    refine decides_if (not_check_iff.trans (lists_iff.trans (has_iff hconnection).symm)) fun hlists => ?_
    cases hupgrade : fields.get? .upgrade with
    | none => exact decides_here (not_has_of_none hupgrade _)
    | some upgrade =>
      refine decides_there ((has_iff hupgrade).mpr trivial) ?_
      refine decides_if (not_check_iff.trans (isToken_iff.trans (has_iff hupgrade).symm)) fun hnames => ?_
      refine decides_if version_iff fun hversion => ?_
      cases hkey : fields.get? .socketKey with
      | none => exact decides_here (not_has_of_none hkey _)
      | some key =>
        have hempty : ¬ key.bytes.isEmpty = true ↔ Has fields .socketKey fun value => value.bytes ≠ [] := by
          rw [has_iff hkey]
          exact not_congr List.isEmpty_iff
        refine decides_there ((has_iff hkey).mpr trivial) ?_
        refine decides_if hempty fun _ => ?_
        refine decides_if (not_check_iff.trans (isKey_iff.trans (has_iff hkey).symm)) fun hnonce => ?_
        exact Or.inl ⟨_, rfl, admits_of_key hlists hnames hversion hkey ((has_iff hkey).mp hnonce)⟩

/-- **A request is admitted exactly if it meets every requirement**, and gets the proof that its key was seen. **Otherwise
    it is refused for the first requirement that it does not meet.** -/
theorem judge_decides (fields : Fields) :
    (∀ accept, judge fields = .ok accept ↔ Admits fields accept) ∧
      ((∃ accept, judge fields = .ok accept) ↔ ∀ r ∈ requirements fields, r.2) ∧
      ∀ refusal, judge fields = .error refusal ↔ FailsFirst (requirements fields) refusal := by
  rcases judge_settles fields with ⟨accept, hjudge, hadmits⟩ | ⟨refusal, hjudge, hfails⟩
  · have hmeets := hadmits.meets
    refine ⟨fun accept' => ?_, ⟨fun _ => hmeets, fun _ => ⟨accept, hjudge⟩⟩, fun refusal => ?_⟩
    · rw [hjudge]
      constructor
      · intro h
        cases h
        exact hadmits
      · exact fun h => by rw [hadmits.unique h]
    · rw [hjudge]
      exact ⟨fun h => (nomatch h), fun hfails => absurd hmeets hfails.not_all⟩
  · refine ⟨fun accept => ?_, ⟨?_, fun hmeets => absurd hmeets hfails.not_all⟩, fun refusal' => ?_⟩
    · rw [hjudge]
      exact ⟨fun h => (nomatch h), fun hadmits => absurd hadmits.meets hfails.not_all⟩
    · rintro ⟨accept, hok⟩
      rw [hjudge] at hok
      cases hok
    · rw [hjudge]
      constructor
      · intro h
        cases h
        exact hfails
      · exact fun h => by rw [hfails.unique h]

end decision

end TextSocket.Upgrade
