import TextSocket.Proofs.Config.Export

/-!
# `Proofs.Config.Reload` — a valid configuration, saved and loaded

The rules of a configuration are about spans in nanoseconds, and settings hold whole milliseconds, rounded down. A span
that is shorter than a millisecond keeps the rules, and what is saved of it does not. So **a valid configuration is
loaded again, with the same settings, if every span of it lasts a millisecond; otherwise loading names the first span
that does not** (`reload_decides`). A heartbeat every nanosecond shows that there are such configurations
(`brief_span_refused`).

## Contents

* `spans`, `validate_eq` — the rules as a search;
* `isBrief`, `isZero_wholeMillis` — spans that are rounded down to nothing;
* `load_of_read`, `load_write`, `validate_settled` — what is loaded;
* `reload_decides`, `brief_span_refused` — the main result, and a configuration that is not loaded again.
-/

namespace TextSocket.Config

/-! ## The rules -/

/-- The spans of a configuration, in the order of the rules. -/
def spans (config : Config) : List (Quantity × Duration) :=
  [(.pingInterval, config.pingInterval), (.pingTimeout, config.pingTimeout),
    (.receiveTimeout, config.receiveTimeout), (.sendTimeout, config.sendTimeout)]

/-- **The rules are a search for the first empty span**, and for an empty buffer behind them. -/
theorem validate_eq (config : Config) :
    config.validate = match config.spans.find? fun span => span.2.isZero with
      | some span => .error (.zero span.1)
      | none => if config.bufferSize = 0 then .error (.zero .bufferSize) else .ok () := by
  unfold validate spans
  by_cases hinterval : config.pingInterval.isZero = true
  · simp [hinterval]
  by_cases hping : config.pingTimeout.isZero = true
  · simp [hinterval, hping]
  by_cases hreceive : config.receiveTimeout.isZero = true
  · simp [hinterval, hping, hreceive]
  by_cases hsend : config.sendTimeout.isZero = true
  · simp [hinterval, hping, hreceive, hsend]
  · simp [hinterval, hping, hreceive, hsend]

/-- A valid configuration has buffers. -/
theorem bufferSize_of_validate {config : Config} (h : config.validate = .ok ()) : config.bufferSize ≠ 0 := by
  intro hzero
  rw [validate_eq] at h
  split at h
  · cases h
  · rw [if_pos hzero] at h
    cases h

/-! ## Spans that are rounded down -/

/-- Whether a span is shorter than a millisecond. -/
def isBrief (span : Duration) : Bool := decide (span.nanos < 1000000)

/-- **A brief span is rounded down to nothing**, and no other one is. -/
theorem isZero_wholeMillis (span : Duration) : (wholeMillis span).isZero = isBrief span := by
  unfold wholeMillis Duration.isZero isBrief
  rw [Bool.eq_iff_iff, beq_iff_eq, decide_eq_true_eq]
  dsimp only
  omega

theorem spans_settled {config reloaded : Config} (h : Settled config reloaded) :
    reloaded.spans = config.spans.map fun span => (span.1, wholeMillis span.2) := by
  unfold spans
  rw [h.pingInterval, h.pingTimeout, h.receiveTimeout, h.sendTimeout]
  rfl

/-! ## What is loaded -/

/-- **What is loaded breaks a rule exactly if a span was brief.** -/
theorem validate_settled {config reloaded : Config} (h : Settled config reloaded) (hbuffer : config.bufferSize ≠ 0) :
    reloaded.validate = match config.spans.find? fun span => isBrief span.2 with
      | some span => .error (.zero span.1)
      | none => .ok () := by
  have hfind : reloaded.spans.find? (fun span => span.2.isZero)
      = (config.spans.find? fun span => isBrief span.2).map fun span => (span.1, wholeMillis span.2) := by
    rw [spans_settled h, List.find?_map]
    congr 2
    funext span
    rw [Function.comp_apply, isZero_wholeMillis]
  rw [validate_eq, hfind, h.bufferSize, if_neg hbuffer]
  cases config.spans.find? fun span => isBrief span.2 with
  | none => rfl
  | some span => rfl

/-- Loading a document that is read comes down to the rules. -/
theorem load_of_read {document : String} {settings : Settings} {config : Config}
    (hread : Settings.read document = .ok settings) (h : ofSettings settings = .ok config) :
    load document = (config.validate.mapError Fault.toError).map fun _ => config := by
  unfold load
  rw [hread]
  show ((ofSettings settings).mapError Fault.toError >>= _) = _
  rw [h]
  rfl

/-- Loading what was saved comes down to the rules. -/
theorem load_write {settings : Settings} {reloaded : Config} (h : ofSettings settings = .ok reloaded) :
    load settings.write = (reloaded.validate.mapError Fault.toError).map fun _ => reloaded :=
  load_of_read (Settings.read_write settings) h

section reload

variable {config : Config} (hvalid : config.validate = .ok ())

include hvalid

/-- A valid configuration without brief spans is loaded. -/
theorem load_of_lasting (hlasting : ∀ span ∈ config.spans, isBrief span.2 = false) :
    ∃ loaded, load config.settings.write = .ok loaded ∧ loaded.validate = .ok () ∧
      loaded.settings = config.settings := by
  obtain ⟨reloaded, hreload, hsettled⟩ := exists_settled config
  have hnone : config.spans.find? (fun span => isBrief span.2) = none := by
    rw [List.find?_eq_none]
    intro span hspan
    simp [hlasting span hspan]
  have hrules : reloaded.validate = .ok () := by
    rw [validate_settled hsettled (bufferSize_of_validate hvalid), hnone]
  refine ⟨reloaded, ?_, hrules, hsettled.settings⟩
  rw [load_write hreload, hrules]
  rfl

/-- A valid configuration with a brief span is refused for the first of them. -/
theorem load_of_brief {span : Quantity × Duration}
    (hbrief : config.spans.find? (fun span => isBrief span.2) = some span) :
    load config.settings.write = .error (.config (span.1.describe ++ " must be greater than zero")) := by
  obtain ⟨reloaded, hreload, hsettled⟩ := exists_settled config
  have hrules : reloaded.validate = .error (.zero span.1) := by
    rw [validate_settled hsettled (bufferSize_of_validate hvalid), hbrief]
  rw [load_write hreload, hrules]
  rfl

/-- **A valid configuration is loaded again exactly if every span of it lasts a millisecond.** Then what is loaded is
    valid and has the same settings; otherwise loading fails, and the failure names the first span that is too short. -/
theorem reload_decides :
    ((∀ span ∈ config.spans, 1000000 ≤ span.2.nanos) → ∃ loaded, load config.settings.write = .ok loaded ∧
      loaded.validate = .ok () ∧ loaded.settings = config.settings) ∧
    ∀ before quantity (brief : Duration) after, config.spans = before ++ (quantity, brief) :: after →
      (∀ span ∈ before, 1000000 ≤ span.2.nanos) → brief.nanos < 1000000 →
        load config.settings.write = .error (.config (quantity.describe ++ " must be greater than zero")) := by
  have hlasting {span : Duration} (h : 1000000 ≤ span.nanos) : isBrief span = false := by
    simpa [isBrief] using h
  constructor
  · intro h
    apply load_of_lasting hvalid
    intro span hspan
    exact hlasting (h span hspan)
  · intro before quantity brief after hspans hbefore hshort
    have hbrief : isBrief brief = true := by
      simpa [isBrief] using hshort
    have hfind : config.spans.find? (fun span => isBrief span.2) = some (quantity, brief) := by
      have hnone : before.find? (fun span => isBrief span.2) = none := by
        rw [List.find?_eq_none]
        intro span hspan
        simp [hlasting (hbefore span hspan)]
      rw [hspans, List.find?_append, hnone, Option.none_or]
      exact List.find?_cons_of_pos hbrief
    exact load_of_brief hvalid hfind

end reload

/-- A configuration that loses a part of each span when it is saved, with a header that is not saved. -/
def fineConfig : Config :=
  { Config.default with
    pingInterval := ⟨1000000⟩
    receiveTimeout := ⟨2999999⟩
    headers := .ofList [(.host, ⟨[233], by decide⟩)] }

/-- The same configuration with a read that is too short for settings. -/
def hastyConfig : Config := { fineConfig with receiveTimeout := ⟨999999⟩ }

/-- One span is long enough and the other one is not. -/
theorem reload_decides_of_fine :
    (∃ loaded, load fineConfig.settings.write = .ok loaded ∧ loaded.validate = .ok () ∧
      loaded.settings = fineConfig.settings) ∧
    load hastyConfig.settings.write = .error (.config "receive timeout must be greater than zero") := by
  have hfine : fineConfig.validate = .ok () := rfl
  have hhasty : hastyConfig.validate = .ok () := rfl
  constructor
  · exact (reload_decides hfine).1 (by decide)
  · exact (reload_decides hhasty).2 [(.pingInterval, _), (.pingTimeout, _)] .receiveTimeout _ _ rfl (by decide)
      (by decide)

/-- A configuration with a heartbeat every nanosecond. -/
def rapidConfig : Config := { Config.default with pingInterval := ⟨1⟩ }

/-- **A valid configuration that cannot be saved and loaded.** -/
theorem brief_span_refused : rapidConfig.validate = .ok () ∧
    load rapidConfig.settings.write = .error (.config "ping interval must be greater than zero") := by
  have hvalid : rapidConfig.validate = .ok () := rfl
  have hbrief : rapidConfig.spans.find? (fun span => isBrief span.2) = some (.pingInterval, ⟨1⟩) := rfl
  exact ⟨hvalid, load_of_brief hvalid hbrief⟩

end TextSocket.Config
