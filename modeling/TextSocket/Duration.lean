/-!
# `TextSocket.Duration` — spans of time

A span is a whole number of nanoseconds. Settings speak of whole milliseconds in a 64-bit word, so a span is
exported rounded down and capped at the greatest such word.

## Contents

* `Duration` with `ofSeconds`, `ofMillis`, `seconds`, `subsecNanos`;
* `Duration.millis` — the exported number of milliseconds.
-/

namespace TextSocket

/-- A span of time, in nanoseconds. -/
structure Duration where
  /-- The whole span in nanoseconds. -/
  nanos : Nat
  deriving DecidableEq, Repr, Inhabited

namespace Duration

/-- A span of whole seconds and further nanoseconds. -/
def ofSeconds (seconds : Nat) (nanos : Nat) : Duration := ⟨seconds * 1000000000 + nanos⟩

/-- A span of whole milliseconds. -/
def ofMillis (millis : UInt64) : Duration := ⟨millis.toNat * 1000000⟩

/-- The whole seconds of a span. -/
def seconds (d : Duration) : Nat := d.nanos / 1000000000

/-- The nanoseconds of a span beyond its whole seconds. -/
def subsecNanos (d : Duration) : Nat := d.nanos % 1000000000

/-- Whether the span is empty. -/
def isZero (d : Duration) : Bool := d.nanos == 0

/-- The span in whole milliseconds, rounded down and capped at the greatest 64-bit word. -/
def millis (d : Duration) : UInt64 :=
  UInt64.ofNat (min (d.nanos / 1000000) 0xFFFFFFFFFFFFFFFF)

theorem millis_ofMillis (millis : UInt64) : (ofMillis millis).millis = millis := by
  apply UInt64.toNat_inj.1
  have := millis.toNat_lt
  simp only [Duration.millis, ofMillis, Nat.mul_div_cancel _ (by omega : 0 < 1000000)]
  rw [Nat.min_eq_left (by omega), UInt64.ofNat_toNat]

end Duration

end TextSocket
