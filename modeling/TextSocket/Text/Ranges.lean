/-!
# `TextSocket.Text.Ranges` — sets of characters as ranges

A property of characters is a list of ranges of code points, in increasing order.

## Contents

* `Text.within` — membership.
-/

namespace TextSocket.Text

/-- Whether a code point lies in one of the ranges, which include both of their ends. -/
def within (ranges : List (Nat × Nat)) (n : Nat) : Bool :=
  ranges.any fun range => range.1 ≤ n && n ≤ range.2

end TextSocket.Text
