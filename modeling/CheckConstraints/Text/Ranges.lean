/-!
Sets of characters given as a sorted list of closed ranges of code points, the form in which the
character database publishes its properties.
-/

namespace CheckConstraints.Text

def inRanges (ranges : List (Nat × Nat)) (code : Nat) : Bool :=
  ranges.any fun range => decide (range.1 ≤ code) && decide (code ≤ range.2)

end CheckConstraints.Text
