/-! Sets of characters as sorted lists of closed ranges of code points. -/
namespace ClassChart.Text

def inRanges : List (Nat × Nat) → Nat → Bool
  | [], _ => false
  | (low, high) :: rest, n => if n < low then false else n ≤ high || inRanges rest n

end ClassChart.Text
