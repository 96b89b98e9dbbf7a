/-! Sets of code points as ranges in ascending order. -/
namespace Busbind.Text

def inRanges : List (Nat × Nat) → Nat → Bool
  | [], _ => false
  | (low, high) :: rest, n => if n < low then false else n ≤ high || inRanges rest n

end Busbind.Text
