/-! Character classes as increasing lists of code point ranges, both ends included. -/
namespace SqlMargin.Text

/-- Whether a code point lies in one of the ranges, which stand in increasing order. -/
def covers : List (Nat × Nat) → Nat → Bool
  | [], _ => false
  | (lo, hi) :: rest, n => decide (lo ≤ n) && (decide (n ≤ hi) || covers rest n)

end SqlMargin.Text
