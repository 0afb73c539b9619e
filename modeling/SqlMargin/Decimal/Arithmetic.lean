import SqlMargin.Decimal.Binary64

/-! Sums and remainders of doubles. A finite double is a whole number of the smallest positive ones:
results are worked out exactly in that unit and rounded once. -/
namespace SqlMargin.Decimal.Binary64

/-- `mantissa * 2 ^ scale` in units of the smallest positive double. -/
def units (negative : Bool) (mantissa : Nat) (scale : Int) : Int :=
  let n : Int := mantissa * Nat.pow 2 (scale - leastScale).toNat
  if negative then -n else n

/-- The double nearest to a number of units, with a sign for zero. -/
def ofUnits (negativeZero : Bool) (n : Int) : Binary64 :=
  if n = 0 then zero negativeZero
  else ofRatio (decide (n < 0)) n.natAbs (Nat.pow 2 (-leastScale).toNat)

/-- The double nearest to a whole number. -/
def ofInt (n : Int) : Binary64 := if n = 0 then zero false else ofRatio (decide (n < 0)) n.natAbs 1

def neg : Binary64 → Binary64
  | .finite s m q => .finite (!s) m q
  | .infinite s => .infinite !s
  | .nan => .nan

/-- The sum of two doubles. A sum of zero is negative only if both are. -/
def add : Binary64 → Binary64 → Binary64
  | .finite s m q, .finite t n r => ofUnits (s && t) (units s m q + units t n r)
  | .finite .., .infinite t => .infinite t
  | .infinite s, .finite .. => .infinite s
  | .infinite s, .infinite t => if s = t then .infinite s else .nan
  | .nan, _ => .nan
  | _, .nan => .nan

def sub (x y : Binary64) : Binary64 := x.add y.neg

/-- The remainder of a division by a double that is not zero. It has the sign of the divisor. -/
def mod : Binary64 → Binary64 → Binary64
  | .finite s m q, .finite t n r => ofUnits t ((units s m q).fmod (units t n r))
  | .finite s m q, .infinite t =>
    if m = 0 then zero t else if s = t then .finite s m q else .infinite t
  | _, _ => .nan

theorem add_comm (x y : Binary64) : x.add y = y.add x := by
  cases x <;> cases y <;> simp [add, Int.add_comm, Bool.and_comm, eq_comm]
  split <;> simp_all

example : add (ofDecimal false 1 (-1)) (ofDecimal false 2 (-1)) =
    ofDecimal false 30000000000000004 (-17) := by decide +kernel

example : mod (ofInt (-1)) (ofDecimal false 25 (-1)) = ofDecimal false 15 (-1) := by decide +kernel

end SqlMargin.Decimal.Binary64
