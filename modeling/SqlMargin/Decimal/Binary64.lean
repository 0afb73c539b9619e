/-! Double-precision numbers as exact values, and the one nearest to a decimal. -/
namespace SqlMargin.Decimal

/-- A double: `mantissa * 2 ^ scale` with a sign, an infinity, or no number at all. -/
inductive Binary64 where
  | finite (negative : Bool) (mantissa : Nat) (scale : Int)
  | infinite (negative : Bool)
  | nan
  deriving DecidableEq, Repr

/-- The scale of the smallest doubles. -/
def leastScale : Int := -1074

/-- The scale of the largest doubles. -/
def mostScale : Int := 971

/-- The least mantissa of 53 bits. -/
def leadingBit : Nat := Nat.pow 2 52

/-- `b ^ e` over one, or one over `b ^ -e`. -/
def ratioPow (b : Nat) (e : Int) : Nat × Nat := (Nat.pow b e.toNat, Nat.pow b (-e).toNat)

/-- A quotient rounded to the nearest whole number, a half going to the even one. -/
def roundHalfEven (num den : Nat) : Nat :=
  let q := num / den
  let twice := 2 * (num % den)
  if twice < den || (twice == den && q % 2 == 0) then q else q + 1

/-- The scale at which `num / den` has a mantissa of 53 bits. -/
def scaleOf (num den : Nat) : Int :=
  let k : Int := (Nat.log2 num : Int) - (Nat.log2 den : Int)
  let (up, down) := ratioPow 2 k
  max leastScale (if den * up ≤ num * down then k - 52 else k - 53)

/-- The double nearest to a positive quotient. -/
def Binary64.ofRatio (negative : Bool) (num den : Nat) : Binary64 :=
  let q := scaleOf num den
  let (up, down) := ratioPow 2 q
  let m := roundHalfEven (num * down) (den * up)
  let (m, q) := if m = 2 * leadingBit then (leadingBit, q + 1) else (m, q)
  if mostScale < q then .infinite negative else .finite negative m q

def Binary64.zero (negative : Bool) : Binary64 := .finite negative 0 leastScale

/-- The double nearest to `digits * 10 ^ exponent`. A decimal far out of range is settled by the
place of its first digit. -/
def Binary64.ofDecimal (negative : Bool) (digits : Nat) (exponent : Int) : Binary64 :=
  let place : Int := (Nat.toDigits 10 digits).length + exponent
  if digits = 0 || place < -330 then .zero negative
  else if 310 < place then .infinite negative
  else
    let (up, down) := ratioPow 10 exponent
    .ofRatio negative (digits * up) down

def Binary64.isInfinite : Binary64 → Bool
  | .infinite _ => true
  | _ => false

def Binary64.isZero : Binary64 → Bool
  | .finite _ 0 _ => true
  | _ => false

example : Binary64.ofDecimal false 25 (-1) = .finite false 5629499534213120 (-51) := by
  decide +kernel

end SqlMargin.Decimal
