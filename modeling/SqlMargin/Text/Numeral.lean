import SqlMargin.Text.Blank
import SqlMargin.Text.Digit

/-! Whole numbers as people type them: spaces around, a sign, digits of any script, and single
underscores between digits. -/
namespace SqlMargin.Text

/-- The most digits a numeral may have. -/
def maxDigits : Nat := 4300

/-- What is said of a number that has more. -/
def hugeNumber : String :=
  s!"Exceeds the limit ({maxDigits} digits) for integer string conversion; " ++
    "use sys.set_int_max_str_digits() to increase the limit"

/-- Whether a number has few enough digits to be written. -/
def canWrite (n : Int) : Bool := n.natAbs < Nat.pow 10 maxDigits

theorem canWrite_iff {n : Int} : canWrite n = true ↔ n.natAbs < Nat.pow 10 maxDigits :=
  decide_eq_true_iff

/-- Whitespace around a numeral: the six common characters, and all of it beyond the first 128
code points. -/
def isNumeralSpace (c : Char) : Bool :=
  c == ' ' || decide (0x09 ≤ c.toNat ∧ c.toNat ≤ 0x0D) || (decide (0x80 ≤ c.toNat) && isBlank c)

/-- The values of the digits, which single underscores may part. -/
def digitValues? : List Char → Option (List Nat)
  | [] => none
  | [c] => (digitValue? c).map ([·])
  | c :: d :: rest => do
    let v ← digitValue? c
    let vs ← if d = '_' then digitValues? rest else digitValues? (d :: rest)
    pure (v :: vs)

def ofDigits (base : Nat) (vs : List Nat) : Nat := vs.foldl (fun n v => base * n + v) 0

/-- A numeral without sign. -/
def natural? (s : List Char) : Option Nat := do
  let vs ← digitValues? s
  if vs.length ≤ maxDigits then some (ofDigits 10 vs) else none

/-- Reads a whole number. -/
def integer? (s : List Char) : Option Int :=
  let body := s.dropWhile isNumeralSpace
  let body := (body.reverse.dropWhile isNumeralSpace).reverse
  match body with
  | '-' :: rest => (natural? rest).map fun n => -(n : Int)
  | '+' :: rest => (natural? rest).map Int.ofNat
  | rest => (natural? rest).map Int.ofNat

example : integer? " -1_000\n".toList = some (-1000) ∧ integer? "1__0".toList = none := by
  decide +kernel

end SqlMargin.Text
