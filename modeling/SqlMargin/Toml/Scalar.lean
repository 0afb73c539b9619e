import SqlMargin.Toml.Fault
import SqlMargin.Value

/-! Numbers, dates and times of a TOML document. -/
namespace SqlMargin.Toml
open Decimal (Binary64)

/-- Digits of a class, single underscores between them left out. -/
def digitTail (p : Char → Bool) : List Char → List Char × List Char
  | '_' :: c :: rest =>
    if p c then
      let (ds, r) := digitTail p rest
      (c :: ds, r)
    else ([], '_' :: c :: rest)
  | c :: rest =>
    if p c then
      let (ds, r) := digitTail p rest
      (c :: ds, r)
    else ([], c :: rest)
  | [] => ([], [])

/-- At least one digit of a class. -/
def digitRun? (p : Char → Bool) (s : List Char) : Option (List Char × List Char) :=
  match s with
  | c :: rest =>
    if p c then
      let (ds, r) := digitTail p rest
      some (c :: ds, r)
    else none
  | [] => none

def valueOf (base : Nat) (ds : List Char) : Nat :=
  Text.ofDigits base (ds.map fun c =>
    if c.isDigit then c.toNat - 48 else if 'a' ≤ c then c.toNat - 87 else c.toNat - 55)

/-- A whole number in base two, eight or sixteen. -/
def based? (s : List Char) : Option (Value × List Char) :=
  let read (base : Nat) (p : Char → Bool) (rest : List Char) :=
    (digitRun? p rest).map fun (ds, r) => (Value.int (valueOf base ds), r)
  match s with
  | '0' :: 'x' :: rest =>
    read 16 (fun c => c.isDigit || ('a' ≤ c && c ≤ 'f') || ('A' ≤ c && c ≤ 'F')) rest
  | '0' :: 'b' :: rest => read 2 (fun c => c == '0' || c == '1') rest
  | '0' :: 'o' :: rest => read 8 (fun c => '0' ≤ c && c ≤ '7') rest
  | _ => none

def sign (s : List Char) : Bool × List Char :=
  match s with
  | '-' :: rest => (true, rest)
  | '+' :: rest => (false, rest)
  | _ => (false, s)

/-- The digits after a decimal point, if there are any. -/
def fraction (s : List Char) : List Char × List Char :=
  match s with
  | '.' :: rest => (digitRun? Char.isDigit rest).getD ([], s)
  | _ => ([], s)

/-- The exponent, if there is one. -/
def exponent? (s : List Char) : Option (Int × List Char) :=
  match s with
  | c :: rest =>
    if c = 'e' || c = 'E' then
      let (negative, rest) := sign rest
      (digitRun? Char.isDigit rest).map fun (ds, r) =>
        ((if negative then -(valueOf 10 ds : Int) else valueOf 10 ds), r)
    else none
  | [] => none

/-- A decimal number, whole or with a fraction or exponent. -/
def decimal? (s : List Char) : Option (Except Fault (Value × List Char)) := do
  let (negative, body) := sign s
  let (whole, rest) ← match body with
    | '0' :: rest => some (['0'], rest)
    | _ => digitRun? Char.isDigit body
  let (part, afterPart) := fraction rest
  let power := exponent? afterPart
  if part.isEmpty && power.isNone then
    if whole.length ≤ Text.maxDigits then
      let n : Int := valueOf 10 whole
      some (.ok (.int (if negative then -n else n), rest))
    else some (.error (.tooLong whole.length))
  else
    let (e, after) := power.getD (0, afterPart)
    some (.ok (.float (.ofDecimal negative (valueOf 10 (whole ++ part)) (e - part.length)), after))

/-- A number of exactly `n` digits. -/
def fixed? (n : Nat) (s : List Char) : Option (Nat × List Char) :=
  let ds := s.take n
  if ds.length = n && ds.all Char.isDigit then some (valueOf 10 ds, s.drop n) else none

/-- Two digits within bounds. -/
def two? (low high : Nat) (s : List Char) : Option (Nat × List Char) := do
  let (n, rest) ← fixed? 2 s
  if low ≤ n && n ≤ high then some (n, rest) else none

/-- A fraction of a second in microseconds; further digits are dropped. -/
def microseconds (s : List Char) : Nat × List Char :=
  match s with
  | '.' :: rest =>
    let ds := rest.takeWhile Char.isDigit
    if ds.isEmpty then (0, s)
    else (valueOf 10 ((ds.take 6) ++ List.replicate (6 - ds.length) '0'), rest.drop ds.length)
  | _ => (0, s)

def time? (s : List Char) : Option (TimeOfDay × List Char) := do
  let (hour, s) ← two? 0 23 s
  let (minute, s) ← two? 0 59 (← expect? ':' s)
  let (second, s) ← two? 0 59 (← expect? ':' s)
  let (micro, s) := microseconds s
  pure (⟨hour, minute, second, micro⟩, s)

def date? (s : List Char) : Option (Date × List Char) := do
  let (year, s) ← fixed? 4 s
  let (month, s) ← two? 1 12 (← expect? '-' s)
  let (day, s) ← two? 1 31 (← expect? '-' s)
  pure (⟨year, month, day⟩, s)

/-- Distance from UTC in minutes. -/
def offset? (s : List Char) : Option (Int × List Char) :=
  match s with
  | 'Z' :: rest => some (0, rest)
  | 'z' :: rest => some (0, rest)
  | c :: rest =>
    if c = '+' || c = '-' then do
      let (hour, s) ← two? 0 23 rest
      let (minute, s) ← two? 0 59 (← expect? ':' s)
      let n : Int := 60 * hour + minute
      pure (if c = '-' then -n else n, s)
    else none
  | [] => none

/-- The time after a date, which a letter T or a space parts from it. -/
def timeAfterDate? (s : List Char) : Option (TimeOfDay × Option Int × List Char) :=
  match s with
  | c :: rest =>
    if c = 'T' || c = 't' || c = ' ' then do
      let (t, s) ← time? rest
      match offset? s with
      | some (minutes, s) => pure (t, some minutes, s)
      | none => pure (t, none, s)
    else none
  | [] => none

/-- A date, a time, or both. -/
def moment? (s : List Char) : Option (Except Fault (Value × List Char)) :=
  match date? s with
  | some (d, rest) =>
    if !d.isValid then some malformed
    else match timeAfterDate? rest with
      | some (t, offset, rest) => some (.ok (.moment (.dateTime d t offset), rest))
      | none => some (.ok (.moment (.date d), rest))
  | none => (time? s).map fun (t, rest) => .ok (.moment (.time t), rest)

/-- Infinities and the number that is none. -/
def special? (s : List Char) : Option (Value × List Char) :=
  let (negative, body) := sign s
  match body with
  | 'i' :: 'n' :: 'f' :: rest => some (.float (.infinite negative), rest)
  | 'n' :: 'a' :: 'n' :: rest => some (.float .nan, rest)
  | _ => none

/-- A truth value, moment or number. -/
def scalar (s : List Char) : Except Fault (Value × List Char) :=
  match s with
  | 't' :: 'r' :: 'u' :: 'e' :: rest => .ok (.bool true, rest)
  | 'f' :: 'a' :: 'l' :: 's' :: 'e' :: rest => .ok (.bool false, rest)
  | _ =>
    match moment? s with
    | some p => p
    | none =>
      match based? s with
      | some p => .ok p
      | none =>
        match decimal? s with
        | some p => p
        | none =>
          match special? s with
          | some p => .ok p
          | none => malformed

end SqlMargin.Toml
