/-! Calendar dates and times of day. -/
namespace SqlMargin

structure Date where
  year : Nat
  month : Nat
  day : Nat
  deriving DecidableEq, Repr

structure TimeOfDay where
  hour : Nat
  minute : Nat
  second : Nat
  microsecond : Nat
  deriving DecidableEq, Repr

/-- A date, a time, or both, the last with or without a distance from UTC in minutes. -/
inductive Moment where
  | date (d : Date)
  | time (t : TimeOfDay)
  | dateTime (d : Date) (t : TimeOfDay) (offset : Option Int)
  deriving DecidableEq, Repr

def isLeapYear (year : Nat) : Bool := year % 4 == 0 && (year % 100 != 0 || year % 400 == 0)

def daysInMonth (year month : Nat) : Nat :=
  match month with
  | 2 => if isLeapYear year then 29 else 28
  | 4 | 6 | 9 | 11 => 30
  | _ => 31

/-- Whether a date stands in the calendar, which begins with year one. -/
def Date.isValid (d : Date) : Bool :=
  1 ≤ d.year && 1 ≤ d.month && d.month ≤ 12 && 1 ≤ d.day && d.day ≤ daysInMonth d.year d.month

namespace Moment

/-- Zeros before a text up to a width. -/
def padLeft (width : Nat) (s : String) : String :=
  String.ofList (List.replicate (width - s.length) '0') ++ s

def dateText (d : Date) : String :=
  padLeft 4 (toString d.year) ++ "-" ++ padLeft 2 (toString d.month) ++ "-" ++
    padLeft 2 (toString d.day)

/-- Microseconds are written only when there are some. -/
def timeText (t : TimeOfDay) : String :=
  let clock := padLeft 2 (toString t.hour) ++ ":" ++ padLeft 2 (toString t.minute) ++ ":" ++
    padLeft 2 (toString t.second)
  if t.microsecond = 0 then clock else clock ++ "." ++ padLeft 6 (toString t.microsecond)

def offsetText (minutes : Int) : String :=
  let n := minutes.natAbs
  (if minutes < 0 then "-" else "+") ++ padLeft 2 (toString (n / 60)) ++ ":" ++
    padLeft 2 (toString (n % 60))

/-- The moment in the international format. -/
def text : Moment → String
  | .date d => dateText d
  | .time t => timeText t
  | .dateTime d t offset =>
    dateText d ++ "T" ++ timeText t ++ match offset with
      | none => ""
      | some minutes => offsetText minutes

end Moment
end SqlMargin
