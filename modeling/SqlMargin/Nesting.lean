/-! How deeply calls may still be nested. That hangs on how deeply they are nested already where a
file is looked for or read. -/
namespace SqlMargin

structure Nesting where
  /-- Calls that follow links, one in another. -/
  links : Nat := 975
  /-- Calls that read values, one in another. -/
  values : Nat := 975
  deriving DecidableEq, Repr

/-- What is said when calls are nested too deeply. -/
def Nesting.message : String := "maximum recursion depth exceeded"

end SqlMargin
