import SqlMargin.Settings.Basic

/-! Values that take precedence over the settings found so far. -/
namespace SqlMargin.Settings

/-- The overrides that say something: those that are not null. -/
def changes (overrides : List (String × Value)) : List (String × Value) :=
  overrides.filter fun o => !o.2.isNull

/-- Layers overrides over settings. -/
def override (s : Settings) (overrides : List (String × Value)) : Except NameFault Settings :=
  if overrides.any (·.1 == "config") then .error (.taken "apply_overrides" "config")
  else s.assign (changes overrides)

end SqlMargin.Settings
