import GridQuery.Settings
import GridQuery.Text.Basic
import GridQuery.Text.Case

/-!
The settings that the variables of an environment give.
-/

namespace GridQuery.CommandLine

/-- The values that a setting is switched on or off by, in any case. -/
def switchOf? (content : String) : Option Bool :=
  let shown := Text.lower content
  if ["true", "1", "yes", "on", "t", "y"].contains shown then some true
  else if ["false", "0", "no", "off", "f", "n"].contains shown then some false
  else none

/-- The variables of the environment whose names begin so are settings. -/
def settingOpening : String := "SHEET_SQL_"

/-- The value of a setting's variable, whose name may be in any case. -/
def settingValue? (environment : List (String × String)) (name : String) : Option String :=
  let wanted := Text.lower (settingOpening ++ name)
  (environment.find? fun (given, _) => Text.lower given == wanted).map (·.2)

def settingNames : List String :=
  ["HEADER_ROWS", "CASE_SENSITIVE_MATCHING", "NATIVE_DIALECT_ENABLED",
    "VIRTUAL_INSERT_ENABLED", "SHEETS_API_URL", "GVIZ_URL"]

/-- The settings that the environment gives; a value that is of no use gives none. -/
def settingsOf (environment : List (String × String)) : Settings :=
  let defaults : Settings := {}
  let value := settingValue? environment
  let switch (name : String) (default : Bool) : Bool :=
    ((value name).bind switchOf?).getD default
  let headerRows := (value "HEADER_ROWS").bind fun content => (Text.trim content).toNat?
  { headerRows := headerRows.getD defaults.headerRows
    caseSensitive := switch "CASE_SENSITIVE_MATCHING" defaults.caseSensitive
    nativeQueries := switch "NATIVE_DIALECT_ENABLED" defaults.nativeQueries
    virtualInserts := switch "VIRTUAL_INSERT_ENABLED" defaults.virtualInserts
    sheetsAddress := (value "SHEETS_API_URL").getD defaults.sheetsAddress
    queryAddress := (value "GVIZ_URL").getD defaults.queryAddress }

end GridQuery.CommandLine
