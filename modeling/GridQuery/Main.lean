import GridQuery.CommandLine
import Std.Time.Zoned

/-!
The program: it runs one statement over the virtual tables of a file and prints the result
as JSON.
-/

namespace GridQuery

/-- The local time, to the second. -/
def currentMoment : IO Moment := do
  let now ← Std.Time.PlainDateTime.now
  let moment := do
    let date ← Day.ofFields? now.date.year.toInt.toNat now.date.month.val.toNat
      now.date.day.val.toNat
    Moment.ofFields? date now.time.hour.val.toNat now.time.minute.val.toNat
      now.time.second.val.toNat 0
  match moment with
  | some moment => return moment
  | none => throw (IO.userError "the clock shows no time of the calendar")

def readNamed (path : Option String) : IO CommandLine.Files := do
  match path with
  | none => return []
  | some path =>
      try return [(path, ← IO.FS.readFile path)]
      catch _ => return []

def readEnvironment : IO (List (String × String)) :=
  CommandLine.settingNames.filterMapM fun name => do
    let fullName := CommandLine.settingOpening ++ name
    return (← IO.getEnv fullName).map (fullName, ·)

end GridQuery

open GridQuery in
def main (arguments : List String) : IO UInt32 := do
  let files ←
    match CommandLine.parse arguments with
    | .ok options => pure ((← readNamed options.file) ++ (← readNamed options.tables))
    | .error _ => pure []
  let outcome := CommandLine.run arguments files (← readEnvironment) (← currentMoment)
  (← IO.getStdout).putStr outcome.output
  (← IO.getStderr).putStr outcome.complaint
  return outcome.exitCode.toUInt32
