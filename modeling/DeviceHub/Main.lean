import DeviceHub.CommandLine.Run
import Std.Time.Format

/-!
The program.  It looks at the files and variables it may need, runs, and puts out what it has to
say.  It has no way to a hub.
-/
open DeviceHub DeviceHub.CommandLine

def fileErrorOf (path : String) (reason : IO.Error) : IO FileError := do
  match reason with
  | .noFileOrDirectory .. => return .notFound
  | .inappropriateType _ 20 _ => return .notADirectory
  | .invalidArgument _ 36 _ => return .nameTooLong
  | reason =>
    return if ← (← IO.FS.realPath path).isDir then .isADirectory else .other reason.toString

/-- The contents of a file. -/
def contentsOf (path : String) : IO (String × Except FileError Bytes) := do
  if let some fault := pathFault? path then return (path, .error fault)
  try
    let bytes ← IO.FS.readBinFile path
    return (path, .ok bytes.toList)
  catch reason => return (path, .error (← fileErrorOf path reason))

/-- Files that have been read and variables that have been looked up. -/
def surroundingsOf (files : List (String × Except FileError Bytes))
    (values : List (String × String)) : Surroundings where
  readFile path := (files.lookup path).getD (.error .notFound)
  variableNamed? name := values.lookup name

/-- Looks at what a configuration, looked for at some paths, may need. -/
def lookAround (named : Option String) : IO Surroundings := do
  let files ← (configPaths named).mapM contentsOf
  let config := (loadConfig (surroundingsOf files []) named).2.toOption.getD {}
  let more ← (filesOf config).mapM contentsOf
  let values ← (variablesOf config).filterMapM fun name => do
    return (← IO.getEnv name).map fun value => (name, value)
  return surroundingsOf (files ++ more) values

def main (words : List String) : IO UInt32 := do
  let named := (Invocation.read words).toOption.bind Invocation.config
  let surroundings ← lookAround named
  let moment ← Std.Time.Timestamp.now
  let seconds := Int64.ofInt moment.toSecondsSinceUnixEpoch.val
  let (format, outcome) := run surroundings seconds (.unreachable "no network") words
  for output in outcome.output do
    let moment ← Std.Time.Timestamp.now
    let time := (Std.Time.DateTime.ofTimestamp moment .UTC).toISO8601String
    IO.println <| match output with
      | .line text => text
      | .log record => record.write format time
  if outcome.exit = 2 then IO.eprintln usage
  return outcome.exit.toUInt32
