import ToolSchema.Command.Run

/-!
# Command line

The program runs a command on the files of the system and prints its report.
-/

namespace ToolSchema

namespace Command

def FileError.ofSystem (error : IO.Error) : FileError :=
  let coded (code : UInt32) (details : String) : FileError :=
    match code.toNat with
    | 2 => .notFound
    | 17 => .alreadyExists
    | 20 => .notDirectory
    | 21 => .isDirectory
    | n => .other (details ++ " (os error " ++ toString n ++ ")")
  match error with
  | .noFileOrDirectory _ code details => coded code details
  | .alreadyExists _ code details => coded code details
  | .inappropriateType _ code details => coded code details
  | .permissionDenied _ code details => coded code details
  | .invalidArgument _ code details => coded code details
  | .resourceExhausted _ code details => coded code details
  | .otherError code details => coded code details
  | .userError _ => .notText
  | error => .other (toString error)

/-- An action on the system whose failure is a value. -/
def attempted {α : Type} (action : IO α) : IO (Except FileError α) := do
  match ← action.toBaseIO with
  | .ok value => return .ok value
  | .error error => return .error (.ofSystem error)

def systemFiles : FileAccess IO where
  read path := attempted (IO.FS.readFile path)
  write path text := attempted (IO.FS.writeFile path text)
  makeDirectory path := attempted (IO.FS.createDir path)
  isPresent path := do ((← IO.currentDir) / path).pathExists
  isDirectory path := do ((← IO.currentDir) / path).isDir
  entries path := do return (← ((← IO.currentDir) / path).readDir).toList.map fun e ↦ e.fileName

def systemEnvironment : IO (String → Option String) := do
  let values ← CompileOptions.variableNames.mapM fun name ↦ do
    return (name, ← IO.getEnv name)
  return fun name ↦ (values.lookup name).join

/-- Prints a report and gives its exit code. -/
def Report.print (report : Report) : IO UInt32 := do
  IO.print report.printed
  IO.eprint report.diagnostics
  return report.exitCode.toUInt32

def perform : Invocation → IO Report
  | .command command => do run systemFiles (← systemEnvironment) command
  | .help => return { printed := usage }
  | .version => return { printed := versionLine }
  | .misuse => return ⟨2, "", usage⟩

end Command

end ToolSchema

def main (arguments : List String) : IO UInt32 := do
  (← ToolSchema.Command.perform (ToolSchema.Command.read arguments)).print
