import Listing.Http.Session
import Listing.Startup.Launch

/-!
# The service as a program

Reads the environment and the file `.env`, starts the service and writes its log as JSON lines on
standard output. A start that fails is reported on standard error, with the exit code of its fault.
A service that is ready answers requests from standard input, one `METHOD TARGET` on a line, with
the status, the content type and the body.
-/

set_option autoImplicit false

namespace Listing.Main

open Text

/-- The variables that are always looked at. -/
def settingNames : List String :=
  ["HOST", "PORT", "DATABASE_URL", "DATABASE_MAX_CONNECTIONS", "SEED_DEMO_DATA"]

/-- The runs of characters of a class in a text. -/
def runs (kept : Char → Bool) (text : String) : List String :=
  ((text.toList.splitOnP fun c => !kept c).filter (· ≠ [])).map String.ofList

/-- The variables that an environment file may name. -/
def namesIn (file : String) : List String :=
  runs EnvFile.isNameChar file ++ runs isAlphanumeric file

/-- The values that some variables have. -/
def readEnvironment (names : List String) : IO Environment := do
  let values ← names.eraseDups.filterMapM fun name => do
    return (← IO.getEnv name).map fun value => (name, Utf8.encode value)
  return ⟨values⟩

/-- The text of the environment file. -/
def readEnvFile : IO (Option String) := do
  try return some (← IO.FS.readFile ".env") catch _ => return none

/-- What a start finds: the working directory holds the environment file at most. -/
def surroundings (environment : Environment) (envFile : Option String) : Surroundings :=
  let files : FileTree := ⟨["work"], [(["work"], .directory)]⟩
  let s : Surroundings := ⟨environment, none, files, fun _ => true, .standard⟩
  envFile.elim s s.withEnvFile

def logLine (e : Event) : String :=
  let datum : Datum → Json
    | .text s => .str s
    | .count n => .int n
  let fields := e.fields.map fun (name, d) => (name, datum d)
  Json.render (.obj [("level", .str e.level.name),
    ("fields", .obj (("message", .str e.message) :: fields)), ("target", .str e.target)])

def writeLog (output : IO.FS.Stream) (events : List Event) : IO Unit := do
  for e in events do output.putStrLn (logLine e)
  output.flush

/-- Answers the requests on the lines of the input. -/
partial def serve (store : Store) (input output : IO.FS.Stream) : IO Unit := do
  let line ← input.getLine
  unless line.isEmpty do
    match runs (fun c => !c.isWhitespace) line with
    | [method, target] =>
      let (events, r) := store.respond method target
      writeLog output events
      output.putStrLn (toString r.status ++ " " ++ r.contentType.getD "-")
      output.putStrLn r.body
      output.flush
    | _ => pure ()
    serve store input output

end Listing.Main

open Listing Listing.Main in
def main : IO UInt32 := do
  let output ← IO.getStdout
  let envFile ← readEnvFile
  let environment ← readEnvironment (settingNames ++ namesIn (envFile.getD ""))
  match Service.launch (surroundings environment envFile) with
  | (events, .error f) =>
    writeLog output events
    (← IO.getStderr).putStr f.report
    return f.exitCode.toUInt32
  | (events, .ok service) =>
    writeLog output events
    serve service.store (← IO.getStdin) output
    return 0
