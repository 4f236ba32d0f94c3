import Listing.Catalog.Store
import Listing.Startup.Database
import Listing.Startup.EnvFile
import Listing.Startup.Settings
import Listing.Startup.SocketAddress

/-!
# Starting the service

Start-up reads the environment file and the settings, opens the database, makes or seeds the tables
and takes the address to listen on. `launch` ends at the first stage that fails, with the events of
the stages before it. A failure is an error that is reported, or a panic.
-/

set_option autoImplicit false

namespace Listing

/-- What start-up finds: the environment, the text of the environment file if there is one, the
files, which addresses can be listened on, and a machine. -/
structure Surroundings where
  environment : Environment
  envFile : Option String
  files : FileTree
  available : SocketAddress → Bool
  machine : Machine

/-- The names that lead to the environment file. -/
def FileTree.envFile (t : FileTree) : List String := t.working ++ [".env"]

namespace Surroundings

variable (s : Surroundings)

/-- The surroundings with an environment file of some text. -/
def withEnvFile (text : String) : Surroundings :=
  { s with envFile := some text, files := s.files.withFile s.files.envFile }

/-- What the file of a database is known to hold: the text of the environment file, if it is this
one. -/
def textIn (o : Opened) : Option String :=
  if o.storage = .file s.files.envFile then s.envFile else none

end Surroundings

/-- The stage that failed, with its cause. -/
inductive LaunchFault
  | environment (cause : EnvFile.Unsettable)
  | settings (cause : SettingsError)
  | connection (url : String) (cause : ConnectFault)
  | seeding (cause : Refusal)
  | tables (cause : Refusal)
  | address (text : String)
  | binding (address : SocketAddress)
deriving Repr, DecidableEq

namespace LaunchFault

def context : LaunchFault → String
  | .environment a =>
    "failed to set environment variable \x60" ++ UrlFault.quoted a.name ++ "\x60 to \x60"
      ++ UrlFault.quoted a.value ++ "\x60"
  | .settings e => e.context
  | .connection url f => f.context url
  | .seeding _ => "failed to seed demo catalog"
  | .tables _ => "failed to create catalog tables"
  | .address text => "invalid bind address " ++ text
  | .binding a => "failed to bind " ++ a.text

/-- The wording of the causes, from the outermost to the innermost. -/
def causes : LaunchFault → List String
  | .environment _ => [PathFault.nul.message]
  | .settings e => [e.cause.message]
  | .connection _ f => f.causes
  | .seeding f | .tables f => f.causes
  | .address _ => ["invalid socket address syntax"]
  | .binding _ => ["Cannot assign requested address (os error 99)"]

/-- A text with its later lines indented. -/
def indent (width : Nat) (s : String) : String :=
  ("\n" ++ String.ofList (List.replicate width ' ')).intercalate
    ((s.toList.splitOn '\n').map String.ofList)

/-- The causes below the context, numbered if there are several. -/
def causeLines : List String → List String
  | [cause] => ["    " ++ indent 4 cause]
  | causes => causes.zipIdx.map fun (cause, n) => "    " ++ toString n ++ ": " ++ indent 7 cause

/-- The words of a panic, where the program ends with one and not with an error: at a variable that
cannot be set, and at a pool that is to hold no connection. -/
def panic? : LaunchFault → Option String
  | .environment a => some (": ".intercalate (context (.environment a) :: causes (.environment a)))
  | .connection _ (.opening .noConnections) => OpenFault.noConnections.causes.head?
  | _ => none

def exitCode (f : LaunchFault) : Nat := if f.panic?.isSome then 101 else 1

/-- The report of a failed start. That of a panic also names a place in the program, which is left
out here. -/
def report (f : LaunchFault) : String :=
  match f.panic? with
  | some words => "\nthread 'main' panicked:\n" ++ words ++ "\n"
  | none =>
    "Error: " ++ f.context ++ "\n\nCaused by:\n" ++ "\n".intercalate (causeLines f.causes) ++ "\n"

end LaunchFault

/-- A service that is ready to listen. -/
structure Service where
  settings : Settings
  database : Database
  store : Store
  address : SocketAddress
deriving DecidableEq

namespace Service

/-- The environment with what the environment file adds to it. -/
def environmentOf (s : Surroundings) : Except LaunchFault Environment :=
  match s.envFile with
  | none => .ok s.environment
  | some file => (EnvFile.load s.environment file).mapError .environment

/-- The settings that the environment and the environment file make together. -/
def settingsOf (s : Surroundings) : Except LaunchFault Settings := do
  (Settings.ofEnvironment (← environmentOf s)).mapError .settings

/-- The connection that is made for settings. -/
def connection (s : Surroundings) (settings : Settings) : Except ConnectFault Database :=
  (Database.connect s.files settings.databaseUrl settings.maxConnections s.machine).2

/-- The statements that make the tables, and those that add the demo rows if they are asked for. -/
def writes (seedDemo : Bool) : List Write :=
  [.table .boardgames, .table .offers] ++
    if seedDemo then Boardgame.demo.map .boardgame ++ Offer.demo.map .offer else []

/-- Makes the statements one after another, up to the first that is refused. -/
def write (s : Surroundings) (settings : Settings) (o : Opened) : Except Refusal Unit :=
  forM (writes settings.seedDemo) (s.machine.execute o (s.textIn o))

/-- Makes the tables, with or without the demo rows. -/
def prepare (s : Surroundings) (settings : Settings) (d : Database) :
    List Event × Except LaunchFault Store :=
  match write s settings d.toOpened, settings.seedDemo with
  | .error e, true => ([], .error (.seeding e))
  | .error e, false => ([], .error (.tables e))
  | .ok (), true => ([Store.seededEvent], .ok Store.empty.seed)
  | .ok (), false => ([], .ok Store.empty.createTables)

def bind (s : Surroundings) (settings : Settings) : Except LaunchFault SocketAddress :=
  match SocketAddress.parse? settings.bindAddress with
  | none => .error (.address settings.bindAddress)
  | some a => if s.available a then .ok a else .error (.binding a)

/-- Starts the service, or says what failed first. -/
def launch (s : Surroundings) : List Event × Except LaunchFault Service :=
  match settingsOf s with
  | .error f => ([], .error f)
  | .ok settings =>
    match connection s settings with
    | .error f => ([.starting], .error (.connection settings.databaseUrl f))
    | .ok d =>
      let connected := [.starting, .connected settings.databaseUrl]
      match prepare s settings d with
      | (seeding, .error f) => (connected ++ seeding, .error f)
      | (seeding, .ok store) =>
        match bind s settings with
        | .error f => (connected ++ seeding, .error f)
        | .ok a => (connected ++ seeding ++ [.listening a.text], .ok ⟨settings, d, store, a⟩)

end Service

end Listing
