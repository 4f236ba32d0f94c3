import Listing.Catalog.Store
import Listing.Startup.DatabaseFile
import Listing.Startup.FileTree

/-!
# Opening a database

`Database.connect` reads an address, makes the directory a database file is to stand in, and opens
or makes the file. A database in memory has one connection; whether an address means one is decided
here by its text alone. What the address itself asks for is decided where it is opened.

What is asked of the system and of the database is kept apart (`Machine`), with what becomes of it
on a common one (`Machine.standard`).
-/

set_option autoImplicit false

namespace Listing

open Text

/-- Where an open database is kept. -/
inductive Storage
  | memory
  | temporary
  | file (names : List String)
deriving Repr, DecidableEq

/-- An open database, and whether it can only be read. -/
structure Opened where
  storage : Storage
  readOnly : Bool
deriving Repr, DecidableEq

/-- An open database with the connections there may be to it. -/
structure Database extends Opened where
  maxConnections : Nat
deriving Repr, DecidableEq

/-- A statement that makes a table where it is missing, or adds a row where its key is free. -/
inductive Write
  | table (entity : Entity)
  | boardgame (row : Boardgame)
  | offer (row : Offer)
deriving DecidableEq

/-- Why a database cannot be opened. -/
inductive OpenFault
  | refused (cause : Refusal)
  | noConnections
deriving Repr, DecidableEq

/-- Why there is no connection. -/
inductive ConnectFault
  | url (cause : UrlFault)
  | directory (path : String) (cause : PathFault)
  | opening (cause : OpenFault)
deriving Repr, DecidableEq

def OpenFault.causes : OpenFault → List String
  | .refused cause => cause.causes
  | .noConnections => ["capacity must be non-zero"]

namespace ConnectFault

/-- What was being done for an address. -/
def context (address : String) : ConnectFault → String
  | .url _ => "invalid database url " ++ address
  | .directory path _ => "failed to create database directory " ++ path
  | .opening _ => "failed to connect to " ++ address

/-- The wording of the causes, from the outermost to the innermost. -/
def causes : ConnectFault → List String
  | .url f => ["error with configuration: " ++ f.message, f.message]
  | .directory _ f => [f.message]
  | .opening f => f.causes

end ConnectFault

/-! ## The system and the database -/

namespace Database

/-- The drivers that keep a database in a file. -/
def fileDrivers : List String := ["unix", "unix-none", "unix-dotfile", "unix-excl"]

/-- The driver that keeps a database in memory. -/
def memoryDriver : String := "memdb"

/-- The longest path of a database, in bytes: from the root in a file, as it is given in memory. -/
def maxFilePath : Nat := 504

def maxMemoryPath : Nat := 1016

/-- Opens the file of a path; one that is missing is made, if it may be. -/
def openFile (t : FileTree) (o : Opening) : FileTree × Except Refusal Storage :=
  match t.fullNames? o.path with
  | none | some [] => (t, .error .cannotOpen)
  | some names =>
    if maxFilePath < FileTree.pathSize names then (t, .error .cannotOpen)
    else match t.node? names with
      | some .file => (t, .ok (.file names))
      | some .directory => (t, .error (if o.readOnly then .unreadable else .cannotOpen))
      | none =>
        if t.node? names.dropLast = some .directory && o.creates then
          (t.add names .file, .ok (.file names))
        else (t, .error .cannotOpen)

/-- Opens the database an address asks for. What it holds is not looked at before it is written. -/
def openDatabase (t : FileTree) (u : DatabaseUrl) : FileTree × Except Refusal Opened :=
  match Opening.ofUrl u with
  | .error e => (t, .error e)
  | .ok o =>
    if o.driver ≠ memoryDriver && !fileDrivers.contains o.driver then
      (t, .error (.noSuchDriver o.driver))
    else if o.memory || o.path = DatabaseUrl.memoryName then
      (t, .ok ⟨.memory, o.readOnly⟩)
    else if o.path = "" then (t, .ok ⟨.temporary, o.readOnly⟩)
    else if o.driver = memoryDriver then
      if maxMemoryPath < o.path.utf8ByteSize then (t, .error .cannotOpen)
      else (t, .ok ⟨.memory, o.readOnly || o.fixed⟩)
    else
      let (t, opened) := openFile t o
      (t, opened.map fun storage => ⟨storage, o.readOnly || o.fixed⟩)

/-- The name of the journal that a file has while it is written. -/
def journal (names : List String) : String := names.getLastD "" ++ "-journal"

/-- Makes a statement, where `text` is what the file of the database is known to hold. No text of
more than one byte is taken for a database. -/
def execute (o : Opened) (text : Option String) (_ : Write) : Except Refusal Unit :=
  match o.storage with
  | .file names =>
    if 1 < (text.getD "").utf8ByteSize then .error .notDatabase
    else if o.readOnly then .error .readOnly
    else if FileTree.maxName < (journal names).utf8ByteSize then .error .cannotOpen
    else .ok ()
  | .memory | .temporary => if o.readOnly then .error .readOnly else .ok ()

end Database

/-- What is asked of the system and of the database, of whatever kind they are. Directories are made
and databases are opened by their names: what a file holds does not come in before a statement is
made, which is given the text of the file where that is known. -/
structure Machine where
  makeDirectories : FileTree → String → FileTree × Except PathFault Unit
  openDatabase : FileTree → DatabaseUrl → FileTree × Except Refusal Opened
  execute : Opened → Option String → Write → Except Refusal Unit

/-- A machine without links between its files, whose owner may write everywhere. Its files hold
nothing, as far as it is not known what they hold. -/
def Machine.standard : Machine where
  makeDirectories := FileTree.makeDirectories
  openDatabase := Database.openDatabase
  execute := Database.execute

/-! ## Connections -/

namespace Database

/-- Opens the database of an address with at most so many connections. -/
def openAll (t : FileTree) (u : DatabaseUrl) (maxConnections : Nat)
    (m : Machine := .standard) : FileTree × Except OpenFault Database :=
  if maxConnections = 0 then (t, .error .noConnections)
  else
    let (t, opened) := m.openDatabase t u
    (t, (opened.mapError .refused).map fun o => ⟨o, maxConnections⟩)

/-- Makes the directory that a file name leads into, if it has one. -/
def makeParent (t : FileTree) (fileName : String) (m : Machine := .standard) :
    FileTree × Except ConnectFault Unit :=
  match FileTree.parent? fileName with
  | none | some "" => (t, .ok ())
  | some parent =>
    let (t, made) := m.makeDirectories t parent
    (t, made.mapError (.directory parent))

def connect (t : FileTree) (address : String) (maxConnections : Nat)
    (m : Machine := .standard) : FileTree × Except ConnectFault Database :=
  let inMemory := DatabaseUrl.mentionsMemory address
  match DatabaseUrl.parse address with
  | .error f => (t, .error (.url f))
  | .ok u =>
    match if inMemory then (t, .ok ()) else makeParent t u.fileName m with
    | (t, .error f) => (t, .error f)
    | (t, .ok ()) =>
      let (t, opened) := openAll t u (if inMemory then 1 else maxConnections) m
      (t, opened.mapError .opening)

end Database

end Listing
