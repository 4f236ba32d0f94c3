import Listing.Number.Digits
import Listing.Startup.DatabaseUrl

/-!
# File names of databases

A database is opened by a file name, a driver and a mode. A file name of the form `file:path` is
read once more (`Opening.ofScheme`): a host in front of the path must be this one, and parameters
behind a question mark may give another driver and mode.
-/

set_option autoImplicit false

namespace Listing

open Text

/-- A refusal of a database: a code with a text, or words of another kind, from the outermost to the
innermost. -/
inductive Refusal
  | reported (code : Nat) (text : String)
  | said (causes : List String)
deriving Repr, DecidableEq

namespace Refusal

/-- The wording of a refusal, from the outermost to the innermost. -/
def causes : Refusal → List String
  | .reported code text =>
    let said := "(code: " ++ toString code ++ ") " ++ text
    ["error returned from database: " ++ said, said]
  | .said causes => causes

def cannotOpen : Refusal := .reported 14 "unable to open database file"

def unreadable : Refusal := .reported 266 "disk I/O error"

def readOnly : Refusal := .reported 8 "attempt to write a readonly database"

def notDatabase : Refusal := .reported 26 "file is not a database"

def noSuchDriver (name : String) : Refusal := .reported 1 ("no such vfs: " ++ name)

def nul : Refusal :=
  let words := "filename passed to SQLite must not contain nul bytes"
  .said ["error communicating with database: " ++ words, words]

end Refusal

/-- How a database is to be opened. One that is fixed is taken never to change. -/
structure Opening where
  path : String
  driver : String
  memory : Bool
  readOnly : Bool
  creates : Bool
  fixed : Bool
deriving Repr, DecidableEq

namespace Opening

/-- A text up to the first NUL in it. -/
def untilNul (s : String) : String := String.ofList (s.toList.takeWhile (· != '\x00'))

/-- A part of an address of a file, of which nothing is read behind an escaped NUL. -/
def decodePart (cs : List Char) : String :=
  untilNul (Utf8.decodeLossy (percentDecode (Utf8.encode (String.ofList cs))))

/-- What follows the host of an address of a file. -/
def dropHost : List Char → Except Refusal (List Char)
  | '/' :: '/' :: cs =>
    let host := cs.takeWhile (· != '/')
    if host.isEmpty || host = "localhost".toList then .ok (cs.dropWhile (· != '/'))
    else .error (.reported 1 ("invalid uri authority: " ++ String.ofList host))
  | cs => .ok cs

/-- The parameters behind a path; one without a name counts for nothing. -/
def parameters (cs : List Char) : List (String × String) :=
  (cs.splitOn '&').filterMap fun piece =>
    let name := decodePart (piece.takeWhile (· != '='))
    if name = "" then none else some (name, decodePart ((piece.dropWhile (· != '=')).drop 1))

/-- Changes the mode; one that allows more than the mode before is refused. -/
def setMode (o : Opening) (mode : String) : Except Refusal Opening :=
  if mode = "memory" then .ok { o with memory := true, readOnly := false, creates := false }
  else if mode = "ro" then .ok { o with memory := false, readOnly := true, creates := false }
  else if mode = "rw" then
    if o.memory || !o.readOnly then
      .ok { o with memory := false, readOnly := false, creates := false }
    else .error (.reported 3 ("access mode not allowed: " ++ mode))
  else if mode = "rwc" then
    if o.memory || o.creates then
      .ok { o with memory := false, readOnly := false, creates := true }
    else .error (.reported 3 ("access mode not allowed: " ++ mode))
  else .error (.reported 1 ("no such access mode: " ++ mode))

def setParameter (o : Opening) : String × String → Except Refusal Opening
  | ("vfs", driver) => .ok { o with driver := driver }
  | ("mode", mode) => o.setMode mode
  | ("cache", sharing) =>
    if sharing = "shared" || sharing = "private" then .ok o
    else .error (.reported 1 ("no such cache mode: " ++ sharing))
  | _ => .ok o

/-- Whether a value of a switch turns it on: a word, or the digits in front. -/
def turnsOn (value : String) : Bool :=
  match Number.natural? (value.toList.takeWhile Char.isDigit) with
  | some n => n % 256 ≠ 0
  | none => ["on", "yes", "true"].contains value.toLower

/-- Reads what follows `file:`. -/
def ofScheme (o : Opening) (cs : List Char) : Except Refusal Opening := do
  let body := (← dropHost cs).takeWhile (· != '#')
  let given := parameters ((body.dropWhile (· != '?')).drop 1)
  let o ← given.foldlM setParameter { o with path := decodePart (body.takeWhile (· != '?')) }
  return { o with fixed := (given.lookup "immutable").any turnsOn }

/-- How the database of an address is to be opened. With a driver, or where it is never to change,
the file name is handed on escaped, and then no more is read into it. -/
def ofUrl (u : DatabaseUrl) : Except Refusal Opening :=
  let o : Opening := ⟨u.fileName, "unix", u.memory, u.readOnly, !u.readOnly, false⟩
  if u.immutable || u.driver.isSome then
    .ok { o with
      path := untilNul u.fileName
      driver := (u.driver.map untilNul).getD "unix"
      fixed := u.immutable }
  else if u.fileName.toList.contains '\x00' then .error .nul
  else match u.fileName.toList with
    | 'f' :: 'i' :: 'l' :: 'e' :: ':' :: cs => o.ofScheme cs
    | _ => .ok o

end Opening

end Listing
