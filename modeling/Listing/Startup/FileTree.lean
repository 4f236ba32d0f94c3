/-!
# File trees

Directories and files by their names from the root down. A path is text; one that does not begin
at the root begins at the working directory. `makeDirectories` makes what is missing of a path, and
keeps what it made also where it fails. `fullNames?` reads a path as a database does, name by name.
What a file holds is not kept here.
-/

set_option autoImplicit false

namespace Listing

/-- What a path leads to. -/
inductive Node
  | directory
  | file
deriving Repr, DecidableEq

/-- The nodes below the root, and the names that lead to the working directory. -/
structure FileTree where
  working : List String
  nodes : List (List String × Node)
deriving Repr, DecidableEq

/-- Why a directory cannot be made. What a system may say besides is kept in its own words. -/
inductive PathFault
  | exists
  | notDirectory
  | nameTooLong
  | nul
  | other (message : String)
deriving Repr, DecidableEq

def PathFault.message : PathFault → String
  | .exists => "File exists (os error 17)"
  | .notDirectory => "Not a directory (os error 20)"
  | .nameTooLong => "File name too long (os error 36)"
  | .nul => "file name contained an unexpected NUL byte"
  | .other message => message

namespace FileTree

/-- The longest name, in bytes. -/
def maxName : Nat := 255

/-- The longest path that the system takes, in bytes. -/
def maxPath : Nat := 4095

/-- The longest path that a database is read by, in bytes. -/
def maxRead : Nat := 511

/-- The pieces of a path between its slashes. -/
def pieces (path : String) : List String := (path.toList.splitOn '/').map String.ofList

def isRooted (path : String) : Bool := path.toList.head? = some '/'

/-- Whether a piece of a path leads nowhere. -/
def isIdle (piece : String) : Bool := piece = "" || piece = "."

variable (t : FileTree)

def node? (names : List String) : Option Node :=
  if names = [] then some .directory else t.nodes.lookup names

def add (names : List String) (n : Node) : FileTree := { t with nodes := t.nodes ++ [(names, n)] }

/-- The tree with a file in place of what its names led to. -/
def withFile (names : List String) : FileTree := { t with nodes := (names, .file) :: t.nodes }

def start (path : String) : List String := if isRooted path then [] else t.working

/-- Walks down a path from a place, making the directories that are missing; `made` tells whether
one has been made already, and then the walk is tried again from there. -/
def walk (t : FileTree) (here : List String) (made : Bool) :
    List String → FileTree × Except PathFault Unit
  | [] => (t, .ok ())
  | p :: ps =>
    if isIdle p then walk t here made ps
    else if p = ".." then walk t here.dropLast made ps
    else if maxName < p.utf8ByteSize then (t, .error .nameTooLong)
    else match t.node? (here ++ [p]) with
      | some .directory => walk t (here ++ [p]) made ps
      | some .file =>
        (t, .error (if made || ps.all isIdle then .exists else .notDirectory))
      | none => walk (t.add (here ++ [p]) .directory) (here ++ [p]) true ps

/-- Makes the directories of a path that are missing. -/
def makeDirectories (path : String) : FileTree × Except PathFault Unit :=
  if path.toList.contains '\x00' then (t, .error .nul)
  else if maxPath < path.utf8ByteSize then (t, .error .nameTooLong)
  else walk t (t.start path) false (pieces path)

/-- The size of the path from the root that some names make. -/
def pathSize (names : List String) : Nat :=
  names.foldl (fun size p => size + 1 + p.utf8ByteSize) 0

/-- One more name of a path, of which what stands at the names before it is asked for. A directory
that is missing is passed over, as a name behind it may lead back. -/
def stepDown (here : List String) (p : String) : Option (List String) :=
  if isIdle p then some here
  else if p = ".." then some here.dropLast
  else if maxRead < pathSize (here ++ [p]) then none
  else match t.node? here with
    | some .file => none
    | some .directory => if maxName < p.utf8ByteSize then none else some (here ++ [p])
    | none => some (here ++ [p])

/-- The names that lead from the root to what a path leads to. -/
def fullNames? (path : String) : Option (List String) :=
  (pieces path).foldlM t.stepDown (t.start path)

/-- The pieces of a path without those at its end that lead nowhere. -/
def trimIdle (ps : List String) : List String := (ps.reverse.dropWhile isIdle).reverse

/-- The same for a path from the working directory, in which a leading dot counts. -/
def trimPieces : List String → List String
  | [] => []
  | p :: ps => if p = "" then trimIdle (p :: ps) else p :: trimIdle ps

/-- The path of the directory a path leads into: the empty text for the working directory, nothing
for the root and the empty path. -/
def parent? (path : String) : Option String :=
  if isRooted path then
    match trimIdle ((pieces path).drop 1) with
    | [] => none
    | ps => some ("/" ++ "/".intercalate (trimIdle ps.dropLast))
  else
    match trimPieces (pieces path) with
    | [] => none
    | ps => some ("/".intercalate (trimPieces ps.dropLast))

/-- The entries below the working directory, by their paths from there. -/
def entries : List (String × Node) :=
  t.nodes.filterMap fun (names, n) =>
    if t.working.isPrefixOf names && names != t.working then
      some ("/".intercalate (names.drop t.working.length), n)
    else none

end FileTree

end Listing
