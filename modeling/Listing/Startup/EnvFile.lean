import Listing.Startup.Environment
import Listing.Text.Alphanumeric

/-!
# Environment files

An environment file holds assignments, one on a line. A value may be quoted, and then go on over
several lines, hold escapes, and refer to variables that are set already. Assignments are made from
the top; one to a variable that has a text changes nothing, and the first line that cannot be read
ends the file. Reading fails only at an assignment that cannot be made.
-/

set_option autoImplicit false

namespace Listing.EnvFile

open Text

/-! ## Lines -/

/-- Where in a line one stands: in plain text, behind a blank, in quotes of either kind, behind a
backslash in any of these, or in a comment. -/
inductive Place
  | plain
  | escaped
  | strong
  | strongEscaped
  | weak
  | weakEscaped
  | blank
  | comment
deriving Repr, DecidableEq

/-- The place behind a character that opens something outside quotes. -/
def Place.opening? : Char → Option Place
  | '\\' => some .escaped
  | '"' => some .weak
  | '\'' => some .strong
  | _ => none

def Place.after (p : Place) (c : Char) : Place :=
  match p with
  | .plain =>
    if isBlank c && c != '\n' && c != '\r' then .blank else (Place.opening? c).getD .plain
  | .blank => if c = '#' then .comment else (Place.opening? c).getD .plain
  | .escaped => .plain
  | .strong => if c = '\\' then .strongEscaped else if c = '\'' then .plain else .strong
  | .strongEscaped => .strong
  | .weak => if c = '\\' then .weakEscaped else if c = '"' then .plain else .weak
  | .weakEscaped => .weak
  | .comment => .comment

/-- Reads a line up to a comment: what stands before it, and the place at the end. -/
def readLine (p : Place) : List Char → List Char × Place
  | [] => ([], p)
  | c :: cs =>
    if p.after c = .comment then ([], .comment)
    else
      let (kept, last) := readLine (p.after c) cs
      (c :: kept, last)

/-- Puts a character in front of the first line. -/
def ontoFirst (c : Char) : List (List Char) → List (List Char)
  | [] => [[c]]
  | l :: ls => (c :: l) :: ls

/-- The lines of a text, each with the newline that ends it. -/
def lines : List Char → List (List Char)
  | [] => []
  | c :: cs => if c = '\n' then [c] :: lines cs else ontoFirst c (lines cs)

/-- A line without the newline, and the return before it, that end it. -/
def chomp (line : List Char) : List Char :=
  match line.reverse with
  | '\n' :: '\r' :: cs => cs.reverse
  | '\n' :: cs => cs.reverse
  | _ => line

/-- The lines with those joined that quotes hold together; `read` is what has been read of the
present one. A text that ends elsewhere than in plain text has a last line that cannot be read. -/
def joined (read : List Char) (p : Place) : List (List Char) → List (Option (List Char))
  | [] => if p = .plain then [] else [none]
  | l :: ls =>
    let all := read ++ l
    if (all.dropWhile isBlank).head? = some '#' then some [] :: joined [] .plain ls
    else
      let (kept, last) := readLine p l
      if last = .plain then some (chomp all) :: joined [] .plain ls
      else if last = .comment then some (read ++ kept) :: joined [] .plain ls
      else joined all last ls

/-! ## Values -/

/-- What a value is being read as: plain text, text in quotes, an escape, a name behind a dollar
sign with or without braces, or the blanks behind a value. The flag tells of weak quotes; a name is
kept last character first. -/
inductive Mode
  | text (weak : Bool)
  | strong
  | escape (weak : Bool)
  | name (weak : Bool) (read : List Char)
  | braced (weak : Bool) (read : List Char)
  | done
deriving Repr, DecidableEq

/-- One more character: what it adds to the value and the mode behind it, unless it is wrong. -/
def Mode.step (look : String → String) (m : Mode) (c : Char) : Option (List Char × Mode) :=
  match m with
  | .done => if c = ' ' || c = '\t' then some ([], .done) else none
  | .escape weak =>
    if c = 'n' then some (['\n'], .text weak)
    else if c = '\\' || c = '\'' || c = '"' || c = '$' || c = ' ' then some ([c], .text weak)
    else none
  | .strong => some (if c = '\'' then ([], .text false) else ([c], .strong))
  | .name weak read =>
    if isAlphanumeric c then some ([], .name weak (c :: read))
    else if c = '\x7b' && read.isEmpty then some ([], .braced weak [])
    else
      let value := (look (String.ofList read.reverse)).toList
      some (if c = '$' then (value, .name weak []) else (value ++ [c], .text weak))
  | .braced weak read =>
    if c = '\x7d' then some ((look (String.ofList read.reverse)).toList, .text weak)
    else some ([], .braced weak (c :: read))
  | .text weak =>
    if c = '$' then some ([], .name weak [])
    else if c = '\\' then some ([], .escape weak)
    else if c = '"' then some ([], .text (!weak))
    else if weak then some ([c], .text true)
    else if c = '\'' then some ([], .strong)
    else if c = ' ' || c = '\t' then some ([], .done)
    else some ([c], .text false)

/-- Reads a value to its end or to a comment behind it. -/
def readValue (look : String → String) : Mode → List Char → Option (List Char)
  | .done, '#' :: _ => some []
  | m, c :: cs =>
    match m.step look c with
    | none => none
    | some (out, next) => (readValue look next cs).map (out ++ ·)
  | m, [] =>
    match m with
    | .text false | .escape false | .done => some []
    | .name false read => some (look (String.ofList read.reverse)).toList
    | _ => none

/-! ## Assignments -/

/-- A letter, a digit, an underscore or a dot, in ASCII. -/
def isNameChar (c : Char) : Bool := c.isAlphanum || c = '_' || c = '.'

/-- A name at the beginning of a text, and what follows it with leading blanks dropped. -/
def readName (cs : List Char) : Option (String × List Char) :=
  match cs with
  | c :: _ =>
    if c.isAlpha || c = '_' then
      some (String.ofList (cs.takeWhile isNameChar),
        (cs.dropWhile isNameChar).dropWhile isBlank)
    else none
  | [] => none

def readEquals : List Char → Option (List Char)
  | '=' :: cs => some (cs.dropWhile isBlank)
  | _ => none

/-- The name of an assignment, which the word `export` may precede, and what follows its equals
sign. -/
def readKey (cs : List Char) : Option (String × List Char) := do
  let (name, rest) ← readName cs
  match readEquals rest with
  | some value => return (name, value)
  | none =>
    if name = "export" then
      let (name, rest) ← readName rest
      return (name, ← readEquals rest)
    else none

def trimEnd (cs : List Char) : List Char := (cs.reverse.dropWhile isBlank).reverse

/-- What a line says: an assignment, nothing, or something that cannot be read. -/
inductive Line
  | assign (name value : String)
  | nothing
  | broken
deriving Repr, DecidableEq

/-- Reads a line, `look` giving the values of the variables it refers to. -/
def Line.read (look : String → String) (line : List Char) : Line :=
  let cs := (trimEnd line).dropWhile isBlank
  if cs.isEmpty || cs.head? = some '#' then .nothing
  else match readKey cs with
    | none => .broken
    | some (name, value) =>
      if value.isEmpty || value.head? = some '#' then .assign name ""
      else match readValue look (.text false) value with
        | none => .broken
        | some v => .assign name (String.ofList v)

/-- A variable with the text it cannot be given. -/
structure Unsettable where
  name : String
  value : String
deriving Repr, DecidableEq

/-- Makes the assignments of lines until a line cannot be read, or an assignment not be made. -/
def loadLines (env : Environment) : List (Option (List Char)) → Except Unsettable Environment
  | [] => .ok env
  | none :: _ => .ok env
  | some line :: rest =>
    match Line.read (env.textOr · "") line with
    | .assign name value =>
      match env.setNew name value with
      | none => .error ⟨name, value⟩
      | some env => loadLines env rest
    | .nothing => loadLines env rest
    | .broken => .ok env

/-- A text without the mark that may begin it. -/
def dropMark : List Char → List Char
  | '\ufeff' :: cs => cs
  | cs => cs

/-- The environment after an environment file is read. -/
def load (env : Environment) (file : String) : Except Unsettable Environment :=
  loadLines env (joined [] .plain (lines (dropMark file.toList)))

end Listing.EnvFile
