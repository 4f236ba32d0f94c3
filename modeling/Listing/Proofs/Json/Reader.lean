import Listing.Json

/-!
# Reading JSON

What a JSON text says. A text is cut into tokens character by character (`Scan.step`), and the
tokens are put together with a stack of the arrays and objects that are still open (`Parse.step`).
`Json.read?` gives the one value of a text, members of an object in their order; it gives none for a
text that is not JSON. A number without point and power is an integer, any other the nearest
binary64 number, which must be finite.
-/

set_option autoImplicit false

namespace Listing.Json

open Number Text

/-! ## Numbers and names -/

/-- The nearest binary64 number, if it is finite. -/
def real? (cs : List Char) : Option Json :=
  ((Binary64.read? (String.ofList cs)).filter Binary64.isFinite).map .real

/-- A number: its only sign is a minus, no zero stands in front of other digits, and there are
digits on both sides of a point. -/
def number? (cs : List Char) : Option Json :=
  let unsigned := if cs.head? = some '-' then cs.tail else cs
  match unsigned.takeWhile Char.isDigit, unsigned.dropWhile Char.isDigit with
  | [], _ => none
  | '0' :: _ :: _, _ => none
  | _, [] => (integer? cs).map .int
  | _, '.' :: rest => if rest.head?.any Char.isDigit then real? cs else none
  | _, _ => real? cs

/-- The value of a word: one of the three names, or a number. -/
def word? (cs : List Char) : Option Json :=
  if cs = "null".toList then some .null
  else if cs = "true".toList then some (.bool true)
  else if cs = "false".toList then some (.bool false)
  else number? cs

/-! ## Strings -/

/-- A part of a string: a character, or sixteen bits given by their digits. -/
inductive Piece
  | char (c : Char)
  | unit (n : Nat)

/-- What a character behind a backslash stands for. -/
def escaped? : Char → Option Char
  | '"' => some '"'
  | '\\' => some '\\'
  | '/' => some '/'
  | 'b' => some '\x08'
  | 'f' => some '\x0c'
  | 'n' => some '\n'
  | 'r' => some '\r'
  | 't' => some '\t'
  | _ => none

/-- The parts of a string's text. A control character must not stand there as itself. -/
def pieces : List Char → Option (List Piece)
  | [] => some []
  | '\\' :: 'u' :: a :: b :: c :: d :: cs => do
    let unit := 4096 * (← hexValue? a) + 256 * (← hexValue? b) + 16 * (← hexValue? c)
      + (← hexValue? d)
    (pieces cs).map (.unit unit :: ·)
  | '\\' :: c :: cs => do
    let d ← escaped? c
    (pieces cs).map (.char d :: ·)
  | c :: cs => if c = '\\' || c.toNat < 32 then none else (pieces cs).map (.char c :: ·)

/-- The characters of a string's parts. Two surrogates make one character, a single one makes
none. -/
def combine : List Piece → Option (List Char)
  | [] => some []
  | .char c :: ps => (combine ps).map (c :: ·)
  | .unit n :: .unit m :: ps =>
    if n < 0xD800 || 0xE000 ≤ n then (combine (.unit m :: ps)).map (Char.ofNat n :: ·)
    else if n < 0xDC00 && 0xDC00 ≤ m && m < 0xE000 then
      (combine ps).map (Char.ofNat (0x10000 + 0x400 * (n - 0xD800) + (m - 0xDC00)) :: ·)
    else none
  | .unit n :: ps =>
    if n < 0xD800 || 0xE000 ≤ n then (combine ps).map (Char.ofNat n :: ·) else none

/-- The string whose text stands between quotes. -/
def unquote? (cs : List Char) : Option String := ((pieces cs).bind combine).map String.ofList

/-! ## Tokens -/

inductive Token
  | openArray
  | closeArray
  | openObject
  | closeObject
  | comma
  | colon
  | text (s : String)
  | word (cs : List Char)

/-- The token that a character is by itself. -/
def Token.ofChar? : Char → Option Token
  | '[' => some .openArray
  | ']' => some .closeArray
  | '\x7b' => some .openObject
  | '\x7d' => some .closeObject
  | ',' => some .comma
  | ':' => some .colon
  | _ => none

def isBlank (c : Char) : Bool := c = ' ' || c = '\t' || c = '\n' || c = '\r'

/-- Where a text has been cut so far; what has been read of a token is kept, the last character
first. -/
inductive Scan
  | between
  | word (seen : List Char)
  | text (seen : List Char)
  | escape (seen : List Char)

namespace Scan

/-- A character that no token has begun before. -/
def start (c : Char) : List Token × Scan :=
  match Token.ofChar? c with
  | some t => ([t], .between)
  | none =>
    if isBlank c then ([], .between)
    else if c = '"' then ([], .text [])
    else ([], .word [c])

/-- Whether a character cannot stand in a word. -/
def endsWord (c : Char) : Bool := (Token.ofChar? c).isSome || isBlank c || c = '"'

/-- One more character: the tokens it completes, and what is read on. -/
def step : Scan → Char → Option (List Token × Scan)
  | .between, c => some (start c)
  | .word seen, c =>
    if endsWord c then some (.word seen.reverse :: (start c).1, (start c).2)
    else some ([], .word (c :: seen))
  | .text seen, c =>
    if c = '"' then (unquote? seen.reverse).map fun s => ([.text s], .between)
    else if c = '\\' then some ([], .escape (c :: seen))
    else some ([], .text (c :: seen))
  | .escape seen, c => some ([], .text (c :: seen))

/-- The tokens that the end of the text completes. -/
def finish : Scan → Option (List Token)
  | .between => some []
  | .word seen => some [.word seen.reverse]
  | .text _ | .escape _ => none

end Scan

/-! ## Values -/

/-- An array or object that is open, with what it holds so far, the last first. -/
inductive Frame
  | array (items : List Json)
  | object (members : List (String × Json)) (key : String)

/-- What may come next. -/
inductive Expected
  | value
  | valueOrEnd
  | keyOrEnd
  | key (members : List (String × Json))
  | colon (members : List (String × Json)) (key : String)
  | afterValue (j : Json)

/-- How far a text has been put together. -/
structure Parse where
  expected : Expected
  stack : List Frame

namespace Parse

/-- The first token of a value, inside of what is open. -/
def begin? (t : Token) (stack : List Frame) : Option Parse :=
  match t with
  | .openArray => some ⟨.valueOrEnd, stack⟩
  | .openObject => some ⟨.keyOrEnd, stack⟩
  | .text s => some ⟨.afterValue (.str s), stack⟩
  | .word cs => (word? cs).map fun j => ⟨.afterValue j, stack⟩
  | _ => none

/-- One more token. -/
def step : Parse → Token → Option Parse
  | ⟨.value, stack⟩, t => begin? t stack
  | ⟨.valueOrEnd, stack⟩, .closeArray => some ⟨.afterValue (.arr []), stack⟩
  | ⟨.valueOrEnd, stack⟩, t => begin? t (.array [] :: stack)
  | ⟨.keyOrEnd, stack⟩, .closeObject => some ⟨.afterValue (.obj []), stack⟩
  | ⟨.keyOrEnd, stack⟩, .text key => some ⟨.colon [] key, stack⟩
  | ⟨.key members, stack⟩, .text key => some ⟨.colon members key, stack⟩
  | ⟨.colon members key, stack⟩, .colon => some ⟨.value, .object members key :: stack⟩
  | ⟨.afterValue j, .array items :: stack⟩, .comma => some ⟨.value, .array (j :: items) :: stack⟩
  | ⟨.afterValue j, .array items :: stack⟩, .closeArray =>
      some ⟨.afterValue (.arr (j :: items).reverse), stack⟩
  | ⟨.afterValue j, .object members key :: stack⟩, .comma =>
      some ⟨.key ((key, j) :: members), stack⟩
  | ⟨.afterValue j, .object members key :: stack⟩, .closeObject =>
    some ⟨.afterValue (.obj ((key, j) :: members).reverse), stack⟩
  | _, _ => none

/-- The value of a text that ends here. -/
def value? : Parse → Option Json
  | ⟨.afterValue j, []⟩ => some j
  | _ => none

end Parse

/-- Reads on from where a text has been cut and put together. -/
def readFrom (scan : Scan) (parse : Parse) : List Char → Option Json
  | [] => do
    let parse ← (← scan.finish).foldlM Parse.step parse
    parse.value?
  | c :: cs => do
    let (tokens, scan) ← scan.step c
    readFrom scan (← tokens.foldlM Parse.step parse) cs

/-- The value that a JSON text says. -/
def read? (s : String) : Option Json := readFrom .between ⟨.value, []⟩ s.toList

end Listing.Json
