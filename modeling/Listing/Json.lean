import Listing.Number.Layout
import Listing.Text.Hex

/-!
# JSON values

A JSON value and its compact text: members in their order, no blanks, only the characters that
must be escaped escaped. Numbers are integers or binary64 numbers; an infinity, which JSON cannot
write, is `null`.
-/

set_option autoImplicit false

namespace Listing

open Number Text

inductive Json
  | null
  | bool (b : Bool)
  | int (n : Int)
  | real (x : Binary64)
  | str (s : String)
  | arr (items : List Json)
  | obj (members : List (String × Json))
deriving Inhabited

namespace Json

/-- Reals from `10 ^ -5` up to `10 ^ 16` are written out; an exponent has its sign and no
padding. -/
def realLayout : Layout where
  leastPlain := -5
  endPlain := 16
  mark := "e"
  plus := "+"

/-- A character inside a string. -/
def escape (c : Char) : List Char :=
  if c = '"' then ['\\', '"']
  else if c = '\\' then ['\\', '\\']
  else if c = '\x08' then ['\\', 'b']
  else if c = '\t' then ['\\', 't']
  else if c = '\n' then ['\\', 'n']
  else if c = '\x0c' then ['\\', 'f']
  else if c = '\r' then ['\\', 'r']
  else if c.toNat < 32 then ['\\', 'u', '0', '0', hexDigit (c.toNat / 16), hexDigit (c.toNat % 16)]
  else [c]

def quote (s : String) : String := "\"" ++ String.ofList (s.toList.flatMap escape) ++ "\""

/-- Parts between brackets, with commas. -/
def bracket (opening : String) (parts : List String) (closing : String) : String :=
  opening ++ ",".intercalate parts ++ closing

mutual
/-- The compact text of a value. -/
def render : Json → String
  | .null => "null"
  | .bool true => "true"
  | .bool false => "false"
  | .int n => toString n
  | .real x => (realLayout.write? x).getD "null"
  | .str s => quote s
  | .arr items => bracket "[" (renderItems items) "]"
  | .obj members => bracket "\x7b" (renderMembers members) "\x7d"

def renderItems : List Json → List String
  | [] => []
  | j :: js => render j :: renderItems js

def renderMembers : List (String × Json) → List String
  | [] => []
  | (k, j) :: ms => (quote k ++ ":" ++ render j) :: renderMembers ms
end

theorem renderItems_eq_map (js : List Json) : renderItems js = js.map render := by
  induction js with
  | nil => rfl
  | cons j js ih => simp [renderItems, ih]

end Json

end Listing
