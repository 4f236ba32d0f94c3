import Listing.Http.Form

/-!
# Database addresses

A database is named by a text: an optional scheme, a file name, and parameters behind a question
mark, of which only known ones with known values are allowed. The file name `:memory:` and the
mode `memory` both ask for a database in memory.
-/

set_option autoImplicit false

namespace Listing

open Text

/-- What a database address asks for. -/
structure DatabaseUrl where
  fileName : String
  memory : Bool
  readOnly : Bool
  immutable : Bool
  driver : Option String
deriving Repr, DecidableEq

inductive UrlFault
  | notText (fault : Utf8.Fault)
  | unknownParameter (key : String)
  | unknownValue (key value : String)
deriving Repr, DecidableEq

namespace UrlFault

/-- A text in double quotes with what cannot be printed escaped. -/
def quoted (s : String) : String :=
  "\"" ++ String.join (s.toList.map fun c =>
    if c = '"' then "\\\"" else if c = '\\' then "\\\\"
    else if c = '\n' then "\\n" else if c = '\r' then "\\r" else if c = '\t' then "\\t"
    else if c = '\x00' then "\\0"
    else if c.toNat < 32 || c.toNat = 127 then
      "\\u\x7b" ++ String.ofList (Nat.toDigits 16 c.toNat) ++ "\x7d"
    else c.toString) ++ "\""

def message : UrlFault → String
  | .notText f => f.message
  | .unknownParameter key =>
    "unknown query parameter \x60" ++ key ++ "\x60 while parsing connection URL"
  | .unknownValue key value => "unknown value " ++ quoted value ++ " for \x60" ++ key ++ "\x60"

end UrlFault

namespace DatabaseUrl

/-- The file name that stands for a database in memory. -/
def memoryName : String := ":memory:"

def holds (inner : List Char) : List Char → Bool
  | [] => inner.isEmpty
  | c :: cs => inner.isPrefixOf (c :: cs) || holds inner cs

/-- Whether the name of a database in memory stands anywhere in an address. -/
def mentionsMemory (url : String) : Bool := holds memoryName.toList url.toList

/-- Drops a word from the beginning as often as it stands there. -/
def dropAll (word cs : List Char) : List Char :=
  if _h : word ≠ [] ∧ word.isPrefixOf cs then dropAll word (cs.drop word.length) else cs
termination_by cs.length
decreasing_by
  obtain ⟨t, rfl⟩ := List.isPrefixOf_iff_prefix.1 _h.2
  have := List.length_pos_iff.2 _h.1
  simp only [List.length_drop, List.length_append]; omega

/-- An address without its scheme, of which there are two spellings. -/
def withoutScheme (url : String) : List Char :=
  dropAll "sqlite:".toList (dropAll "sqlite://".toList url.toList)

def switch? (value : String) : Option Bool :=
  if value = "true" || value = "1" then some true
  else if value = "false" || value = "0" then some false
  else none

/-- Takes one parameter. Sharing between connections makes no difference here, but its values are
checked. -/
def setParameter (u : DatabaseUrl) : String × String → Except UrlFault DatabaseUrl
  | ("mode", value) =>
    if value = "ro" then .ok { u with readOnly := true }
    else if value = "rw" || value = "rwc" then .ok u
    else if value = "memory" then .ok { u with memory := true }
    else .error (.unknownValue "mode" value)
  | ("cache", value) =>
    if value = "private" || value = "shared" then .ok u else .error (.unknownValue "cache" value)
  | ("immutable", value) =>
    match switch? value with
    | some b => .ok { u with immutable := b }
    | none => .error (.unknownValue "immutable" value)
  | ("vfs", value) => .ok { u with driver := some value }
  | (key, _) => .error (.unknownParameter key)

/-- The address without its parameters. -/
def ofName (name : List Char) : Except UrlFault DatabaseUrl :=
  if name = memoryName.toList then .ok ⟨memoryName, true, false, false, none⟩
  else
    let bytes := percentDecode (Utf8.encode (String.ofList name))
    match Utf8.fault? bytes with
    | some f => .error (.notText f)
    | none => .ok ⟨Utf8.decodeLossy bytes, false, false, false, none⟩

def parse (url : String) : Except UrlFault DatabaseUrl := do
  let cs := withoutScheme url
  let u ← ofName (cs.takeWhile (· != '?'))
  (Form.decode (String.ofList ((cs.dropWhile (· != '?')).drop 1))).foldlM setParameter u

end DatabaseUrl

end Listing
