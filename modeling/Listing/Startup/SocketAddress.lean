import Listing.Number.Count
import Listing.Text.Hex

/-!
# Socket addresses

An address to listen on is an IPv4 address, a colon and a port, or an IPv6 address in brackets, a
colon and a port. `SocketAddress.parse?` reads it, `SocketAddress.text` writes it in its standard
form.
-/

set_option autoImplicit false

namespace Listing

open Number Text

/-- An IP address: four numbers below 256, or eight below 65536. -/
inductive IpAddress
  | v4 (a b c d : Nat)
  | v6 (groups : List Nat)
deriving Repr, DecidableEq

/-- An IP address, the scope of one that needs it, and a port. -/
structure SocketAddress where
  ip : IpAddress
  scope : Nat
  port : Nat
deriving Repr, DecidableEq

namespace IpAddress

/-! ## Reading -/

/-- One to three digits, without a needless zero, for a number below 256. -/
def octet? (cs : List Char) : Option Nat :=
  if cs.length ≤ 3 && (cs.length = 1 || cs.head? != some '0') then
    (natural? cs).filter (· ≤ 255)
  else none

def octets? (cs : List Char) : Option (Nat × Nat × Nat × Nat) :=
  match cs.splitOn '.' with
  | [a, b, c, d] => do return (← octet? a, ← octet? b, ← octet? c, ← octet? d)
  | _ => none

/-- One to four hexadecimal digits. -/
def group? (cs : List Char) : Option Nat :=
  if cs = [] || 4 < cs.length then none
  else (cs.mapM hexValue?).map fun ds => ds.foldl (fun n d => 16 * n + d) 0

/-- Groups with colons between them; the last two may be written as octets if `octets` allows. -/
def groups? (octets : Bool) : List (List Char) → Option (List Nat)
  | [] => some []
  | [last] =>
    match group? last with
    | some g => some [g]
    | none =>
      if octets then (octets? last).map fun (a, b, c, d) => [256 * a + b, 256 * c + d] else none
  | g :: gs => do return (← group? g) :: (← groups? octets gs)

/-- The groups of a text, none of the empty text. -/
def section? (octets : Bool) (cs : List Char) : Option (List Nat) :=
  if cs = [] then some [] else groups? octets (cs.splitOn ':')

/-- What stands before and behind the first two colons that stand together. -/
def cutGap : List Char → Option (List Char × List Char)
  | ':' :: ':' :: cs => some ([], cs)
  | c :: cs => (cutGap cs).map fun (front, back) => (c :: front, back)
  | [] => none

/-- Eight groups; two colons together stand for at least one group of zeros. -/
def v6? (cs : List Char) : Option (List Nat) :=
  match cutGap cs with
  | none => (section? true cs).filter (·.length = 8)
  | some (front, back) => do
    let front ← section? false front
    let back ← section? true back
    let known := front.length + back.length
    if known ≤ 7 then return front ++ List.replicate (8 - known) 0 ++ back else none

/-! ## Writing -/

def groupText (g : Nat) : String := String.ofList (Nat.toDigits 16 g)

def octetsText (a b c d : Nat) : String :=
  toString a ++ "." ++ toString b ++ "." ++ toString c ++ "." ++ toString d

/-- The number of zeros at the beginning of some groups. -/
def zeros (gs : List Nat) : Nat := (gs.takeWhile (· = 0)).length

/-- The first of the longest runs of zeros: where it begins, and how long it is. -/
def longestZeros (index : Nat) : List Nat → Nat × Nat
  | [] => (index, 0)
  | g :: gs =>
    let (there, length) := longestZeros (index + 1) gs
    if length ≤ zeros (g :: gs) then (index, zeros (g :: gs)) else (there, length)

def groupsText (gs : List Nat) : String := ":".intercalate (gs.map groupText)

/-- The standard form of an address: the longest run of at least two zero groups is left out, and
an IPv4 address within IPv6 is written with octets. -/
def text : IpAddress → String
  | .v4 a b c d => octetsText a b c d
  | .v6 gs =>
    match gs with
    | [0, 0, 0, 0, 0, 0xffff, g, h] =>
      "::ffff:" ++ octetsText (g / 256) (g % 256) (h / 256) (h % 256)
    | gs =>
      let (start, length) := longestZeros 0 gs
      if length ≤ 1 then groupsText gs
      else groupsText (gs.take start) ++ "::" ++ groupsText (gs.drop (start + length))

end IpAddress

namespace SocketAddress

/-- A number that a word of some size holds. -/
def bounded? (limit : Nat) (cs : List Char) : Option Nat := (natural? cs).filter (· ≤ limit)

/-- The part of a text before the first of a character, and the part behind it. -/
def cutAt (mark : Char) (cs : List Char) : Option (List Char × List Char) :=
  if cs.contains mark then
    some (cs.takeWhile (· != mark), (cs.dropWhile (· != mark)).drop 1)
  else none

/-- Reads what stands in brackets: an address, and a scope behind a percent sign. -/
def bracketed? (cs : List Char) : Option (List Nat × Nat) :=
  match cutAt '%' cs with
  | none => (IpAddress.v6? cs).map fun gs => (gs, 0)
  | some (ip, scope) => do return (← IpAddress.v6? ip, ← bounded? 4294967295 scope)

def parse? (s : String) : Option SocketAddress :=
  match s.toList with
  | '[' :: cs => do
    let (inner, rest) ← cutAt ']' cs
    let (groups, scope) ← bracketed? inner
    match rest with
    | ':' :: port => return ⟨.v6 groups, scope, ← bounded? 65535 port⟩
    | _ => none
  | cs => do
    let (ip, port) ← cutAt ':' cs
    let (a, b, c, d) ← IpAddress.octets? ip
    return ⟨.v4 a b c d, 0, ← bounded? 65535 port⟩

def text (a : SocketAddress) : String :=
  match a.ip with
  | .v4 .. => a.ip.text ++ ":" ++ toString a.port
  | .v6 _ =>
    let scope := if a.scope = 0 then "" else "%" ++ toString a.scope
    "[" ++ a.ip.text ++ scope ++ "]:" ++ toString a.port

end SocketAddress

end Listing
