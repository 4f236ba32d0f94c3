/-!
# Runs of decimal digits

`ofDigits` is the number that a run of ASCII digits denotes, `natural?` reads a text that is such a
run and nothing else, `integer?` allows one sign before it. Leading zeros and length do not matter.
-/

set_option autoImplicit false

namespace Listing.Number

def digitValue (c : Char) : Nat := c.toNat - '0'.toNat

/-- The number a run of digits denotes, the first digit being the most significant. -/
def ofDigits (ds : List Char) : Nat := ds.foldl (fun n c => 10 * n + digitValue c) 0

/-- One or more ASCII digits. -/
def isDigits (cs : List Char) : Bool := !cs.isEmpty && cs.all Char.isDigit

/-- The number of a text that is one or more digits. -/
def natural? (cs : List Char) : Option Nat := if isDigits cs then some (ofDigits cs) else none

/-- The number of a text that is one or more digits after at most one sign. -/
def integer? : List Char → Option Int
  | '+' :: cs => (natural? cs).map Int.ofNat
  | '-' :: cs => (natural? cs).map fun n => -Int.ofNat n
  | cs => (natural? cs).map Int.ofNat

/-- The numbers that a signed 64-bit word holds. -/
def fitsInt64 (n : Int) : Bool := -0x8000000000000000 ≤ n && n < 0x8000000000000000

/-- The number of a text that is a signed 64-bit integer. -/
def int64? (s : String) : Option Int := (integer? s.toList).filter fitsInt64

@[simp] theorem ofDigits_nil : ofDigits [] = 0 := rfl

@[simp] theorem ofDigits_concat (ds : List Char) (d : Char) :
    ofDigits (ds ++ [d]) = 10 * ofDigits ds + digitValue d := by
  simp [ofDigits]

end Listing.Number
