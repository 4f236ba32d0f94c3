import Listing.Number.Shortest

/-!
# Writing binary64 numbers

The digits of a number are its shortest decimal; a `Layout` says for which powers of ten they are
written out around a point and how the exponent is written for the others.
-/

set_option autoImplicit false

namespace Listing.Number

/-- How a decimal is written. A number at least `10 ^ leastPlain` and below `10 ^ endPlain` has its
digits written out, with a fraction of at least one digit; any other has one digit before the point
and a power of ten after the mark. -/
structure Layout where
  leastPlain : Int
  endPlain : Int
  mark : String
  plus : String
deriving Repr, DecidableEq

namespace Layout

def zeros (n : Int) : String := String.ofList (List.replicate n.toNat '0')

/-- Digits cut after the first `n`. -/
def splitDigits (n : Nat) (digits : String) : String × String :=
  (String.ofList (digits.toList.take n), String.ofList (digits.toList.drop n))

def writeDecimal (l : Layout) (d : Decimal) : String :=
  let digits := toString d.digits
  let width : Int := digits.length
  let power := width + d.exponent - 1
  if power < l.leastPlain || l.endPlain ≤ power then
    let (first, rest) := splitDigits 1 digits
    let sign := if power < 0 then "-" else l.plus
    first ++ (if rest = "" then "" else "." ++ rest) ++ l.mark ++ sign ++ toString power.natAbs
  else if power < 0 then "0." ++ zeros (-power - 1) ++ digits
  else if 0 ≤ d.exponent then digits ++ zeros d.exponent ++ ".0"
  else
    let (whole, fraction) := splitDigits (power + 1).toNat digits
    whole ++ "." ++ fraction

/-- A finite number; none is given for an infinity. -/
def write? (l : Layout) (x : Binary64) : Option String :=
  let sign := if x.negative then "-" else ""
  if x.rank = 0 then some (sign ++ "0.0")
  else if x.isFinite then some (sign ++ l.writeDecimal (Shortest.decimal x.rank))
  else none

end Layout

end Listing.Number
