import Listing.Number.Digits

/-!
# Decimal literals

A literal is an optional sign and then either a decimal, digits with at most one point among them
and an optional power of ten, or a word for infinity or for no number. A decimal denotes exactly
`digits * 10 ^ exponent`, whatever its length.
-/

set_option autoImplicit false

namespace Listing.Number

/-- A magnitude `digits * 10 ^ exponent`. -/
structure Decimal where
  digits : Nat
  exponent : Int
deriving Repr, DecidableEq

/-- The power of ten of an exponent, or one where the exponent is negative. A decimal is its digits
times `tens exponent` divided by `tens (-exponent)`. -/
def tens (e : Int) : Nat := Nat.pow 10 e.toNat

/-- What a literal stands for. -/
inductive Literal
  | decimal (negative : Bool) (magnitude : Decimal)
  | infinite (negative : Bool)
  | notANumber
deriving Repr, DecidableEq

/-- The power of ten after the digits: nothing, or `e` and an integer. -/
def exponent? : List Char → Option Int
  | [] => some 0
  | c :: cs => if c = 'e' || c = 'E' then integer? cs else none

/-- Digits with at most one point, at least one digit, and a power of ten. -/
def Decimal.read? (cs : List Char) : Option Decimal :=
  let whole := cs.takeWhile Char.isDigit
  let (fraction, rest) := match cs.dropWhile Char.isDigit with
    | '.' :: more => (more.takeWhile Char.isDigit, more.dropWhile Char.isDigit)
    | rest => ([], rest)
  if whole.isEmpty && fraction.isEmpty then none
  else (exponent? rest).map fun e => ⟨ofDigits (whole ++ fraction), e - fraction.length⟩

/-- A literal after its sign. -/
def unsigned? (negative : Bool) (cs : List Char) : Option Literal :=
  match Decimal.read? cs with
  | some d => some (.decimal negative d)
  | none =>
    let word := cs.map Char.toLower
    if word = "inf".toList || word = "infinity".toList then some (.infinite negative)
    else if word = "nan".toList then some .notANumber
    else none

/-- The literal that a text is, if it is one. -/
def Literal.read? (s : String) : Option Literal :=
  match s.toList with
  | '+' :: cs => unsigned? false cs
  | '-' :: cs => unsigned? true cs
  | cs => unsigned? false cs

end Listing.Number
