import Listing.Number.Digits

/-!
# Bounded counts

A count is read digit by digit from the left after at most one plus sign. Of a wrong character and
a value past the limit the one that comes first is the fault.
-/

set_option autoImplicit false

namespace Listing.Number

/-- Why a text is not a count. -/
inductive CountError
  | empty
  | invalidDigit
  | tooLarge
deriving Repr, DecidableEq

def CountError.message : CountError → String
  | .empty => "cannot parse integer from empty string"
  | .invalidDigit => "invalid digit found in string"
  | .tooLarge => "number too large to fit in target type"

/-- Reads digits onto a value already read, up to `limit`. -/
def countFrom (limit : Nat) : Nat → List Char → Except CountError Nat
  | n, [] => .ok n
  | n, c :: cs =>
    if c.isDigit then
      let n := 10 * n + digitValue c
      if n ≤ limit then countFrom limit n cs else .error .tooLarge
    else .error .invalidDigit

/-- The count that a text denotes, `limit` being the largest. A sign alone is no count. -/
def readCount (limit : Nat) (s : String) : Except CountError Nat :=
  match s.toList with
  | [] => .error .empty
  | ['+'] => .error .invalidDigit
  | '+' :: cs => countFrom limit 0 cs
  | cs => countFrom limit 0 cs

end Listing.Number
