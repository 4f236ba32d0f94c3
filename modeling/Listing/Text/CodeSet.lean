/-!
# Sets of code points

A set of code points is given by the increasing list of the places where membership changes: the
first member, the first code point after its run, and so on. A `CaseRun` is a run of letters, every
one or every other code point, that change case by one shift.
-/

set_option autoImplicit false

namespace Listing.Text

structure CodeSet where
  bounds : List Nat

namespace CodeSet

/-- Membership: as many bounds at or below the code point as make an odd number. -/
def has (s : CodeSet) (c : Char) : Bool :=
  s.bounds.foldl (fun inside b => if b ≤ c.toNat then !inside else inside) false

end CodeSet

/-- Letters from `first` to `last`, `step` apart, whose other case is `shift` away. -/
structure CaseRun where
  first : Nat
  last : Nat
  step : Nat
  shift : Int

namespace CaseRun

/-- Whether a letter belongs to a run. -/
def has (r : CaseRun) (c : Char) : Bool :=
  r.first ≤ c.toNat && c.toNat ≤ r.last && (c.toNat - r.first) % r.step == 0

/-- The other case of a letter of the run. -/
def image (r : CaseRun) (c : Char) : Char := Char.ofNat (Int.ofNat c.toNat + r.shift).toNat

end CaseRun

end Listing.Text
