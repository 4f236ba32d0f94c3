import Listing.Number.Binary64

/-!
# Shortest decimals

A binary64 number is written with the fewest significant digits that read back as the same number,
and of those with the ones nearest to it. On each grid of multiples of a power of ten only the two
neighbours of the value matter; grids are tried from the coarsest.
-/

set_option autoImplicit false

namespace Listing.Number.Shortest

open Binary64

/-- The reals that round to one rank, and the value itself, in units of `2 ^ -1075`. Both ends
belong to the interval iff the rank is even. -/
structure Interval where
  low : Nat
  value : Nat
  high : Nat
  closed : Bool

def Interval.ofRank (rank : Nat) : Interval where
  low := units (rank - 1) + units rank
  value := 2 * units rank
  high := units rank + units (rank + 1)
  closed := rank % 2 = 0

/-- The neighbour of the value among the multiples of `10 ^ place` that lies in the interval, the
nearer if both do, the even one if they are equally near. -/
def Interval.neighbour? (i : Interval) (place : Int) : Option Nat :=
  let scale := tens (-place)
  let step := tens place <<< 1075
  let below := i.value * scale / step
  let inside (c : Nat) : Bool :=
    if i.closed then i.low * scale ≤ c * step && c * step ≤ i.high * scale
    else i.low * scale < c * step && c * step < i.high * scale
  match inside below, inside (below + 1) with
  | true, true => some (halfEven (i.value * scale) step)
  | true, false => some below
  | false, true => some (below + 1)
  | false, false => none

/-- A power of ten no smaller than half the value, as an exponent. -/
def Interval.top (i : Interval) : Int := (Int.ofNat i.value.log2 - 1074) * 30103 / 100000 + 1

/-- The shortest decimal of a positive rank. The twenty grids tried always suffice; the exact
value stands in to make the function total. -/
def decimal (rank : Nat) : Decimal :=
  let i := Interval.ofRank rank
  ((List.range 20).findSome? fun n =>
      let place := i.top - Int.ofNat n
      (i.neighbour? place).map fun c => (⟨c, place⟩ : Decimal)).getD
    ⟨units rank * Nat.pow 5 1074, -1074⟩

end Listing.Number.Shortest
