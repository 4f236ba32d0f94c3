import Listing.Number.Decimal

/-!
# Binary64 numbers

The non-negative binary64 numbers in increasing order are numbered from zero, and that number, the
*rank*, is also the bit pattern below the sign bit. A number here is a sign and a rank, infinity
having the last one. `units` is the magnitude of a rank in units of `2 ^ -1074`, and
`Binary64.ofDecimal` rounds an exact decimal to the nearest rank, a tie going to the even one.
-/

set_option autoImplicit false

namespace Listing.Number

/-- The number of ranks from a power of two to the next, which is `2 ^ 52`. -/
def blockSize : Nat := 0x10000000000000

def infinityRank : Nat := 2047 * blockSize

/-- A binary64 number that is not a NaN. -/
structure Binary64 where
  negative : Bool
  rank : Nat
  rank_le : rank ≤ infinityRank
deriving DecidableEq

namespace Binary64

/-- The magnitude of a rank in units of `2 ^ -1074`: the ranks of the first block are as far apart
as those of the second, and each later block has twice the spacing of the one before. -/
def units (rank : Nat) : Nat :=
  if rank < blockSize then rank
  else (blockSize + rank % blockSize) <<< (rank / blockSize - 1)

/-- The quotient rounded to the nearest natural number, a tie to the even one. -/
def halfEven (n d : Nat) : Nat :=
  let q := n / d
  let r := 2 * (n % d)
  if r < d then q else if d < r then q + 1 else q + q % 2

/-- The rank nearest to `n / d`. The spacing there is `2 ^ k` units; a quotient that is rounded up
to a power of two lands on the first rank of the next block by itself. -/
def nearestRank (n d : Nat) : Nat :=
  let k := ((n <<< 1074) / d).log2 - 52
  min (k * blockSize + halfEven (n <<< 1074) (d <<< k)) infinityRank

/-- The rank nearest to a decimal. Of a decimal that is out of range by its size alone no power of
ten is computed. -/
def rankOf (m : Decimal) : Nat :=
  if m.digits = 0 then 0
  else if 309 ≤ m.exponent then infinityRank
  else if 3 * m.exponent + m.digits.log2 < -1100 then 0
  else nearestRank (m.digits * tens m.exponent) (tens (-m.exponent))

theorem nearestRank_le (n d : Nat) : nearestRank n d ≤ infinityRank := Nat.min_le_right ..

theorem rankOf_le (m : Decimal) : rankOf m ≤ infinityRank := by
  unfold rankOf
  split
  · exact Nat.zero_le _
  split
  · exact Nat.le_refl _
  split
  · exact Nat.zero_le _
  exact nearestRank_le ..

/-- The number nearest to a signed decimal; the sign is kept also where the result is zero. -/
def ofDecimal (negative : Bool) (m : Decimal) : Binary64 := ⟨negative, rankOf m, rankOf_le m⟩

def infinity (negative : Bool) : Binary64 := ⟨negative, infinityRank, Nat.le_refl _⟩

/-- The number nearest to what a literal stands for; none for a literal of no number. -/
def ofLiteral? : Literal → Option Binary64
  | .decimal negative m => some (ofDecimal negative m)
  | .infinite negative => some (infinity negative)
  | .notANumber => none

def read? (s : String) : Option Binary64 := (Literal.read? s).bind ofLiteral?

def isFinite (x : Binary64) : Bool := x.rank < infinityRank

/-- The place of a number on the line, both zeros sharing one. -/
def place (x : Binary64) : Int := if x.negative then -Int.ofNat x.rank else Int.ofNat x.rank

/-- The 64-bit word of a number, the sign in its top bit. -/
def bits (x : Binary64) : Nat := (if x.negative then 0x8000000000000000 else 0) + x.rank

/-- The number with a zero's sign dropped. -/
def unsignedZero (x : Binary64) : Binary64 := ⟨x.negative && x.rank != 0, x.rank, x.rank_le⟩

end Binary64

end Listing.Number
