/-!
# Reading UTF-8

Byte strings from outside the program need not be text. `decode?` reads well-formed UTF-8 only;
`decodeLossy` reads every byte string, putting U+FFFD for each ill-formed stretch: one for every
longest run of bytes that begins a character and is then cut short, one for every byte that begins
none.
-/

set_option autoImplicit false

namespace Listing.Text.Utf8

/-- What the first byte of a character promises: the number of bytes that follow, the bits it
carries itself, and the range of the byte after it (which rules out overlong forms, surrogates and
values past U+10FFFF). -/
structure Lead where
  more : Nat
  bits : Nat
  low : Nat
  high : Nat

/-- The lead byte of a character outside ASCII, if it is one. -/
def lead? (b : UInt8) : Option Lead :=
  let n := b.toNat
  if 0xC2 ≤ n ∧ n ≤ 0xDF then some ⟨1, n - 0xC0, 0x80, 0xBF⟩
  else if n = 0xE0 then some ⟨2, 0, 0xA0, 0xBF⟩
  else if n = 0xED then some ⟨2, 0xD, 0x80, 0x9F⟩
  else if 0xE1 ≤ n ∧ n ≤ 0xEF then some ⟨2, n - 0xE0, 0x80, 0xBF⟩
  else if n = 0xF0 then some ⟨3, 0, 0x90, 0xBF⟩
  else if n = 0xF4 then some ⟨3, 4, 0x80, 0x8F⟩
  else if 0xF1 ≤ n ∧ n ≤ 0xF3 then some ⟨3, n - 0xF0, 0x80, 0xBF⟩
  else none

/-- The state between two bytes: nothing begun, or a character begun whose remaining bytes are
counted and whose next byte has a range. -/
inductive Pending
  | idle
  | begun (more bits low high : Nat)

/-- A byte read where no character is begun. -/
def start (b : UInt8) : List (Option Char) × Pending :=
  if b.toNat < 0x80 then ([some (Char.ofNat b.toNat)], .idle)
  else match lead? b with
    | some l => ([], .begun l.more l.bits l.low l.high)
    | none => ([none], .idle)

/-- One more byte: the characters it completes (`none` for an ill-formed stretch) and the state
after it. A byte outside the range asked for ends the stretch and is read afresh. -/
def step (p : Pending) (b : UInt8) : List (Option Char) × Pending :=
  match p with
  | .idle => start b
  | .begun more bits low high =>
    let n := b.toNat
    if low ≤ n ∧ n ≤ high then
      let bits := bits * 64 + (n - 0x80)
      if more ≤ 1 then ([some (Char.ofNat bits)], .idle)
      else ([], .begun (more - 1) bits 0x80 0xBF)
    else
      let (cs, p) := start b
      (none :: cs, p)

/-- The characters of a byte string, `none` standing for an ill-formed stretch. -/
def scan : Pending → List UInt8 → List (Option Char)
  | .idle, [] => []
  | .begun .., [] => [none]
  | p, b :: bs =>
    let (cs, p) := step p b
    cs ++ scan p bs

def decode? (bytes : List UInt8) : Option String :=
  ((scan .idle bytes).mapM id).map String.ofList

/-- The text of any byte string, U+FFFD standing for each ill-formed stretch. -/
def decodeLossy (bytes : List UInt8) : String :=
  String.ofList ((scan .idle bytes).map fun c => c.getD '\uFFFD')

/-- The first ill-formed stretch of a byte string: where it begins, and how many bytes it has unless
it is a character cut short by the end. -/
structure Fault where
  index : Nat
  length : Option Nat
deriving Repr, DecidableEq

def Fault.message (f : Fault) : String :=
  match f.length with
  | some n =>
    "invalid utf-8 sequence of " ++ toString n ++ " bytes from index " ++ toString f.index
  | none => "incomplete utf-8 byte sequence from index " ++ toString f.index

/-- The first ill-formed stretch, `index` bytes having been read, the last `begun` of them of a
character not yet complete. -/
def faultFrom (index begun : Nat) : Pending → List UInt8 → Option Fault
  | .idle, [] => none
  | .begun .., [] => some ⟨index - begun, none⟩
  | p, b :: bs =>
    match step p b with
    | ([], next) => faultFrom (index + 1) (begun + 1) next bs
    | (some _ :: _, next) => faultFrom (index + 1) 0 next bs
    | (none :: _, _) => some ⟨index - begun, some (max begun 1)⟩

/-- The first ill-formed stretch of a byte string. -/
def fault? (bytes : List UInt8) : Option Fault := faultFrom 0 0 .idle bytes

def encode (s : String) : List UInt8 := s.toList.flatMap String.utf8EncodeChar

/-- The lexicographic order of texts by their bytes. -/
def compareBytes (s t : String) : Ordering := List.compareLex compare (encode s) (encode t)

end Listing.Text.Utf8
