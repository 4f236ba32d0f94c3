import Listing.Text.Hex
import Listing.Text.Utf8

/-!
# Percent encoding

`%` and two hexadecimal digits stand for a byte; any other `%` stands for itself. `percentEncode`
writes every byte in this way, so it is read back whatever the text.
-/

set_option autoImplicit false

namespace Listing.Text

/-- The byte that two hexadecimal digits denote. -/
def hexByte? (high low : UInt8) : Option UInt8 := do
  return .ofNat (16 * (← hexValue? (Char.ofNat high.toNat)) + (← hexValue? (Char.ofNat low.toNat)))

/-- Replaces each `%` with two hexadecimal digits by the byte they denote. -/
def percentDecode : List UInt8 → List UInt8
  | [] => []
  | [a] => [a]
  | [a, b] => [a, b]
  | a :: b :: c :: bs =>
    if a = 0x25 then
      match hexByte? b c with
      | some x => x :: percentDecode bs
      | none => a :: percentDecode (b :: c :: bs)
    else a :: percentDecode (b :: c :: bs)

def hexCode (n : Nat) : UInt8 := .ofNat (hexDigit n).toNat

/-- Every byte as `%` and two digits. -/
def percentEncode (bytes : List UInt8) : List UInt8 :=
  bytes.flatMap fun b => [0x25, hexCode (b.toNat / 16), hexCode (b.toNat % 16)]

end Listing.Text
