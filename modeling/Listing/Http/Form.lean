import Listing.Request
import Listing.Text.Percent

/-!
# Form-encoded text

The query part of a request holds pairs of a name and a value, separated by ampersands. In both a
plus sign is a blank and percent-encoded bytes are decoded. The bytes are read as UTF-8, ill-formed
stretches becoming U+FFFD. `Form.encode` writes pairs so that they are read back.
-/

set_option autoImplicit false

namespace Listing.Form

open Text

def decodeText (bytes : List UInt8) : String :=
  Utf8.decodeLossy (percentDecode (bytes.map fun b => if b = 0x2B then 0x20 else b))

/-- A pair is cut at its first equals sign; without one all of it is the name. -/
def decodePair (bytes : List UInt8) : String × String :=
  (decodeText (bytes.takeWhile (· != 0x3D)), decodeText ((bytes.dropWhile (· != 0x3D)).drop 1))

/-- The pairs of a query part, empty ones left out. -/
def decode (query : String) : List (String × String) :=
  (((Utf8.encode query).splitOn 0x26).filter (· ≠ [])).map decodePair

/-- A name or a value with every byte percent-encoded. -/
def encodeText (s : String) : String := Utf8.decodeLossy (percentEncode (Utf8.encode s))

/-- The query part for some pairs. -/
def encode (pairs : List (String × String)) : String :=
  "&".intercalate (pairs.map fun (name, value) => encodeText name ++ "=" ++ encodeText value)

end Listing.Form

namespace Listing.ListRequest

/-- Reads pairs from the left onto what is known so far; a text given twice is a fault, and the
first such fault counts. -/
def ofPairs (filterBy sortBy : Option String) :
    List (String × String) → Except Parameter ListRequest
  | [] => .ok ⟨filterBy.getD "", sortBy.getD ""⟩
  | (name, value) :: pairs =>
    if name = Parameter.filterBy.name then
      if filterBy.isSome then .error .filterBy else ofPairs (some value) sortBy pairs
    else if name = Parameter.sortBy.name then
      if sortBy.isSome then .error .sortBy else ofPairs filterBy (some value) pairs
    else ofPairs filterBy sortBy pairs

/-- The request in the query part of a target; a text that is missing is empty and other names do
not matter. -/
def ofQuery (query : String) : Except Parameter ListRequest := ofPairs none none (Form.decode query)

end Listing.ListRequest
