import Listing.Number.Binary64
import Listing.Schema

/-!
# Typed values

A value in a request is text. `FieldType.accepts` says which texts denote a value of a type, and
`Value.ofText` is the value that is bound for them: a number for the numeric types and never a
text, whenever the type accepts it (`ofText_integer`, `ofText_float`).
-/

set_option autoImplicit false

namespace Listing

open Number

/-- A value bound to a placeholder, or stored in a column. -/
inductive Value
  | text (s : String)
  | integer (n : Int)
  | float (x : Binary64)
deriving DecidableEq

/-- The texts that denote a value of a type: ASCII letters and digits, a signed 64-bit integer, a
finite binary64 number. Nothing denotes a value of another type. -/
def FieldType.accepts (t : FieldType) (s : String) : Bool :=
  match t with
  | .string => s.toList.all Char.isAlphanum
  | .integer => (int64? s).isSome
  | .float => (Binary64.read? s).any Binary64.isFinite
  | .other => false

namespace Value

/-- The value of a text for a type, or the text itself where it denotes none. -/
def ofText (t : FieldType) (s : String) : Value :=
  match t with
  | .integer => ((int64? s).map integer).getD (text s)
  | .float => ((Binary64.read? s).map float).getD (text s)
  | .string | .other => text s

theorem ofText_integer {s : String} (h : FieldType.integer.accepts s = true) :
    ∃ n, int64? s = some n ∧ ofText .integer s = integer n := by
  obtain ⟨n, hn⟩ := Option.isSome_iff_exists.1 h
  exact ⟨n, hn, by simp [ofText, hn]⟩

theorem ofText_float {s : String} (h : FieldType.float.accepts s = true) :
    ∃ x, Binary64.read? s = some x ∧ x.isFinite = true ∧ ofText .float s = float x := by
  simp only [FieldType.accepts] at h
  cases hx : Binary64.read? s with
  | none => simp [hx] at h
  | some x => exact ⟨x, rfl, by simpa [hx] using h, by simp [ofText, hx]⟩

end Value

end Listing
