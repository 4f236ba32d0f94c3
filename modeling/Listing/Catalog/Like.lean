/-!
# Patterns

In a pattern `%` stands for any run of characters, `_` for any one character, and every other
character for itself up to ASCII case. Both texts end at a NUL character if they hold one.
-/

set_option autoImplicit false

namespace Listing.Like

def suffixes : List Char → List (List Char)
  | [] => [[]]
  | c :: cs => (c :: cs) :: suffixes cs

/-- Whether a pattern covers a text. -/
def covers : List Char → List Char → Bool
  | [], text => text.isEmpty
  | p :: ps, text =>
    if p = '%' then (suffixes text).any (covers ps)
    else match text with
      | [] => false
      | c :: cs => (p == '_' || p.toLower == c.toLower) && covers ps cs

/-- The characters of a text before its first NUL. -/
def visible (s : String) : List Char := s.toList.takeWhile (· != '\x00')

def like (pattern text : String) : Bool := covers (visible pattern) (visible text)

/-- The longest pattern allowed, in bytes. -/
def maxBytes : Nat := 50000

end Listing.Like
