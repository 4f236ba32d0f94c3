import Listing.Text.LetterCase

/-!
# Snake case

A name is cut into words at its underscores, between a small letter and a capital, before and after
a digit, and before the last of several capitals when a small letter follows it. In snake case its
words are small and joined by underscores.
-/

set_option autoImplicit false

namespace Listing.Text.SnakeCase

/-- A character with the marks that belong to it. -/
abbrev Cluster := List Char

def clusters : List Char → List Cluster
  | [] => []
  | c :: cs =>
    match cs, clusters cs with
    | d :: _, first :: rest => if marks.has d then (c :: first) :: rest else [c] :: first :: rest
    | _, rest => [c] :: rest

/-- A capital: it has a small form, and a change to capitals leaves it. -/
def isCapital (k : Cluster) : Bool := k.any hasSmall && !k.any hasCapital

/-- A small letter: it has a capital form, and a change to small letters leaves it. -/
def isSmall (k : Cluster) : Bool := k.any hasCapital && !k.any hasSmall

def isDigit (k : Cluster) : Bool := k.all Char.isDigit

/-- Whether a word ends after a cluster, given what follows. -/
def endsWord (k : Cluster) : List Cluster → Bool
  | [] => false
  | next :: rest =>
    (isSmall k && isCapital next)
      || (isCapital k && isDigit next) || (isDigit k && isCapital next)
      || (isSmall k && isDigit next) || (isDigit k && isSmall next)
      || (isCapital k && isCapital next && rest.head?.any isSmall)

/-- Puts a cluster in front of the first word. -/
def prepend (k : Cluster) : List (List Cluster) → List (List Cluster)
  | [] => [[k]]
  | w :: ws => (k :: w) :: ws

/-- The pieces of a name; a piece between two underscores that stand together is empty. -/
def pieces : List Cluster → List (List Cluster)
  | [] => [[]]
  | k :: ks =>
    if k = ['_'] then [] :: pieces ks
    else if endsWord k ks then [k] :: pieces ks
    else prepend k (pieces ks)

def words (name : String) : List (List Char) :=
  ((pieces (clusters name.toList)).filter (· ≠ [])).map List.flatten

def snakeCase (name : String) : String :=
  "_".intercalate ((words name).map fun w => String.ofList (smallWord w))

end Listing.Text.SnakeCase
