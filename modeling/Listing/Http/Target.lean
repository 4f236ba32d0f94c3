/-!
# Request targets

A target is a path and a query part, cut at the first question mark; a hash sign ends it. A target
may also begin with a scheme and an authority, of which nothing is kept.
-/

set_option autoImplicit false

namespace Listing

structure Target where
  path : String
  query : String
deriving Repr, DecidableEq

namespace Target

/-- Cuts a path from the query part behind it. -/
def ofPathAndQuery (cs : List Char) : Target :=
  ⟨String.ofList (cs.takeWhile (· != '?')), String.ofList ((cs.dropWhile (· != '?')).drop 1)⟩

/-- What follows `://`, if that occurs. -/
def afterScheme? : List Char → Option (List Char)
  | [] => none
  | ':' :: '/' :: '/' :: cs => some cs
  | _ :: cs => afterScheme? cs

/-- The target of a text. Behind an authority a missing path is the root; a text that is none of
the forms has no path. -/
def ofText (s : String) : Target :=
  let cs := s.toList.takeWhile (· != '#')
  if cs.head? = some '/' || cs = ['*'] then ofPathAndQuery cs
  else match afterScheme? cs with
    | none => ⟨"", ""⟩
    | some cs =>
      let rest := cs.dropWhile fun c => c != '/' && c != '?'
      ofPathAndQuery (if rest.head? = some '/' then rest else '/' :: rest)

end Target

end Listing
