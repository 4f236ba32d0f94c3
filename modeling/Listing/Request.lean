import Listing.Event
import Listing.Json
import Listing.Query

/-!
# List requests

A request is a pair of texts, a filter and a sort order, either of which may be empty. Compiling it
gives a plan or the first rejection, the filter's before the order's, together with the events that
tell what was found.
-/

set_option autoImplicit false

namespace Listing

structure ListRequest where
  filterBy : String
  sortBy : String
deriving Repr, DecidableEq

structure Plan where
  predicate : Option Filter.Predicate
  order : Option SortOrder
deriving Repr, DecidableEq

/-- The query a plan makes of a schema's entity. -/
def Plan.toQuery (p : Plan) (schema : Schema) : Query :=
  ((Query.all schema).filter p.predicate).order p.order

namespace ListRequest

/-- A member that must be text if it is there. -/
def text? (name : String) (members : List (String × Json)) : Option String :=
  match members.lookup name with
  | none => some ""
  | some (.str s) => some s
  | some _ => none

/-- The request in a JSON value: an object with members `filterBy` and `sortBy`, or an array with
at most these two; a text that is missing is empty. -/
def ofJson? : Json → Option ListRequest
  | .obj members => do
    let filterBy ← text? "filterBy" members
    let sortBy ← text? "sortBy" members
    return ⟨filterBy, sortBy⟩
  | .arr [] => some ⟨"", ""⟩
  | .arr [.str filterBy] => some ⟨filterBy, ""⟩
  | .arr [.str filterBy, .str sortBy] => some ⟨filterBy, sortBy⟩
  | _ => none

/-- Compiles the filter and then the order, with the events of the way. Nothing is done, and
nothing is logged, after a rejection. -/
def compile (schema : Schema) (r : ListRequest) : List Event × Except Rejection Plan :=
  match Filter.compile schema r.filterBy with
  | .error e => ([.rejectedFilter schema.entity r.filterBy e], .error e)
  | .ok predicate =>
    let filtering := predicate.toList.map fun p =>
      Event.filtering schema.entity r.filterBy p.fragment
    match SortOrder.compile schema r.sortBy with
    | .error e => (filtering ++ [.rejectedSort schema.entity r.sortBy e], .error e)
    | .ok order =>
      let sorting := order.toList.map fun o => Event.sorting schema.entity r.sortBy o.fragment
      (filtering ++ sorting, .ok ⟨predicate, order⟩)

end ListRequest

end Listing
