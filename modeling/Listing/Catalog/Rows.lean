import Listing.Catalog.Store
import Listing.Request

/-!
# Listing the catalogue

A list request is compiled against the schema of its entity and, if nothing is refused, run as one
query on the entity's table. `ServiceError` is what can come instead of rows, with the status code
and the JSON body it is reported by; what the database says of a failure is logged and not told.
-/

set_option autoImplicit false

namespace Listing

/-- Why a list request gives no rows. -/
inductive ServiceError
  | rejected (cause : Rejection)
  | database (cause : DatabaseError)
deriving Repr, DecidableEq

namespace ServiceError

def code : ServiceError → Nat
  | .rejected _ => 422
  | .database _ => 500

/-- The name of the cause, told only of a rejection. -/
def kind? : ServiceError → Option String
  | .rejected r => some r.kind
  | .database _ => none

def message : ServiceError → String
  | .rejected r => r.message
  | .database _ => "internal error"

def toJson (e : ServiceError) : Json :=
  .obj ([("error", .str e.message), ("code", .int e.code)]
    ++ e.kind?.toList.map fun k => ("kind", .str k))

/-- What is logged when the error is answered. -/
def events : ServiceError → List Event
  | .rejected _ => []
  | .database e => [.queryFailed ("error returned from database: (code: 1) " ++ e.message)]

end ServiceError

/-- Lists the rows of a table that may be missing, with the events of the way. The query is run
only if the request compiles. -/
def listTable {α : Type} [Record α] (table : Option (List α)) (r : ListRequest) :
    List Event × Except ServiceError (List α) :=
  match r.compile (Record.schema α) with
  | (events, .error e) => (events, .error (.rejected e))
  | (events, .ok plan) =>
    let q := plan.toQuery (Record.schema α)
    (events ++ [.executing q.sql q.values.length], (q.fetch table).mapError .database)

namespace Store

def asJson {α : Type} [Record α] (answer : List Event × Except ServiceError (List α)) :
    List Event × Except ServiceError (List Json) :=
  (answer.1, answer.2.map fun found => found.map Record.toJson)

/-- Lists the rows of an entity as JSON. -/
def list (s : Store) (entity : Entity) (r : ListRequest) :
    List Event × Except ServiceError (List Json) :=
  match entity with
  | .boardgames => asJson (listTable s.boardgames r)
  | .offers => asJson (listTable s.offers r)

end Store

end Listing
