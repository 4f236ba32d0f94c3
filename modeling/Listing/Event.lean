import Listing.Rejection

/-!
# Events

What the program logs, each event with the data it reports. `Event.level`, `Event.message` and
`Event.fields` are its written form, `Event.target` the part of the program it names.
-/

set_option autoImplicit false

namespace Listing

/-- How much an event matters. -/
inductive Level
  | debug
  | info
  | warn
  | error
deriving Repr, DecidableEq

namespace Level

def name : Level → String
  | .debug => "DEBUG"
  | .info => "INFO"
  | .warn => "WARN"
  | .error => "ERROR"

end Level

inductive Datum
  | text (s : String)
  | count (n : Nat)
deriving Repr, DecidableEq

def Datum.toText : Datum → String
  | .text s => s
  | .count n => toString n

inductive Event
  | starting
  | connected (url : String)
  | seeded (boardgames offers : Nat)
  | listening (address : String)
  | rejectedFilter (entity input : String) (cause : Rejection)
  | filtering (entity input fragment : String)
  | rejectedSort (entity input : String) (cause : Rejection)
  | sorting (entity input fragment : String)
  | executing (sql : String) (binds : Nat)
  | queryFailed (cause : String)
  | unreachable (entity : String)
deriving Repr, DecidableEq

namespace Event

/-- How much an event matters: a refused request is worth a warning, a failure of the database is an
error. -/
def level : Event → Level
  | .starting | .connected .. | .seeded .. | .listening .. => .info
  | .rejectedFilter .. | .rejectedSort .. | .unreachable .. => .warn
  | .filtering .. | .sorting .. | .executing .. => .debug
  | .queryFailed .. => .error

/-- What happened, in words that do not depend on the data. -/
def message : Event → String
  | .starting => "Starting catalog list service"
  | .connected .. => "Database connected"
  | .seeded .. => "Seeded demo catalog"
  | .listening .. => "Listening"
  | .rejectedFilter .. => "Rejected filter"
  | .filtering .. => "Filtering"
  | .rejectedSort .. => "Rejected sort"
  | .sorting .. => "Sorting"
  | .executing .. => "Executing list query"
  | .queryFailed .. => "List query failed"
  | .unreachable .. => "Catalog table not reachable"

/-- The data of an event under their names. -/
def fields : Event → List (String × Datum)
  | .starting => []
  | .connected url => [("url", .text url)]
  | .seeded boardgames offers => [("boardgames", .count boardgames), ("offers", .count offers)]
  | .listening address => [("addr", .text address)]
  | .rejectedFilter entity input cause =>
    [("entity", .text entity), ("filter_by", .text input), ("kind", .text cause.kind),
      ("error", .text cause.message)]
  | .filtering entity input fragment =>
    [("entity", .text entity), ("filter_by", .text input), ("fragment", .text fragment)]
  | .rejectedSort entity input cause =>
    [("entity", .text entity), ("sort_by", .text input), ("kind", .text cause.kind),
      ("error", .text cause.message)]
  | .sorting entity input fragment =>
    [("entity", .text entity), ("sort_by", .text input), ("fragment", .text fragment)]
  | .executing sql binds => [("sql", .text sql), ("binds", .count binds)]
  | .queryFailed cause => [("error", .text cause)]
  | .unreachable entity => [("entity", .text entity)]

/-- The part of the program that reports an event. -/
def target : Event → String
  | .starting | .connected .. | .listening .. => "catalog_filter"
  | .seeded .. => "catalog_filter::catalog"
  | .rejectedFilter .. | .filtering .. | .rejectedSort .. | .sorting .. => "catalog_filter::params"
  | .executing .. => "catalog_filter::query::builder"
  | .queryFailed .. => "catalog_filter::api::error"
  | .unreachable .. => "catalog_filter::api::health"

end Event

end Listing
