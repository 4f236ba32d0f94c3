import Listing.Catalog.Probe
import Listing.Catalog.Rows
import Listing.Http.Form
import Listing.Http.Target

/-!
# Routes

The service answers on four paths: its health, its readiness, and a list of each entity. Only GET
and HEAD are allowed there; HEAD is answered like GET without the body. No request changes the
store.
-/

set_option autoImplicit false

namespace Listing

structure Response where
  status : Nat
  contentType : Option String
  body : String
  allow : Option String
deriving Repr, DecidableEq

namespace Response

def bare (status : Nat) : Response := ⟨status, none, "", none⟩

def json (status : Nat) (j : Json) : Response := ⟨status, some "application/json", j.render, none⟩

def plain (status : Nat) (text : String) : Response :=
  ⟨status, some "text/plain; charset=utf-8", text, none⟩

/-- An answer without its body. -/
def head (r : Response) : Response := { r with body := "" }

end Response

/-- What a path leads to. -/
inductive Route
  | health
  | ready
  | list (entity : Entity)
deriving Repr, DecidableEq

namespace Route

/-- The route of a path, character for character. -/
def ofPath? : String → Option Route
  | "/healthz" => some .health
  | "/readyz" => some .ready
  | "/boardgames" => some (.list .boardgames)
  | "/offers" => some (.list .offers)
  | _ => none

end Route

namespace Store

def version : String := "0.1.0"

/-- The report of a service that runs. -/
def health : Response :=
  .json 200 (.obj [("status", .str "healthy"), ("version", .str version)])

/-- The entities that are listed, in the order in which they are probed. -/
def entities : List Entity := [.boardgames, .offers]

/-- The report of which entities answer a probe; the service is ready if all do. -/
def readiness (s : Store) : List Event × Response :=
  let missing := entities.filter fun e => !s.isReachable e
  let states := entities.map fun e =>
    Json.obj [("entity", .str e.name), ("reachable", .bool (s.isReachable e))]
  (missing.map fun e => .unreachable e.name,
    .json 200 (.obj [("ready", .bool (entities.all s.isReachable)), ("entities", .arr states)]))

/-- The list that a query part asks for. -/
def answerList (s : Store) (entity : Entity) (query : String) : List Event × Response :=
  match ListRequest.ofQuery query with
  | .error p =>
    ([], .plain 400
      ("Failed to deserialize query string: duplicate field \x60" ++ p.name ++ "\x60"))
  | .ok r =>
    match s.list entity r with
    | (events, .ok rows) => (events, .json 200 (.arr rows))
    | (events, .error e) => (events ++ e.events, .json e.code e.toJson)

def get (s : Store) (route : Route) (query : String) : List Event × Response :=
  match route with
  | .health => ([], health)
  | .ready => s.readiness
  | .list entity => s.answerList entity query

def respond (s : Store) (method target : String) : List Event × Response :=
  let t := Target.ofText target
  match Route.ofPath? t.path with
  | none => ([], .bare 404)
  | some route =>
    if method = "GET" then s.get route t.query
    else if method = "HEAD" then
      let (events, r) := s.get route t.query
      (events, r.head)
    else ([], { Response.bare 405 with allow := some "GET,HEAD" })

end Store

end Listing
