import Listing.Http.Routes

/-!
# Sessions

A session is a run of steps on the store: changes, direct lists and requests. Only a change that is
made alters the store.
-/

set_option autoImplicit false

namespace Listing

inductive Action
  | change (c : Change)
  | list (entity : Entity) (request : ListRequest)
  | request (method target : String)

inductive Reply
  | done
  | refused (cause : DatabaseError)
  | rows (events : List Event) (found : List Json)
  | failed (events : List Event) (cause : ServiceError)
  | response (events : List Event) (response : Response)

namespace Store

def reply (s : Store) : Action → Reply
  | .change c =>
    match s.apply c with
    | .ok _ => .done
    | .error e => .refused e
  | .list entity r =>
    match s.list entity r with
    | (events, .ok found) => .rows events found
    | (events, .error e) => .failed events e
  | .request method target =>
    let (events, r) := s.respond method target
    .response events r

def act (s : Store) : Action → Store
  | .change c => s.after c
  | .list .. | .request .. => s

/-- The store after a run of steps. -/
def actAll (s : Store) (steps : List Action) : Store := steps.foldl act s

def replies (s : Store) : List Action → List Reply
  | [] => []
  | a :: as => s.reply a :: (s.act a).replies as

end Store

end Listing
