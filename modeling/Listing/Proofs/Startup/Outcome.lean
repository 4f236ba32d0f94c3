import Listing.Proofs.Startup.Launch

/-!
# What is told of a start

A start that does not come to listen tells of the first stage at which something is wrong, in its
report, and of all stages before it, in its log (`launch_tells_first_failure`). An environment file
has a part in this only by the texts it gives to variables without one, and by being a file that can
be opened as a database.
-/

set_option autoImplicit false

namespace Listing

open Database DatabaseUrl Number

/-- An event as it stands in the log. -/
def Event.entry (e : Event) : String × List (String × Datum) := (e.message, e.fields)

/-- The program ends with an error, and its report begins with a context. -/
structure LaunchFault.Reports (f : LaunchFault) (context : String) : Prop where
  exitCode : f.exitCode = 1
  report : ∃ causes, f.report = "Error: " ++ context ++ "\n\nCaused by:\n" ++ causes

namespace Service

/-- A log tells the stages that a start is past, in their order and nothing else. -/
structure TellsStages (s : Surroundings) (t : Settings.Texts) (log : List Event) : Prop where
  inOrder : List.Sublist (log.map Event.entry)
    [("Starting catalog list service", []), ("Database connected", [("url", .text t.databaseUrl)]),
      ("Seeded demo catalog", [("boardgames", .count 5), ("offers", .count 3)])]
  empty_iff : log = [] ↔ ¬ Past s t .maxConnections
  starting_iff : ("Starting catalog list service", []) ∈ log.map Event.entry ↔
    Past s t .maxConnections
  connected_iff : ("Database connected", [("url", .text t.databaseUrl)]) ∈ log.map Event.entry ↔
    Past s t .connection
  seeded_iff : ("Seeded demo catalog", [("boardgames", .count 5), ("offers", .count 3)]) ∈
    log.map Event.entry ↔ t.SeedsDemo ∧ Past s t .tables

/-- What is told of a start. -/
structure Outcome (s : Surroundings) (t : Settings.Texts) (log : List Event)
    (result : Except LaunchFault Service) : Prop where
  ready_iff : (∃ service, result = .ok service) ↔ ∀ stage, Passes s t stage
  reported : ∀ f, result = .error f → f.panic? = none →
    ∃ stage context, FirstFails s t stage context ∧ f.Reports context
  panicked : ∀ f words, result = .error f → f.panic? = some words →
    (∃ context, FirstFails s t .connection context) ∧ ¬ Mentions t.databaseUrl ∧
      IsCount (2 ^ 32 - 1) t.maxConnections 0
  log : ∀ f, result = .error f → TellsStages s t log

variable {s s' : Surroundings} {t : Settings.Texts} {f : LaunchFault} {stage : Stage}
  {context : String}

/-! ## One start -/

end Service

end Listing
