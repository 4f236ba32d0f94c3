import Listing.Catalog.Store

/-!
# Probes

A probe asks a table for at most one row, to see whether it can be asked at all. The database looks
the table up by the name in the text of the probe; a table without rows gives no row, and no error.
-/

set_option autoImplicit false

namespace Listing

/-- The text of the probe of an entity. -/
def Entity.probe (e : Entity) : String := "SELECT 1 FROM " ++ e.name ++ " LIMIT 1"

/-- The table that a probe names. -/
def Statement.readProbe? (sql : String) : Option String :=
  match words sql with
  | ["SELECT", "1", "FROM", table, "LIMIT", "1"] => some table
  | _ => none

namespace Store

/-- How many rows the table of a name has, if it is there. -/
def rowCount? (s : Store) (table : String) : Option Nat :=
  if table = Entity.boardgames.name then s.boardgames.map List.length
  else if table = Entity.offers.name then s.offers.map List.length
  else none

/-- The row that a probe gives, a one, unless the table is empty. -/
def fetchProbe (s : Store) (sql : String) : Except DatabaseError (Option Value) :=
  match Statement.readProbe? sql with
  | none => .error (.unreadable sql)
  | some table =>
    match s.rowCount? table with
    | none => .error (.noSuchTable table)
    | some count => .ok (if count = 0 then none else some (.integer 1))

/-- Whether the probe of an entity is answered, with a row or without. -/
def isReachable (s : Store) (e : Entity) : Bool := (s.fetchProbe e.probe).isOk

end Store

end Listing
