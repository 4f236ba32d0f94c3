import Listing.Catalog.Boardgame
import Listing.Catalog.Offer
import Listing.Catalog.Select
import Listing.Event

/-!
# The store

The two tables of the catalogue, each of which may be missing. A change that is refused leaves the
store as it was. Seeding makes the tables and adds the demo rows whose keys are free.
-/

set_option autoImplicit false

namespace Listing

open Number

inductive Entity
  | boardgames
  | offers
deriving Repr, DecidableEq

def Entity.schema : Entity → Schema
  | .boardgames => Boardgame.schema
  | .offers => Offer.schema

def Entity.name (e : Entity) : String := e.schema.entity

/-! ## Tables -/

namespace Table

variable {α : Type} [Record α]

def hasKey (key : Value) (rows : List α) : Bool := rows.any fun r => Record.key r = key

/-- Puts a row in front of the first row it goes before, or else last. -/
def place (row : α) : List α → List α
  | [] => [row]
  | r :: rs => if Record.before row r then row :: r :: rs else r :: place row rs

/-- Adds a row unless its key is taken. -/
def insert (row : α) (rows : List α) : Except DatabaseError (List α) :=
  if hasKey (Record.key row) rows then .error (.duplicateKey (Record.schema α).entity)
  else .ok (place row rows)

/-- Adds a row, or leaves the table as it is if the key of the row is taken. -/
def insertNew (rows : List α) (row : α) : List α := (insert row rows).toOption.getD rows

/-- Removes the row of a key, if there is one. -/
def erase (key : Value) (rows : List α) : List α := rows.filter fun r => Record.key r ≠ key

/-- What a change does to a table that may be missing. -/
def change (table : Option (List α)) (f : List α → Except DatabaseError (List α)) :
    Except DatabaseError (Option (List α)) :=
  match table with
  | none => .error (.noSuchTable (Record.schema α).entity)
  | some rows => (f rows).map some

end Table

/-! ## The store and its changes -/

structure Store where
  boardgames : Option (List Boardgame)
  offers : Option (List Offer)
deriving DecidableEq

/-- A change of the store. A row comes with its price, or without one where the price is no
number. -/
inductive Change
  | createTables
  | seed
  | drop (entity : Entity)
  | insertBoardgame (id : Int) (name publisher : String) (playerNumber : Int)
      (price : Option Binary64)
  | insertOffer (uuid kind name : String) (price : Option Binary64)
  | deleteBoardgame (id : Int)
  | deleteOffer (uuid : String)
deriving DecidableEq

namespace Store

def empty : Store := ⟨none, none⟩

def hasTable (s : Store) : Entity → Bool
  | .boardgames => s.boardgames.isSome
  | .offers => s.offers.isSome

/-- Makes the tables that are missing. -/
def createTables (s : Store) : Store := ⟨some (s.boardgames.getD []), some (s.offers.getD [])⟩

/-- Makes the tables and adds the demo rows one by one. -/
def seed (s : Store) : Store :=
  ⟨some (Boardgame.demo.foldl Table.insertNew (s.boardgames.getD [])),
    some (Offer.demo.foldl Table.insertNew (s.offers.getD []))⟩

/-- The price that is stored: a zero has no sign. -/
def storedPrice (entity : String) : Option Binary64 → Except DatabaseError Binary64
  | some x => .ok x.unsignedZero
  | none => .error (.missingValue entity "price")

/-- Makes a change, or says why not. -/
def apply (s : Store) : Change → Except DatabaseError Store
  | .createTables => .ok s.createTables
  | .seed => .ok s.seed
  | .drop .boardgames => do
    let _ ← Table.change s.boardgames .ok
    return { s with boardgames := none }
  | .drop .offers => do
    let _ ← Table.change s.offers .ok
    return { s with offers := none }
  | .insertBoardgame id name publisher playerNumber price => do
    let boardgames ← Table.change s.boardgames fun rows => do
      Table.insert ⟨id, name, publisher, playerNumber, ← storedPrice "boardgames" price⟩ rows
    return { s with boardgames := boardgames }
  | .insertOffer uuid kind name price => do
    let offers ← Table.change s.offers fun rows => do
      Table.insert ⟨uuid, kind, name, ← storedPrice "offers" price⟩ rows
    return { s with offers := offers }
  | .deleteBoardgame id => do
    let boardgames ← Table.change s.boardgames fun rows => .ok (Table.erase (.integer id) rows)
    return { s with boardgames := boardgames }
  | .deleteOffer uuid => do
    let offers ← Table.change s.offers fun rows => .ok (Table.erase (.text uuid) rows)
    return { s with offers := offers }

/-- The store after a change, made or refused. -/
def after (s : Store) (c : Change) : Store := (s.apply c).toOption.getD s

def seededEvent : Event := .seeded Boardgame.demo.length Offer.demo.length

end Store

end Listing
