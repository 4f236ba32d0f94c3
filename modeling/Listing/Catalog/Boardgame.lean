import Listing.Catalog.Record

/-!
# Board games

The catalogue's board games, kept in the order of their ids. The schema also declares the tags of
a game, a collection that has no column and can be neither filtered nor sorted.
-/

set_option autoImplicit false

namespace Listing

open Number

structure Boardgame where
  id : Int
  name : String
  publisher : String
  playerNumber : Int
  price : Binary64
deriving DecidableEq

namespace Boardgame

/-- The fields a list of games can be asked by. -/
def schema : Schema := .ofFields "boardgames"
  [⟨"id", .integer⟩, ⟨"name", .string⟩, ⟨"publisher", .string⟩, ⟨"player_number", .integer⟩,
    ⟨"price", .float⟩, ⟨"tags", .other⟩]

instance : Record Boardgame where
  schema := schema
  key g := .integer g.id
  names := ["id", "name", "publisher", "player_number", "price"]
  columns g :=
    [("id", .integer g.id), ("name", .text g.name), ("publisher", .text g.publisher),
      ("player_number", .integer g.playerNumber), ("price", .float g.price)]
  columns_names _ := rfl
  before g h := g.id < h.id

def demo : List Boardgame :=
  [⟨1, "Catan", "Kosmos", 4, .ofDecimal false ⟨3999, -2⟩⟩,
    ⟨2, "Azul", "PlanBGames", 4, .ofDecimal false ⟨295, -1⟩⟩,
    ⟨3, "Gloomhaven", "Cephalofair", 4, .ofDecimal false ⟨140, 0⟩⟩,
    ⟨4, "Patchwork", "Lookout", 2, .ofDecimal false ⟨19, 0⟩⟩,
    ⟨5, "Wingspan", "StonemaierGames", 5, .ofDecimal false ⟨55, 0⟩⟩]

end Boardgame

end Listing
