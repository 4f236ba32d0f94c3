import Listing.Catalog.Record

/-!
# Offers

Marketplace offers for catalogue items, kept in the order in which they were inserted. The kind of
an offer is called `type` everywhere outside this library.
-/

set_option autoImplicit false

namespace Listing

open Number

structure Offer where
  uuid : String
  kind : String
  name : String
  price : Binary64
deriving DecidableEq

namespace Offer

/-- The fields a list of offers can be asked by. -/
def schema : Schema := .ofFields "offers"
  [⟨"uuid", .string⟩, ⟨"type", .string⟩, ⟨"name", .string⟩, ⟨"price", .float⟩]

instance : Record Offer where
  schema := schema
  key o := .text o.uuid
  names := ["uuid", "type", "name", "price"]
  columns o :=
    [("uuid", .text o.uuid), ("type", .text o.kind), ("name", .text o.name),
      ("price", .float o.price)]
  columns_names _ := rfl
  before _ _ := false

def demo : List Offer :=
  [⟨"6f1c2a0e-0001-4c1d-9a51-000000000001", "boardgame", "Catan", .ofDecimal false ⟨25, 0⟩⟩,
    ⟨"6f1c2a0e-0002-4c1d-9a51-000000000002", "boardgame", "Azul", .ofDecimal false ⟨18, 0⟩⟩,
    ⟨"6f1c2a0e-0003-4c1d-9a51-000000000003", "expansion", "Seafarers",
      .ofDecimal false ⟨125, -1⟩⟩]

end Offer

end Listing
