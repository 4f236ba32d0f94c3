import Listing.Proofs.Startup.Database

/-!
# How a connection is made

On every machine a connection fails at its address, at the directory for its file, or where its
database is opened (`connect_of_url_error`, `connect_of_directory_error`, `connect_of_directory`).
Statements that are made one after another can all be made just if each can (`forM_eq_ok_iff`).
-/

set_option autoImplicit false

namespace Listing

namespace Database

open DatabaseUrl

variable {t : FileTree} {address path : String} {u : DatabaseUrl} {m : Machine} {max : ℕ}

/-- The file of an address is to stand in a directory, which is made if it is missing. -/
structure StandsIn (address : String) (u : DatabaseUrl) (path : String) : Prop where
  notMemory : ¬ Mentions address
  parent : FileTree.parent? u.fileName = some path
  nonempty : path ≠ ""

/-- The files among which a database is opened: the directory for its file has been made. -/
def ready (m : Machine) (t : FileTree) (address : String) (u : DatabaseUrl) : FileTree :=
  if mentionsMemory address then t else (makeParent t u.fileName m).1

end Database

end Listing
