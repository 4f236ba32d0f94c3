import Listing.Proofs.Startup.EnvFile
import Listing.Proofs.Startup.Stages

/-!
# How a start ends

A start whose variables can be set goes through its stages in their order. It is ready to listen if
it is past all of them, and ends at the first that fails with the events of the stages before it
(`comesTo`). It ends with an error, or with a panic where no connection is allowed to a database.
-/

set_option autoImplicit false

namespace Listing.Service

open Database DatabaseUrl Number

variable {s : Surroundings} {t : Settings.Texts} {settings : Settings} {env : Environment}
  {d : Database} {f : LaunchFault} {stage : Stage} {context : String}

/-- The variables count as these texts once the environment file is read. -/
def Reads (s : Surroundings) (t : Settings.Texts) : Prop :=
  ∃ env, environmentOf s = .ok env ∧ env.Gives t

/-! ## Ends of a start -/

end Listing.Service
