import Listing.Text.Utf8

/-!
# Environments

The variables a program is started with. A value is a byte string; one that is not UTF-8 counts as
absent wherever text is asked for.
-/

set_option autoImplicit false

namespace Listing

open Text

structure Environment where
  values : List (String × List UInt8)
deriving DecidableEq

namespace Environment

/-- The value of a variable, if it is text. -/
def text? (env : Environment) (name : String) : Option String :=
  (env.values.lookup name).bind Utf8.decode?

/-- The value of a variable, or another text in its place. -/
def textOr (env : Environment) (name default : String) : String := (env.text? name).getD default

def set (env : Environment) (name value : String) : Environment :=
  ⟨(name, Utf8.encode value) :: env.values⟩

/-- Gives a variable a text unless it has one. No variable can be given a text with a NUL. -/
def setNew (env : Environment) (name value : String) : Option Environment :=
  if (env.text? name).isSome then some env
  else if value.toList.contains '\x00' then none
  else some (env.set name value)

end Environment

end Listing
