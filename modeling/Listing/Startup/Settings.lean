import Listing.Number.Count
import Listing.Startup.Environment

/-!
# Settings

The service is set up by five variables, each with a default. The two numbers are read strictly, the
port first; a switch that is not spelled as on is off.
-/

set_option autoImplicit false

namespace Listing

open Number

structure Settings where
  host : String
  port : Nat
  databaseUrl : String
  maxConnections : Nat
  seedDemo : Bool
deriving Repr, DecidableEq

/-- The settings that are numbers. -/
inductive NumberSetting
  | port
  | maxConnections
deriving Repr, DecidableEq

namespace NumberSetting

/-- The variable of a setting. -/
def variableName : NumberSetting → String
  | .port => "PORT"
  | .maxConnections => "DATABASE_MAX_CONNECTIONS"

/-- The largest number allowed. -/
def limit : NumberSetting → Nat
  | .port => 65535
  | .maxConnections => 4294967295

/-- What is taken where the variable gives no text. -/
def default : NumberSetting → String
  | .port => "3001"
  | .maxConnections => "10"

end NumberSetting

structure SettingsError where
  setting : NumberSetting
  cause : CountError
deriving Repr, DecidableEq

def SettingsError.context (e : SettingsError) : String := "Invalid " ++ e.setting.variableName

namespace Settings

def readNumber (env : Environment) (s : NumberSetting) : Except SettingsError Nat :=
  (readCount s.limit (env.textOr s.variableName s.default)).mapError fun e => ⟨s, e⟩

def isOn (value : String) : Bool := value = "true" || value = "1"

def ofEnvironment (env : Environment) : Except SettingsError Settings := do
  let port ← readNumber env .port
  let maxConnections ← readNumber env .maxConnections
  return {
    host := env.textOr "HOST" "0.0.0.0"
    port := port
    databaseUrl := env.textOr "DATABASE_URL" "sqlite::memory:"
    maxConnections := maxConnections
    seedDemo := (env.text? "SEED_DEMO_DATA").all isOn }

/-- The address to listen on, as text. -/
def bindAddress (s : Settings) : String := s.host ++ ":" ++ toString s.port

end Settings

end Listing
