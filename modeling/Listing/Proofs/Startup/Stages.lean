import Listing.Proofs.Startup.Connection
import Listing.Proofs.Startup.Interface

/-!
# The stages of a start

A start has eight stages. `Fails` says what is wrong at a stage, and in which words it is reported,
of the texts that the variables count as and of what the machine does, whatever is wrong at other
stages. `FirstFails` is said of the first stage at which something is wrong, and `Past` of all
stages up to one at which nothing is.
-/

set_option autoImplicit false

namespace Listing

open Database DatabaseUrl Number

/-- The stages of a start. -/
inductive Stage
  | port
  | maxConnections
  | url
  | directory
  | connection
  | tables
  | address
  | binding
deriving Repr, DecidableEq

/-- The place of a stage in their order. -/
def Stage.place : Stage → ℕ
  | .port => 0
  | .maxConnections => 1
  | .url => 2
  | .directory => 3
  | .connection => 4
  | .tables => 5
  | .address => 6
  | .binding => 7

theorem Stage.place_injective : Function.Injective place := by
  intro a b
  cases a <;> cases b <;> simp [place]

/-- The demo rows are asked for. -/
def Settings.Texts.SeedsDemo (t : Settings.Texts) : Prop := t.seedDemo = "true" ∨ t.seedDemo = "1"

instance (t : Settings.Texts) : Decidable t.SeedsDemo := inferInstanceAs (Decidable (_ ∨ _))

/-- The database of an address can be opened, and this is what it is opened in. -/
def Database.Opens (m : Machine) (files : FileTree) (address : String) (o : Opened) : Prop :=
  ∃ u, parse address = .ok u ∧ (m.openDatabase (ready m files address u) u).2 = .ok o

/-- Something is wrong at a stage, which is reported in some words. -/
inductive Fails (s : Surroundings) (t : Settings.Texts) : Stage → String → Prop
  | port {cause : CountError} : CountFault 65535 t.port cause → Fails s t .port "Invalid PORT"
  | maxConnections {cause : CountError} : CountFault (2 ^ 32 - 1) t.maxConnections cause →
      Fails s t .maxConnections "Invalid DATABASE_MAX_CONNECTIONS"
  | url {cause : UrlFault} : parse t.databaseUrl = .error cause →
      Fails s t .url ("invalid database url " ++ t.databaseUrl)
  | directory {u : DatabaseUrl} {path : String} {cause : PathFault} :
      parse t.databaseUrl = .ok u → StandsIn t.databaseUrl u path →
      (s.machine.makeDirectories s.files path).2 = .error cause →
      Fails s t .directory ("failed to create database directory " ++ path)
  | refused {u : DatabaseUrl} {cause : Refusal} : parse t.databaseUrl = .ok u →
      (s.machine.openDatabase (ready s.machine s.files t.databaseUrl u) u).2 = .error cause →
      Fails s t .connection ("failed to connect to " ++ t.databaseUrl)
  | noConnections : ¬ Mentions t.databaseUrl → IsCount (2 ^ 32 - 1) t.maxConnections 0 →
      Fails s t .connection ("failed to connect to " ++ t.databaseUrl)
  | seeding {o : Opened} {w : Write} {cause : Refusal} :
      Opens s.machine s.files t.databaseUrl o → w ∈ Service.writes true →
      s.machine.execute o (s.textIn o) w = .error cause → t.SeedsDemo →
      Fails s t .tables "failed to seed demo catalog"
  | creating {o : Opened} {w : Write} {cause : Refusal} :
      Opens s.machine s.files t.databaseUrl o → w ∈ Service.writes false →
      s.machine.execute o (s.textIn o) w = .error cause → ¬ t.SeedsDemo →
      Fails s t .tables "failed to create catalog tables"
  | address {port : ℕ} : IsCount 65535 t.port port →
      SocketAddress.parse? (t.host ++ ":" ++ toString port) = none →
      Fails s t .address ("invalid bind address " ++ (t.host ++ ":" ++ toString port))
  | binding {port : ℕ} {a : SocketAddress} : IsCount 65535 t.port port →
      SocketAddress.parse? (t.host ++ ":" ++ toString port) = some a → s.available a = false →
      Fails s t .binding ("failed to bind " ++ a.text)

/-- Nothing is wrong at a stage. -/
def Passes (s : Surroundings) (t : Settings.Texts) (stage : Stage) : Prop :=
  ∀ context, ¬ Fails s t stage context

/-- Nothing is wrong at a stage, nor at one before it. -/
def Past (s : Surroundings) (t : Settings.Texts) (stage : Stage) : Prop :=
  ∀ earlier, earlier.place ≤ stage.place → Passes s t earlier

/-- The first stage at which something is wrong. -/
structure FirstFails (s : Surroundings) (t : Settings.Texts) (stage : Stage)
    (context : String) : Prop where
  fails : Fails s t stage context
  first : ∀ other context', Fails s t other context' → stage.place ≤ other.place

variable {s : Surroundings} {t : Settings.Texts} {stage other : Stage} {context : String}
  {u : DatabaseUrl} {o : Opened} {port max : ℕ} {a : SocketAddress}

theorem Database.Opens.unique {m : Machine} {files : FileTree} {address : String} {o' : Opened}
    (h : Opens m files address o) (h' : Opens m files address o') : o' = o := by
  obtain ⟨u, hurl, hopened⟩ := h
  obtain ⟨u', hurl', hopened'⟩ := h'
  cases hurl.symm.trans hurl'
  cases hopened.symm.trans hopened'
  rfl

/-! ## Order -/

/-- One stage more. -/
theorem Past.next (h : Past s t other) (hplace : stage.place = other.place + 1)
    (hstage : Passes s t stage) : Past s t stage := by
  intro earlier hle
  obtain hlt | heq := Nat.lt_or_eq_of_le hle
  · exact h earlier (by omega)
  · exact Stage.place_injective heq ▸ hstage

end Listing
