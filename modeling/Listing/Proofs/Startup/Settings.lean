import Listing.Proofs.Number.Count
import Listing.Proofs.Text.Utf8
import Listing.Startup.Settings

/-!
# What an environment sets

Each of the five variables counts as one text, whatever its bytes are: as the text they encode, or
as its default (`Environment.CountsAs`). From these texts the settings are made if both numbers are
counts; if not, the error is that of the first number that is none (`Settings.ofEnvironment_exact`).
-/

set_option autoImplicit false

namespace Listing

open Number Text

/-- The text that a variable counts as. It is its default where it is absent, and where its bytes
are those of no text. -/
inductive Environment.CountsAs (env : Environment) (name default : String) : String → Prop
  | given {bytes : List UInt8} {s : String} : env.values.lookup name = some bytes →
      Utf8.encode s = bytes → CountsAs env name default s
  | absent : env.values.lookup name = none → CountsAs env name default default
  | malformed {bytes : List UInt8} : env.values.lookup name = some bytes →
      (∀ s, Utf8.encode s ≠ bytes) → CountsAs env name default default

/-- A text for each of the variables. -/
structure Settings.Texts where
  host : String
  port : String
  databaseUrl : String
  maxConnections : String
  seedDemo : String

/-- The variables count as these texts. -/
structure Environment.Gives (env : Environment) (t : Settings.Texts) : Prop where
  host : env.CountsAs "HOST" "0.0.0.0" t.host
  port : env.CountsAs "PORT" "3001" t.port
  databaseUrl : env.CountsAs "DATABASE_URL" "sqlite::memory:" t.databaseUrl
  maxConnections : env.CountsAs "DATABASE_MAX_CONNECTIONS" "10" t.maxConnections
  seedDemo : env.CountsAs "SEED_DEMO_DATA" "true" t.seedDemo

namespace Settings

/-- The settings are those of the texts. -/
structure SetBy (settings : Settings) (t : Texts) : Prop where
  host : settings.host = t.host
  port : IsCount 65535 t.port settings.port
  databaseUrl : settings.databaseUrl = t.databaseUrl
  maxConnections : IsCount (2 ^ 32 - 1) t.maxConnections settings.maxConnections
  seedDemo : settings.seedDemo = true ↔ t.seedDemo = "true" ∨ t.seedDemo = "1"

/-- The error is that of the first number that is no count. -/
inductive RefusedBy (e : SettingsError) (t : Texts) : Prop
  | port : e.context = "Invalid PORT" → CountFault 65535 t.port e.cause → RefusedBy e t
  | maxConnections : e.context = "Invalid DATABASE_MAX_CONNECTIONS" →
      (∃ n, IsCount 65535 t.port n) → CountFault (2 ^ 32 - 1) t.maxConnections e.cause →
      RefusedBy e t

/-- What is made of the texts. -/
structure MadeOf (made : Except SettingsError Settings) (t : Texts) : Prop where
  succeeds_iff : (∃ settings, made = .ok settings) ↔
    (∃ n, IsCount 65535 t.port n) ∧ ∃ n, IsCount (2 ^ 32 - 1) t.maxConnections n
  settings : ∀ settings, made = .ok settings ↔ settings.SetBy t
  zeros : ∀ settings, made = .ok settings →
    IgnoresZeros t.port settings.port ∧ IgnoresZeros t.maxConnections settings.maxConnections
  error : ∀ e, made = .error e ↔ RefusedBy e t

end Settings

/-! ## Texts of variables -/

section

variable {env : Environment} {name default s : String}

theorem Environment.countsAs_iff : env.CountsAs name default s ↔ s = env.textOr name default := by
  unfold textOr text?
  constructor
  · intro h
    cases h with
    | given hvalue hs =>
      rw [hvalue, Option.bind_some, Utf8.decode?_eq_some_iff.2 hs, Option.getD_some]
    | absent hvalue => rw [hvalue, Option.bind_none, Option.getD_none]
    | malformed hvalue hs =>
      have hdecode : Utf8.decode? _ = none :=
        Option.eq_none_iff_forall_ne_some.2 fun s h => hs s (Utf8.decode?_eq_some_iff.1 h)
      rw [hvalue, Option.bind_some, hdecode, Option.getD_none]
  · rintro rfl
    cases hvalue : env.values.lookup name with
    | none => exact .absent hvalue
    | some bytes =>
      rw [Option.bind_some]
      cases hdecode : Utf8.decode? bytes with
      | none =>
        refine .malformed hvalue fun s hs => ?_
        rw [Utf8.decode?_eq_some_iff.2 hs] at hdecode
        cases hdecode
      | some s => exact .given hvalue (Utf8.decode?_eq_some_iff.1 hdecode)

/-- What the variables count as, by the way they are looked up. -/
def Environment.texts (env : Environment) : Settings.Texts where
  host := env.textOr "HOST" "0.0.0.0"
  port := env.textOr "PORT" "3001"
  databaseUrl := env.textOr "DATABASE_URL" "sqlite::memory:"
  maxConnections := env.textOr "DATABASE_MAX_CONNECTIONS" "10"
  seedDemo := env.textOr "SEED_DEMO_DATA" "true"

theorem Environment.gives_iff {t : Settings.Texts} : env.Gives t ↔ t = env.texts := by
  obtain ⟨host, port, databaseUrl, maxConnections, seedDemo⟩ := t
  rw [texts, Settings.Texts.mk.injEq, ← countsAs_iff, ← countsAs_iff, ← countsAs_iff,
    ← countsAs_iff, ← countsAs_iff]
  exact ⟨fun h => ⟨h.host, h.port, h.databaseUrl, h.maxConnections, h.seedDemo⟩,
    fun ⟨hhost, hport, hurl, hmax, hseed⟩ => ⟨hhost, hport, hurl, hmax, hseed⟩⟩

end

namespace Settings

variable {env : Environment} {settings : Settings} {setting : NumberSetting} {n : ℕ}
  {e : SettingsError}

/-! ## Numbers -/

theorem readNumber_eq_ok_iff : readNumber env setting = .ok n ↔
    IsCount setting.limit (env.textOr setting.variableName setting.default) n := by
  rw [← readCount_eq_ok_iff, readNumber]
  cases readCount setting.limit (env.textOr setting.variableName setting.default) <;>
    simp [Except.mapError]

theorem readNumber_eq_error_iff : readNumber env setting = .error e ↔ e.setting = setting ∧
    CountFault setting.limit (env.textOr setting.variableName setting.default) e.cause := by
  rw [← readCount_eq_error_iff, readNumber]
  cases readCount setting.limit (env.textOr setting.variableName setting.default) with
  | ok n => simp [Except.mapError]
  | error cause =>
    obtain ⟨of, cause'⟩ := e
    simp [Except.mapError, eq_comm]

/-! ## Settings -/

/-- An environment has settings just if both numbers can be read, and then each setting has its
variable. -/
theorem ofEnvironment_eq_ok_iff : ofEnvironment env = .ok settings ↔ ∃ port max,
    readNumber env .port = .ok port ∧ readNumber env .maxConnections = .ok max ∧
      settings = ⟨env.textOr "HOST" "0.0.0.0", port,
        env.textOr "DATABASE_URL" "sqlite::memory:", max,
        (env.text? "SEED_DEMO_DATA").all isOn⟩ := by
  unfold ofEnvironment
  cases readNumber env .port with
  | error e => simp [bind, Except.bind]
  | ok port =>
    cases readNumber env .maxConnections with
    | error e => simp [bind, Except.bind]
    | ok max => simp [bind, Except.bind, pure, Except.pure, eq_comm]

/-- The second number is not read if the first cannot be. -/
theorem ofEnvironment_eq_error_iff :
    ofEnvironment env = .error e ↔ readNumber env .port = .error e ∨
      (∃ port, readNumber env .port = .ok port) ∧ readNumber env .maxConnections = .error e := by
  unfold ofEnvironment
  cases readNumber env .port with
  | error e => simp [bind, Except.bind]
  | ok port => cases readNumber env .maxConnections <;> simp [bind, Except.bind, pure, Except.pure]

theorem all_isOn_iff : (env.text? "SEED_DEMO_DATA").all isOn = true ↔
    env.textOr "SEED_DEMO_DATA" "true" = "true" ∨ env.textOr "SEED_DEMO_DATA" "true" = "1" := by
  rw [Environment.textOr]
  cases env.text? "SEED_DEMO_DATA" <;> simp [isOn]

theorem context_eq_iff : e.context = "Invalid " ++ setting.variableName ↔ e.setting = setting := by
  obtain ⟨of, cause⟩ := e
  refine ⟨fun h => ?_, fun h => congrArg (fun s : NumberSetting => "Invalid " ++ s.variableName) h⟩
  have hinjective : ∀ s s' : NumberSetting,
      "Invalid " ++ s.variableName = "Invalid " ++ s'.variableName → s = s' := by
    intro s s'
    cases s <;> cases s' <;> decide
  exact hinjective of setting h

theorem setBy_iff : ofEnvironment env = .ok settings ↔ settings.SetBy env.texts := by
  rw [ofEnvironment_eq_ok_iff]
  constructor
  · rintro ⟨port, max, hport, hmax, rfl⟩
    exact ⟨rfl, readNumber_eq_ok_iff.1 hport, rfl, readNumber_eq_ok_iff.1 hmax, all_isOn_iff⟩
  · intro h
    have hseed : settings.seedDemo = (env.text? "SEED_DEMO_DATA").all isOn :=
      Bool.eq_iff_iff.2 (h.seedDemo.trans all_isOn_iff.symm)
    refine ⟨settings.port, settings.maxConnections, readNumber_eq_ok_iff.2 h.port,
      readNumber_eq_ok_iff.2 h.maxConnections, ?_⟩
    obtain ⟨host, port, url, max, seed⟩ := settings
    rw [Settings.mk.injEq]
    exact ⟨h.host, rfl, h.databaseUrl, rfl, hseed⟩

theorem refusedBy_iff : ofEnvironment env = .error e ↔ RefusedBy e env.texts := by
  rw [ofEnvironment_eq_error_iff, readNumber_eq_error_iff, readNumber_eq_error_iff]
  constructor
  · rintro (⟨hsetting, hfault⟩ | ⟨⟨port, hport⟩, hsetting, hfault⟩)
    · exact .port (context_eq_iff.2 hsetting) hfault
    · exact .maxConnections (context_eq_iff.2 hsetting) ⟨port, readNumber_eq_ok_iff.1 hport⟩ hfault
  · intro h
    cases h with
    | port hcontext hfault => exact .inl ⟨context_eq_iff.1 hcontext, hfault⟩
    | maxConnections hcontext hport hfault =>
      obtain ⟨port, hport⟩ := hport
      exact .inr ⟨⟨port, readNumber_eq_ok_iff.2 hport⟩, context_eq_iff.1 hcontext, hfault⟩

theorem succeeds_iff : (∃ settings, ofEnvironment env = .ok settings) ↔
    (∃ n, IsCount 65535 env.texts.port n) ∧
      ∃ n, IsCount (2 ^ 32 - 1) env.texts.maxConnections n := by
  constructor
  · rintro ⟨settings, h⟩
    exact ⟨⟨_, (setBy_iff.1 h).port⟩, ⟨_, (setBy_iff.1 h).maxConnections⟩⟩
  · rintro ⟨⟨port, hport⟩, ⟨max, hmax⟩⟩
    exact ⟨_, ofEnvironment_eq_ok_iff.2
      ⟨port, max, readNumber_eq_ok_iff.2 hport, readNumber_eq_ok_iff.2 hmax, rfl⟩⟩

/-- Every environment gives each variable one text and no other, and the settings or the error are
those of these texts. -/
theorem ofEnvironment_exact (env : Environment) :
    ∃ t, (∀ t', env.Gives t' ↔ t' = t) ∧ MadeOf (ofEnvironment env) t := by
  refine ⟨env.texts, fun _ => Environment.gives_iff, ?_⟩
  exact
    { succeeds_iff := succeeds_iff
      settings := fun _ => setBy_iff
      zeros := fun settings h =>
        have hset := setBy_iff.1 h
        ⟨hset.port.ignoresZeros, hset.maxConnections.ignoresZeros⟩
      error := fun _ => refusedBy_iff }

/-- The port is told and not the other number, which is empty, and its value and not the letter
behind it. -/
example : let env := ((⟨[]⟩ : Environment).set "PORT" "+0065536x").set "DATABASE_MAX_CONNECTIONS" ""
    ofEnvironment env = .error ⟨.port, .tooLarge⟩ := by decide +kernel

end Settings

end Listing
