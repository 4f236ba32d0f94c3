import Listing.Proofs.Startup.IpAddress
import Listing.Proofs.Startup.Settings
import Listing.Startup.Launch

/-!
# Which interfaces can be listened on

The address to listen on is the host, a colon and the port. For an IPv4 address this is a socket
address of just that interface and port. For an IPv6 address it is none, in whatever spelling, and
start-up ends there; within brackets the same address is read (`host_served_iff`).
-/

set_option autoImplicit false

namespace Listing

open IpAddress Number

/-- The address is of the older family. -/
def IpAddress.IsV4 : IpAddress → Prop
  | .v4 .. => True
  | .v6 _ => False

namespace SocketAddress

variable {mark : Char} {cs front : List Char} {host : String} {port a b c d : Nat} {gs : List Nat}

/-! ## Reading -/

theorem cutAt_append (h : mark ∉ front) (back : List Char) :
    cutAt mark (front ++ mark :: back) = some (front, back) := by
  have hfront : ∀ c ∈ front, (c != mark) = true := fun c hc => bne_iff_ne.2 fun heq => h (heq ▸ hc)
  rw [cutAt, if_pos (by simp), List.takeWhile_append_of_pos hfront,
    List.dropWhile_append_of_pos hfront]
  simp

theorem cutAt_of_not_mem (h : mark ∉ cs) : cutAt mark cs = none := by
  rw [cutAt, if_neg (by simpa using h)]

theorem bounded?_toDigits (h : port ≤ 65535) :
    bounded? 65535 (Nat.toDigits 10 port) = some port := by
  rw [bounded?, natural?_toDigits]
  simp [h]

theorem toList_withPort (host : String) (port : Nat) :
    (host ++ ":" ++ toString port).toList = host.toList ++ ':' :: Nat.toDigits 10 port := by
  rw [String.toList_append, String.toList_append, toList_toString, List.append_assoc]
  rfl

/-- Without brackets an address is cut at its first colon. -/
theorem parse?_of_no_bracket {s : String} (h : s.toList.head? ≠ some '[') : parse? s = do
    let (ip, port) ← cutAt ':' s.toList
    let (a, b, c, d) ← octets? ip
    return ⟨.v4 a b c d, 0, ← bounded? 65535 port⟩ := by
  unfold parse?
  split
  · rename_i heq
    rw [heq] at h
    exact absurd rfl h
  · rfl

theorem head?_toList_withPort (h : ∀ c ∈ host.toList, c ≠ '[') (port : Nat) :
    (host ++ ":" ++ toString port).toList.head? ≠ some '[' := by
  rw [toList_withPort]
  cases hcs : host.toList with
  | nil => simp
  | cons e es => simpa using h e (hcs ▸ List.mem_cons_self)

/-- An IPv4 address with a port is read, whatever the spelling of the address. -/
theorem parse?_of_v4 (h : read? host = some (.v4 a b c d)) (hport : port ≤ 65535) :
    parse? (host ++ ":" ++ toString port) = some ⟨.v4 a b c d, 0, port⟩ := by
  have hoctets := read?_eq_v4_iff.1 h
  have hhead :=
    head?_toList_withPort (fun c hc => (isAddressChar_of_octets? hoctets hc).ne.2.1) port
  rw [parse?_of_no_bracket hhead, toList_withPort, cutAt_append (colon_not_mem_octets hoctets)]
  simp [hoctets, bounded?_toDigits hport]

/-- An IPv6 address with a port is not read: what stands before its first colon is no IPv4
address. -/
theorem parse?_of_v6 (h : read? host = some (.v6 gs)) (port : Nat) :
    parse? (host ++ ":" ++ toString port) = none := by
  have hgroups := read?_eq_v6_iff.1 h
  have hhead := head?_toList_withPort (fun c hc => (isAddressChar_of_v6? hgroups hc).ne.2.1) port
  obtain ⟨front, rest, hcs, hhex⟩ := exists_colon_of_v6? hgroups
  have hcolon : ':' ∉ front := fun hc => (ne_of_hexValue? (hhex _ hc)).1 rfl
  have hpoint : '.' ∉ front := fun hc => (ne_of_hexValue? (hhex _ hc)).2.1 rfl
  have hnone : octets? front = none := by rw [octets?, List.splitOn_eq_singleton hpoint]
  rw [parse?_of_no_bracket hhead, toList_withPort, hcs, List.append_assoc, List.cons_append,
    cutAt_append hcolon]
  simp [hnone]

/-- In brackets it is read. -/
theorem parse?_bracketed (h : read? host = some (.v6 gs)) (hport : port ≤ 65535) :
    parse? ("[" ++ host ++ "]" ++ ":" ++ toString port) = some ⟨.v6 gs, 0, port⟩ := by
  have hgroups := read?_eq_v6_iff.1 h
  have hclose : ']' ∉ host.toList := fun hc => (isAddressChar_of_v6? hgroups hc).ne.2.2 rfl
  have hscope : '%' ∉ host.toList := fun hc => (isAddressChar_of_v6? hgroups hc).ne.1 rfl
  have htext : ("[" ++ host ++ "]" ++ ":" ++ toString port).toList
      = '[' :: (host.toList ++ ']' :: ':' :: Nat.toDigits 10 port) := by
    rw [toList_withPort]
    simp
  unfold parse?
  rw [htext]
  simp [cutAt_append hclose, bracketed?, cutAt_of_not_mem hscope, hgroups, bounded?_toDigits hport]

end SocketAddress

namespace Service

variable {s : Surroundings} {settings : Settings}

/-! ## Start-up -/

theorem settingsOf_eq_ok_iff : settingsOf s = .ok settings ↔
    ∃ env, environmentOf s = .ok env ∧ Settings.ofEnvironment env = .ok settings := by
  unfold settingsOf
  cases environmentOf s with
  | error f => simp [Bind.bind, Except.bind]
  | ok env =>
    cases h : Settings.ofEnvironment env <;> simp [Bind.bind, Except.bind, Except.mapError, h]

/-- Start-up gets as far as the address to listen on. -/
def ReachesAddress (s : Surroundings) (settings : Settings) : Prop := ∃ d events store,
  connection s settings = .ok d ∧ prepare s settings d = (events, .ok store)

theorem ne_address_of_prepare {d : Database} {events : List Event} {f : LaunchFault} (text : String)
    (h : prepare s settings d = (events, .error f)) : f ≠ .address text := by
  unfold prepare at h
  split at h <;> cases h <;> simp

theorem bind_address_iff (text : String) : bind s settings = .error (.address text) ↔
    SocketAddress.parse? settings.bindAddress = none ∧ text = settings.bindAddress := by
  unfold bind
  cases SocketAddress.parse? settings.bindAddress with
  | none => simpa using eq_comm
  | some a =>
    dsimp only
    split <;> simp

/-- Start-up ends at the address to listen on just if it gets there and the address cannot be
read. -/
theorem launch_address_iff (hs : settingsOf s = .ok settings) (text : String) :
    (launch s).2 = .error (.address text) ↔
      ReachesAddress s settings ∧ SocketAddress.parse? settings.bindAddress = none ∧
        text = settings.bindAddress := by
  rw [← bind_address_iff (s := s)]
  unfold launch ReachesAddress
  rw [hs]
  dsimp only
  cases connection s settings with
  | error f => simp
  | ok d =>
    dsimp only
    cases hprepare : prepare s settings d with
    | mk events prepared =>
      cases prepared with
      | error f => simpa [hprepare] using ne_address_of_prepare text hprepare
      | ok store => cases bind s settings <;> simp [hprepare]

end Service

/-- An address that is given as the host in its standard form is read as that interface, with the
port, just if it is an IPv4 address; an IPv6 address is not read at all, and start-up ends there if
it gets there. In brackets an IPv6 address is read as that interface. -/
theorem host_served_iff {a : IpAddress} {env : Environment} {settings : Settings}
    (ha : a.WellFormed) (hsettings : Settings.ofEnvironment env = .ok settings)
    (hhost : env.text? "HOST" = some a.text) :
    (SocketAddress.parse? settings.bindAddress = some ⟨a, 0, settings.port⟩ ↔ a.IsV4) ∧
    (SocketAddress.parse? settings.bindAddress = none ↔ ¬ a.IsV4) ∧
    (∀ s, Service.settingsOf s = .ok settings →
      ((∃ text, (Service.launch s).2 = .error (.address text)) ↔
        ¬ a.IsV4 ∧ Service.ReachesAddress s settings)) ∧
    (¬ a.IsV4 → SocketAddress.parse? { settings with host := "[" ++ a.text ++ "]" }.bindAddress
      = some ⟨a, 0, settings.port⟩) := by
  obtain ⟨port, max, hnumber, -, hsame⟩ := Settings.ofEnvironment_eq_ok_iff.1 hsettings
  have hport : settings.port ≤ 65535 := by
    rw [hsame]
    exact (Settings.readNumber_eq_ok_iff.1 hnumber).le
  have hread : read? settings.host = some a := by
    rw [hsame, Environment.textOr, hhost, Option.getD_some]
    exact read?_text ha
  cases a with
  | v4 a b c d =>
    have hparse :
        SocketAddress.parse? settings.bindAddress = some ⟨.v4 a b c d, 0, settings.port⟩ :=
      SocketAddress.parse?_of_v4 hread hport
    exact ⟨by simp [hparse, IsV4], by simp [hparse, IsV4],
      fun s hs => by simp [Service.launch_address_iff hs, hparse, IsV4], fun h => absurd trivial h⟩
  | v6 gs =>
    have hparse : SocketAddress.parse? settings.bindAddress = none :=
      SocketAddress.parse?_of_v6 hread settings.port
    exact ⟨by simp [hparse, IsV4], by simp [hparse, IsV4],
      fun s hs => by simp [Service.launch_address_iff hs, hparse, IsV4],
      fun _ => SocketAddress.parse?_bracketed (read?_text ha) hport⟩

/-- An IPv4 address is read with the port, whose text has a sign and a needless zero. -/
theorem host_served_iff_documentation :
    let env := ((⟨[]⟩ : Environment).set "HOST" "192.0.2.255").set "PORT" "+08080"
    ∃ settings, Settings.ofEnvironment env = .ok settings ∧
      SocketAddress.parse? settings.bindAddress = some ⟨.v4 192 0 2 255, 0, 8080⟩ := by
  intro env
  have hsettings : Settings.ofEnvironment env =
      .ok ⟨"192.0.2.255", 8080, "sqlite::memory:", 10, true⟩ := by
    decide +kernel
  have hhost : env.text? "HOST" = some (text (.v4 192 0 2 255)) := by decide +kernel
  have ha : WellFormed (.v4 192 0 2 255) := by
    unfold WellFormed
    decide
  exact ⟨_, hsettings, (host_served_iff ha hsettings hhost).1.2 trivial⟩

/-- The IPv6 address of this host cannot be listened on: the address is not read, and start-up
ends. -/
theorem loopback_not_served :
    let env := (⟨[]⟩ : Environment).set "HOST" "::1"
    let s : Surroundings := ⟨env, none, ⟨[], []⟩, fun _ => true, .standard⟩
    WellFormed (.v6 [0, 0, 0, 0, 0, 0, 0, 1]) ∧
      env.text? "HOST" = some (text (.v6 [0, 0, 0, 0, 0, 0, 0, 1])) ∧
      ∃ settings, Settings.ofEnvironment env = .ok settings ∧
        SocketAddress.parse? settings.bindAddress = none ∧
        (Service.launch s).2 = .error (.address "::1:3001") := by
  intro env s
  let settings : Settings := ⟨"::1", 3001, "sqlite::memory:", 10, true⟩
  have hsettings : Settings.ofEnvironment env = .ok settings := by decide +kernel
  have hfound : Service.settingsOf s = .ok settings :=
    Service.settingsOf_eq_ok_iff.2 ⟨env, rfl, hsettings⟩
  have haddress : "::1:3001" = settings.bindAddress := by decide +kernel
  have hparse : SocketAddress.parse? settings.bindAddress = none := by decide +kernel
  have hreach : Service.ReachesAddress s settings :=
    ⟨⟨⟨.memory, false⟩, 1⟩, [Store.seededEvent], Store.empty.seed, by decide +kernel, rfl⟩
  refine ⟨?_, by decide +kernel, settings, hsettings, hparse, ?_⟩
  · unfold WellFormed
    decide
  · exact (Service.launch_address_iff hfound _).2 ⟨hreach, hparse, haddress⟩

end Listing
