import Rstun.Base.Exclusive
import Rstun.Base.Run
import Rstun.Tunnel.UdpOut

/-!
# The receiver of a local server

The tunnels with the same local address share a server. `take_receiver` lends its receiver to one of
them. A server that is not active drops what comes in. `ρ` is the type of the receivers.
-/

namespace Rstun.Tunnel
open Transition

variable {ρ : Type}

/-- What the server's task does with a packet or a connection. -/
inductive Verdict where
  | forward
  | drop
  | quit
  deriving DecidableEq

/-- The address and the sender are left out. -/
structure TcpServer (ρ : Type) where
  tcpReceiver : Option ρ
  active : Bool
  terminated : Bool
  deriving DecidableEq

namespace TcpServer

def bindAndStart (receiver : ρ) : TcpServer ρ := ⟨some receiver, false, false⟩

def takeReceiver (server : TcpServer ρ) : Except String ρ × TcpServer ρ :=
  let server := { server with active := true }
  match server.tcpReceiver with
  | some receiver => (.ok receiver, { server with tcpReceiver := none })
  | none => (.error "tcp receiver already taken", { server with active := false })

def putReceiver (server : TcpServer ρ) (receiver : ρ) : TcpServer ρ :=
  { server with active := false, tcpReceiver := some receiver }

def onAccept (server : TcpServer ρ) : Verdict :=
  if server.terminated then .quit else if !server.active then .drop else .forward

end TcpServer

def UdpServer.onRecv (server : UdpServer ρ) : Verdict := if !server.active then .drop else .forward

/-- What the two servers have in common. `deactivate` is the rollback of a `take_receiver` that fails. -/
structure Lender (σ ρ : Type) where
  active : σ → Bool
  receiver : σ → Option ρ
  deactivate : σ → σ
  takeReceiver : σ → Except String ρ × σ
  putReceiver : σ → ρ → σ
  verdict : σ → Verdict
  active_deactivate : ∀ s, active (deactivate s) = false
  take_some : ∀ s r, receiver s = some r →
    (takeReceiver s).1 = .ok r ∧ active (takeReceiver s).2 = true ∧ receiver (takeReceiver s).2 = none
  take_none : ∀ s, receiver s = none → ∃ err, takeReceiver s = (.error err, deactivate s)
  active_put : ∀ s r, active (putReceiver s r) = false
  receiver_put : ∀ s r, receiver (putReceiver s r) = some r
  not_dropped : ∀ s, active s = true → verdict s ≠ .drop

def udpLender : Lender (UdpServer ρ) ρ where
  active := UdpServer.active
  receiver := UdpServer.udpReceiver
  deactivate := fun server => { server with active := false }
  takeReceiver := UdpServer.takeReceiver
  putReceiver := UdpServer.putReceiver
  verdict := UdpServer.onRecv
  active_deactivate _ := rfl
  take_some server r present := by simp [UdpServer.takeReceiver, present]
  take_none server absent := ⟨"udp receiver already taken", by simp [UdpServer.takeReceiver, absent]⟩
  active_put _ _ := rfl
  receiver_put _ _ := rfl
  not_dropped server active := by simp [UdpServer.onRecv, active]

def tcpLender : Lender (TcpServer ρ) ρ where
  active := TcpServer.active
  receiver := TcpServer.tcpReceiver
  deactivate := fun server => { server with active := false }
  takeReceiver := TcpServer.takeReceiver
  putReceiver := TcpServer.putReceiver
  verdict := TcpServer.onAccept
  active_deactivate _ := rfl
  take_some server r present := by simp [TcpServer.takeReceiver, present]
  take_none server absent := ⟨"tcp receiver already taken", by simp [TcpServer.takeReceiver, absent]⟩
  active_put _ _ := rfl
  receiver_put _ _ := rfl
  not_dropped server active := by
    rw [TcpServer.onAccept, active]
    split <;> simp

/-- `held` says which receiver a tunnel has. `τ` names the tunnels. -/
structure Sharing (σ τ ρ : Type) where
  server : σ
  held : τ → Option ρ

inductive ReceiverCall (τ : Type) where
  | take (tunnel : τ)
  | put (tunnel : τ)
  deriving DecidableEq

namespace Lender
variable {σ τ : Type} [DecidableEq τ] (L : Lender σ ρ)

/-- A tunnel puts back the receiver that it took. -/
def step (s : Sharing σ τ ρ) : ReceiverCall τ → Option (Sharing σ τ ρ)
  | .take tunnel =>
    match L.takeReceiver s.server with
    | (.ok receiver, server) => some ⟨server, Function.update s.held tunnel (some receiver)⟩
    | (.error _, server) => some { s with server }
  | .put tunnel =>
    (s.held tunnel).map fun receiver =>
      ⟨L.putReceiver s.server receiver, Function.update s.held tunnel none⟩

def Fails (s : Sharing σ τ ρ) : ReceiverCall τ → Prop
  | .take _ => ∃ err, (L.takeReceiver s.server).1 = .error err
  | .put _ => False

structure Agrees (s : Sharing σ τ ρ) : Prop where
  active : L.active s.server = true ↔ ∃ tunnel receiver, s.held tunnel = some receiver
  exclusive : ∀ t t' r r', s.held t = some r → s.held t' = some r' → t = t'
  traffic : ∀ tunnel receiver, s.held tunnel = some receiver → L.verdict s.server ≠ .drop

/-- What the call should do. -/
def Keeps (s : Sharing σ τ ρ) (call : ReceiverCall τ) : Prop :=
  ∀ t ∈ L.step s call, L.Agrees t ∧ (L.Fails s call → t.server = s.server)

/-- No tunnel has the receiver when it is asked for. -/
def Free (s : Sharing σ τ ρ) : ReceiverCall τ → Prop
  | .take _ => ∀ tunnel, s.held tunnel = none
  | .put _ => True

/-- The receiver is with the server or with one of the tunnels. -/
structure Placed (s : Sharing σ τ ρ) : Prop extends L.Agrees s where
  home : (∃ receiver, L.receiver s.server = some receiver) ↔ ∀ tunnel, s.held tunnel = none

variable {L} {s t : Sharing σ τ ρ}

omit [DecidableEq τ] in
theorem placed_home {receiver : ρ} (home : L.receiver s.server = some receiver)
    (inactive : L.active s.server = false) (nobody : ∀ tunnel, s.held tunnel = none) : L.Placed s where
  active := by simp [inactive, nobody]
  exclusive := by simp [nobody]
  traffic := by simp [nobody]
  home := by simp [home, nobody]

theorem placed_lent {server : σ} {held : τ → Option ρ} {tunnel : τ} {receiver : ρ} (lent : L.receiver server = none)
    (active : L.active server = true) (nobody : ∀ tunnel, held tunnel = none) :
    L.Placed ⟨server, Function.update held tunnel (some receiver)⟩ := by
  have only : ∀ {t r}, Function.update held tunnel (some receiver) t = some r → t = tunnel := by
    intro t r has
    rcases Slots.of_update_some has with ⟨same, _⟩ | ⟨_, old⟩
    · exact same
    · rw [nobody] at old
      cases old
  have has : Function.update held tunnel (some receiver) tunnel = some receiver := by simp
  constructor
  · constructor
    · exact iff_of_true active ⟨tunnel, receiver, has⟩
    · intro t t' r r' first second
      rw [only first, only second]
    · exact fun _ _ _ => L.not_dropped server active
  · refine iff_of_false (by simp [lent]) fun nobody => ?_
    cases has.symm.trans (nobody tunnel)

/-- Both calls keep the receiver in one place, as long as a tunnel does not ask for one that is lent. -/
theorem step_placed {call : ReceiverCall τ} (placed : L.Placed s) (free : Free s call)
    (stepped : L.step s call = some t) : L.Placed t := by
  cases call with
  | take tunnel =>
    obtain ⟨receiver, home⟩ := placed.home.mpr free
    obtain ⟨ok, active, lent⟩ := L.take_some s.server receiver home
    rw [step] at stepped
    split at stepped <;> rename_i taken
    · obtain rfl := Option.some.inj stepped
      rw [taken] at active lent
      exact placed_lent lent active free
    · rw [taken] at ok
      cases ok
  | put tunnel =>
    obtain ⟨receiver, has, rfl⟩ := Option.map_eq_some_iff.mp stepped
    apply placed_home (L.receiver_put s.server receiver) (L.active_put s.server receiver)
    intro other
    by_cases same : other = tunnel
    · simp [same]
    · show Function.update s.held tunnel none other = none
      rw [Function.update_of_ne same, Option.eq_none_iff_forall_ne_some]
      exact fun r others => same (placed.exclusive other tunnel r receiver others has)

omit [DecidableEq τ] in
theorem not_fails_of_free {call : ReceiverCall τ} (placed : L.Placed s) (free : Free s call) : ¬ L.Fails s call := by
  cases call with
  | take tunnel =>
    obtain ⟨receiver, home⟩ := placed.home.mpr free
    rintro ⟨err, failed⟩
    rw [(L.take_some s.server receiver home).1] at failed
    cases failed
  | put tunnel => exact id

/-- A call for a receiver that is lent stops the traffic of the tunnel that has it. -/
theorem free_of_keeps {call : ReceiverCall τ} (placed : L.Placed s) (keeps : L.Keeps s call) : Free s call := by
  cases call with
  | put tunnel => trivial
  | take tunnel =>
    by_contra lent
    have absent : L.receiver s.server = none := by
      rw [Option.eq_none_iff_forall_ne_some]
      exact fun receiver home => lent (placed.home.mp ⟨receiver, home⟩)
    obtain ⟨err, failed⟩ := L.take_none s.server absent
    have stepped : L.step s (.take tunnel) = some { s with server := L.deactivate s.server } := by
      rw [step, failed]
    have agrees := (keeps _ stepped).1.active.mpr
    rw [L.active_deactivate] at agrees
    simp only [Free, not_forall, ← ne_eq, Option.ne_none_iff_exists'] at lent
    exact absurd (agrees lent) (by simp)

theorem along_keeps_iff {calls : List (ReceiverCall τ)} (placed : L.Placed s) :
    Along L.step L.Keeps s calls ↔ Along L.step Free s calls := by
  constructor
  · intro keeps
    induction calls generalizing s with
    | nil => trivial
    | cons call calls ih =>
      have free := free_of_keeps placed keeps.1
      exact ⟨free, fun t stepped => ih (step_placed placed free stepped) (keeps.2 t stepped)⟩
  · apply along_of_invariant (fun s call t placed free => step_placed placed free) _ placed
    intro s call placed free t stepped
    exact ⟨(step_placed placed free stepped).toAgrees, fun fails => absurd fails (not_fails_of_free placed free)⟩

/-- Of either server: the calls do what they should if and only if none of them asks for a receiver that
is lent. -/
theorem receivers_kept_iff (receiver : ρ) (calls : List (ReceiverCall τ)) :
    (Along udpLender.step udpLender.Keeps ⟨UdpServer.bindAndStart receiver, fun _ => none⟩ calls ↔
        Along udpLender.step Free ⟨UdpServer.bindAndStart receiver, fun _ => none⟩ calls) ∧
      (Along tcpLender.step tcpLender.Keeps ⟨TcpServer.bindAndStart receiver, fun _ => none⟩ calls ↔
        Along tcpLender.step Free ⟨TcpServer.bindAndStart receiver, fun _ => none⟩ calls) :=
  ⟨along_keeps_iff (placed_home rfl rfl fun _ => rfl), along_keeps_iff (placed_home rfl rfl fun _ => rfl)⟩

/-- The first tunnel keeps the receiver, and the failed call of the second has its packets dropped. -/
theorem second_take_drops : ∃ s,
    run udpLender.step (⟨UdpServer.bindAndStart 7, fun _ => none⟩ : Sharing (UdpServer Nat) Nat Nat)
      [.take 0, .take 1] = some s ∧
    s.held 0 = some 7 ∧ s.server.active = false ∧ s.server.onRecv = .drop :=
  ⟨_, rfl, rfl, rfl, rfl⟩

end Lender
end Rstun.Tunnel
