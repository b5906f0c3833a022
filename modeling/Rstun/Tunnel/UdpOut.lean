import Rstun.Base.Run
import Rstun.Tunnel.Waiting

/-!
# The receiver of a UDP OUT tunnel

A tunnel that is the only user of its local address: `connect_and_serve` reconnects for ever, and for
each connection `handle_network_based_tunnel` runs `serve_outbound_udp` in a race against the end of
the connection. The latter takes the receiver out of the `UdpServer`, runs a race of its own, and puts
the receiver back. `ρ` is the type of the receivers. Stopping the client is left out.
-/

namespace Rstun.Tunnel
open Async Transition

variable {ρ : Type}

/-- The part of the server's state that its users change. -/
structure UdpServer (ρ : Type) where
  active : Bool
  udpReceiver : Option ρ
  deriving DecidableEq

namespace UdpServer

def bindAndStart (receiver : ρ) : UdpServer ρ := ⟨false, some receiver⟩

def takeReceiver (server : UdpServer ρ) : Except String ρ × UdpServer ρ :=
  let server := { server with active := true }
  match server.udpReceiver with
  | some receiver => (.ok receiver, { server with udpReceiver := none })
  | none => (.error "udp receiver already taken", { server with active := false })

def putReceiver (server : UdpServer ρ) (receiver : ρ) : UdpServer ρ :=
  { server with active := false, udpReceiver := some receiver }

/-- The receiver is in its place and nobody uses it. -/
def Recovered (server : UdpServer ρ) : Prop := server.active = false ∧ server.udpReceiver.isSome

instance (server : UdpServer ρ) : Decidable server.Recovered := inferInstanceAs (Decidable (_ ∧ _))

theorem recovered_bindAndStart (receiver : ρ) : (bindAndStart receiver).Recovered := ⟨rfl, rfl⟩

theorem recovered_putReceiver (server : UdpServer ρ) (receiver : ρ) :
    (server.putReceiver receiver).Recovered :=
  ⟨rfl, rfl⟩

theorem Recovered.takeReceiver {server : UdpServer ρ} (h : server.Recovered) :
    ∃ receiver, server.takeReceiver = (.ok receiver, ⟨true, none⟩) := by
  obtain ⟨receiver, present⟩ := Option.isSome_iff_exists.mp h.2
  exact ⟨receiver, by simp [UdpServer.takeReceiver, present]⟩

end UdpServer

/-- Where `serve_outbound_udp` stands: not yet polled, in `start_udp_server`, or in the inner race with
the receiver in hand. -/
inductive ServeUdp (ρ : Type) where
  | start
  | binding
  | serving (receiver : ρ)
  deriving DecidableEq

/-- What happens during one poll. `bound` is `none` while the server is being bound, and `some none`
when binding has failed for good; `ends` says that `UdpTunnel::start_serving` returns. -/
structure UdpPoll (ρ : Type) where
  outer : Race
  inner : Race
  bound : Option (Option ρ)
  ends : Bool

/-- The server is the one that `udp_servers` has for the local address. -/
abbrev UdpConn (ρ : Type) := Conn (Option (UdpServer ρ))

namespace UdpPoll
variable (p : UdpPoll ρ)

def startServing : Poll (UdpConn ρ) Unit := fun c _ => (c, if p.ends then none else some ())

def serve (receiver : ρ) (c : UdpConn ρ) : UdpConn ρ × Option (ServeUdp ρ) :=
  match waitForConnectionClose p.inner p.startServing c () with
  | (c, none) => ({ c with state := c.state.map (·.putReceiver receiver) }, none)
  | (c, some _) => (c, some (.serving receiver))

def takeAndServe (server : UdpServer ρ) (c : UdpConn ρ) : UdpConn ρ × Option (ServeUdp ρ) :=
  match server.takeReceiver with
  | (.ok receiver, server) => p.serve receiver { c with state := some server }
  | (.error _, server) => ({ c with state := some server }, none)

def startUdpServer (c : UdpConn ρ) : UdpConn ρ × Option (ServeUdp ρ) :=
  match p.bound with
  | none => (c, some .binding)
  | some none => (c, none)
  | some (some receiver) => p.takeAndServe (.bindAndStart receiver) c

def serveOutboundUdp : Poll (UdpConn ρ) (ServeUdp ρ)
  | c, .start =>
    match c.state with
    | some server => p.takeAndServe server c
    | none => p.startUdpServer c
  | c, .binding => p.startUdpServer c
  | c, .serving receiver => p.serve receiver c

def handleNetworkBasedTunnel : Poll (UdpConn ρ) (ServeUdp ρ) :=
  waitForConnectionClose p.outer p.serveOutboundUdp

def Ends (c : UdpConn ρ) : Prop := c.closed ∨ p.inner.closes ∨ p.ends

instance (c : UdpConn ρ) : Decidable (p.Ends c) := inferInstanceAs (Decidable (_ ∨ _ ∨ _))

def Served (c : UdpConn ρ) (result : UdpConn ρ × Option (ServeUdp ρ)) : Prop :=
  (p.Ends c ∧ ∃ server, server.Recovered ∧ result = (⟨true, some server⟩, none)) ∨
  (¬ p.Ends c ∧ ∃ receiver, result = (⟨c.closed, some ⟨true, none⟩⟩, some (.serving receiver)))

variable {p}

/-- The order in which the inner race polls makes no difference. -/
theorem serve_eq (receiver : ρ) (c : UdpConn ρ) : p.serve receiver c =
    if p.Ends c then (⟨true, c.state.map (·.putReceiver receiver)⟩, none)
    else (c, some (.serving receiver)) := by
  obtain ⟨outer, ⟨closedFirst, closes⟩, bound, ends⟩ := p
  obtain ⟨closed, state⟩ := c
  cases closedFirst <;> cases closes <;> cases ends <;> cases closed <;> rfl

theorem serve_served {c : UdpConn ρ} (receiver : ρ) (out : c.state = some ⟨true, none⟩) :
    p.Served c (p.serve receiver c) := by
  rw [serve_eq, Served, out]
  split <;> rename_i ends
  · exact Or.inl ⟨ends, _, UdpServer.recovered_putReceiver _ receiver, rfl⟩
  · exact Or.inr ⟨ends, receiver, by rw [← out]⟩

theorem takeAndServe_served {server : UdpServer ρ} {c : UdpConn ρ} (recovered : server.Recovered) :
    p.Served c (p.takeAndServe server c) := by
  obtain ⟨receiver, taken⟩ := recovered.takeReceiver
  rw [takeAndServe, taken]
  exact serve_served (c := { c with state := some ⟨true, none⟩ }) receiver rfl

end UdpPoll

/-- `task` is `none` while there is no connection. -/
structure UdpOut (ρ : Type) where
  conn : UdpConn ρ
  task : Option (ServeUdp ρ)

inductive UdpAction (ρ : Type) where
  | connect
  | close
  | poll (p : UdpPoll ρ)

namespace UdpOut

def new : UdpOut ρ := ⟨⟨true, none⟩, none⟩

def step (t : UdpOut ρ) : UdpAction ρ → Option (UdpOut ρ)
  | .connect => if t.task.isNone then some ⟨{ t.conn with closed := false }, some .start⟩ else none
  | .close => some { t with conn := t.conn.close }
  | .poll p => t.task.map fun task =>
    match p.handleNetworkBasedTunnel t.conn task with
    | (conn, task) => ⟨conn, task⟩

def Reaches (t : UdpOut ρ) (p : UdpPoll ρ) : Prop :=
  match t.task with
  | none => False
  | some .start => t.conn.state.isSome ∨ (p.bound.bind id).isSome
  | some .binding => (p.bound.bind id).isSome
  | some (.serving _) => True

instance (t : UdpOut ρ) (p : UdpPoll ρ) : Decidable (t.Reaches p) := by
  unfold Reaches
  split <;> infer_instance

/-- While the receiver is out, the outer race does not notice the end of the connection before the
inner one does. -/
def Yields (t : UdpOut ρ) : UdpAction ρ → Prop
  | .connect | .close => True
  | .poll p =>
    if p.outer.closedFirst then t.conn.closed ∨ p.outer.closes → ∀ receiver, t.task ≠ some (.serving receiver)
    else p.outer.closes → t.Reaches p → p.Ends t.conn

/-- If `serve_outbound_udp` returns or is dropped, the server has its receiver again. -/
def Recovers (t : UdpOut ρ) (a : UdpAction ρ) : Prop :=
  ∀ t' ∈ t.step a, t'.task = none → ∀ server ∈ t'.conn.state, server.Recovered

/-- The receiver is in the server or in the hands of `serve_outbound_udp`. -/
def Kept (t : UdpOut ρ) : Prop :=
  match t.task with
  | some (.serving _) => t.conn.state = some ⟨true, none⟩
  | _ => ∀ server ∈ t.conn.state, server.Recovered

variable {t t' : UdpOut ρ} {p : UdpPoll ρ}

theorem serveOutboundUdp_cases {task : ServeUdp ρ} (kept : t.Kept) (running : t.task = some task) :
    (t.Reaches p ∧ p.Served t.conn (p.serveOutboundUdp t.conn task)) ∨
    (¬ t.Reaches p ∧ (∀ server ∈ t.conn.state, server.Recovered) ∧
      ∃ result, (∀ r, result ≠ some (.serving r)) ∧ p.serveOutboundUdp t.conn task = (t.conn, result)) := by
  have binds : (∀ server ∈ t.conn.state, server.Recovered) →
      ((p.bound.bind id).isSome ∧ p.Served t.conn (p.startUdpServer t.conn)) ∨
      (¬ (p.bound.bind id).isSome ∧ (∀ server ∈ t.conn.state, server.Recovered) ∧
        ∃ result, (∀ r, result ≠ some (.serving r)) ∧ p.startUdpServer t.conn = (t.conn, result)) := by
    intro recovered
    unfold UdpPoll.startUdpServer
    rcases p.bound with _ | _ | receiver
    · exact Or.inr ⟨by simp, recovered, _, by simp, rfl⟩
    · exact Or.inr ⟨by simp, recovered, _, by simp, rfl⟩
    · exact Or.inl ⟨rfl, UdpPoll.takeAndServe_served (UdpServer.recovered_bindAndStart receiver)⟩
  rw [Kept, running] at kept
  rw [Reaches, running]
  cases task with
  | start =>
    cases present : t.conn.state with
    | some server =>
      refine Or.inl ⟨by simp, ?_⟩
      simp only [UdpPoll.serveOutboundUdp, present]
      exact UdpPoll.takeAndServe_served (kept server present)
    | none => simpa [UdpPoll.serveOutboundUdp, present] using binds kept
  | binding => exact binds kept
  | serving receiver => exact Or.inl ⟨trivial, UdpPoll.serve_served receiver kept⟩

theorem Kept.idle (recovered : ∀ server ∈ t.conn.state, server.Recovered)
    (idle : ∀ receiver, t.task ≠ some (.serving receiver)) : t.Kept := by
  unfold Kept
  split
  · rename_i receiver serving
    exact absurd serving (idle receiver)
  · exact recovered

theorem Kept.recovered (kept : t.Kept) (idle : ∀ receiver, t.task ≠ some (.serving receiver)) :
    ∀ server ∈ t.conn.state, server.Recovered := by
  unfold Kept at kept
  split at kept
  · rename_i receiver serving
    exact absurd serving (idle receiver)
  · exact kept

/-- A poll in which the outer race waits for the inner one keeps track of the receiver. -/
theorem poll_kept {task : ServeUdp ρ} (kept : t.Kept) (running : t.task = some task)
    (yields : t.Yields (.poll p)) :
    Leaves (fun conn task => Kept ⟨conn, some task⟩) (fun conn => ∀ server ∈ conn.state, server.Recovered)
      (p.handleNetworkBasedTunnel t.conn task) := by
  refine select_leaves (fun first conn noticed => ?_) fun _ => ?_
  · -- dropped before it was polled
    obtain ⟨closed, rfl⟩ := connClosed_eq_some.mp noticed
    rw [Yields, if_pos first] at yields
    exact kept.recovered (yields closed)
  · rcases serveOutboundUdp_cases kept running (p := p) with
      ⟨reaches, served⟩ | ⟨_, recovered, result, idle, polled⟩
    · rcases served with ⟨_, server, recovered, result⟩ | ⟨unfinished, receiver, result⟩
      · rw [result]
        intro server' same
        obtain rfl := Option.some.inj same
        exact recovered
      · rw [result]
        -- dropped right after it was polled: then the inner race would have ended as well
        refine ⟨rfl, fun last conn noticed => absurd ?_ unfinished⟩
        obtain ⟨closed | closes, rfl⟩ := connClosed_eq_some.mp noticed
        · exact Or.inl closed
        · rw [Yields, if_neg (by simp [last])] at yields
          exact yields closes reaches
    · rw [polled]
      cases result with
      | none => exact recovered
      | some g =>
        refine ⟨Kept.idle recovered idle, fun _ conn noticed => ?_⟩
        obtain ⟨_, rfl⟩ := connClosed_eq_some.mp noticed
        exact recovered

/-- A poll in which it does not drops the receiver. -/
theorem poll_lost {task : ServeUdp ρ} (kept : t.Kept) (running : t.task = some task)
    (overtaken : ¬ t.Yields (.poll p)) :
    p.handleNetworkBasedTunnel t.conn task = (⟨true, some ⟨true, none⟩⟩, none) := by
  rw [UdpPoll.handleNetworkBasedTunnel, waitForConnectionClose_eq]
  cases first : p.outer.closedFirst with
  | true =>
    obtain ⟨closed, receiver, serving⟩ : (t.conn.closed = true ∨ p.outer.closes = true) ∧
        ∃ receiver, t.task = some (.serving receiver) := by simpa [Yields, first] using overtaken
    rw [Kept, serving] at kept
    simp [closed, Conn.close, kept]
  | false =>
    obtain ⟨closes, reaches, unfinished⟩ : p.outer.closes = true ∧ t.Reaches p ∧ ¬ p.Ends t.conn := by
      simpa [Yields, first] using overtaken
    rcases serveOutboundUdp_cases kept running (p := p) with ⟨_, served⟩ | ⟨short, _⟩
    · rcases served with ⟨ends, _⟩ | ⟨_, receiver, result⟩
      · exact absurd ends unfinished
      · simp [result, closes, Conn.close]
    · exact absurd reaches short

theorem step_kept (kept : t.Kept) {a : UdpAction ρ} (yields : t.Yields a)
    (hs : t.step a = some t') : t'.Kept := by
  cases a with
  | connect =>
    simp only [step, Option.ite_none_right_eq_some, Option.isNone_iff_eq_none] at hs
    obtain ⟨disconnected, reconnected⟩ := hs
    obtain rfl := Option.some.inj reconnected
    exact kept.recovered (by simp [disconnected])
  | close =>
    obtain rfl := Option.some.inj hs
    exact kept
  | poll p =>
    obtain ⟨task, running, rfl⟩ := Option.map_eq_some_iff.mp hs
    have leaves := poll_kept kept running yields
    rcases polled : p.handleNetworkBasedTunnel t.conn task with ⟨conn, _ | task⟩ <;> rw [polled] at leaves <;>
      exact leaves

theorem recovers_iff (kept : t.Kept) {a : UdpAction ρ} : t.Recovers a ↔ t.Yields a := by
  constructor
  · intro recovers
    cases a with
    | connect | close => trivial
    | poll p =>
      by_contra overtaken
      cases running : t.task with
      | none => exact overtaken (by simp [Yields, Reaches, running])
      | some task =>
        have lost := poll_lost kept running overtaken
        have gone := recovers _ (by simp only [step, running, lost, Option.map_some]; rfl) rfl _ rfl
        simp [UdpServer.Recovered] at gone
  · intro yields t' hs left
    exact (step_kept kept yields hs).recovered (by simp [left])

theorem new_kept : (new : UdpOut ρ).Kept := by simp [new, Kept]

/-- Over any number of connections, the server has its receiver again each time `serve_outbound_udp`
is left if and only if the outer race always waits for the inner one. -/
theorem recovers_always_iff {acts : List (UdpAction ρ)} :
    Along step Recovers (new : UdpOut ρ) acts ↔ Along step Yields (new : UdpOut ρ) acts :=
  ⟨along_of_invariant (fun _ _ _ kept recovers => step_kept kept ((recovers_iff kept).mp recovers))
      (fun _ _ kept => (recovers_iff kept).mp) new_kept,
    along_of_invariant (fun _ _ _ kept yields => step_kept kept yields)
      (fun _ _ kept => (recovers_iff kept).mpr) new_kept⟩

/-- The connection closes while the receiver is out, and the outer race happens to look at the
connection before it polls `serve_outbound_udp`. -/
def overtaken : List (UdpAction Nat) :=
  [.connect, .poll ⟨⟨false, false⟩, ⟨false, false⟩, some (some 0), false⟩, .close,
    .poll ⟨⟨true, false⟩, ⟨false, false⟩, none, false⟩]

theorem receiver_not_recovered : ∃ t, run step (new : UdpOut Nat) overtaken = some t ∧
    t.task = none ∧ t.conn.state = some ⟨true, none⟩ ∧ ¬ Along step Recovers new overtaken := by
  refine ⟨_, rfl, rfl, rfl, fun recovers => ?_⟩
  have last := (((recovers.2 _ rfl).2 _ rfl).2 _ rfl).1
  exact absurd (last _ rfl rfl _ rfl) (by decide)

def Gone (t : UdpOut ρ) : Prop :=
  (∃ active, t.conn.state = some ⟨active, none⟩) ∧ (t.task = none ∨ t.task = some .start)

theorem step_gone (gone : t.Gone) {a : UdpAction ρ} (hs : t.step a = some t') : t'.Gone := by
  obtain ⟨⟨active, state⟩, task⟩ := gone
  cases a with
  | connect =>
    simp only [step, Option.ite_none_right_eq_some] at hs
    obtain rfl := Option.some.inj hs.2
    exact ⟨⟨active, state⟩, Or.inr rfl⟩
  | close =>
    obtain rfl := Option.some.inj hs
    exact ⟨⟨active, state⟩, task⟩
  | poll p =>
    obtain ⟨task', running, rfl⟩ := Option.map_eq_some_iff.mp hs
    obtain rfl : task' = .start := by simpa [running] using task
    have failed : p.serveOutboundUdp t.conn .start = (⟨t.conn.closed, some ⟨false, none⟩⟩, none) := by
      simp [UdpPoll.serveOutboundUdp, state, UdpPoll.takeAndServe, UdpServer.takeReceiver]
    simp only [UdpPoll.handleNetworkBasedTunnel, waitForConnectionClose_eq, failed]
    split
    · exact ⟨⟨active, state⟩, Or.inl rfl⟩
    · exact ⟨⟨false, rfl⟩, Or.inl rfl⟩

/-- Once the receiver has been dropped, the tunnel never gets another. -/
theorem lost_for_good {acts : List (UdpAction ρ)} (dropped : t.task = none)
    (empty : t.conn.state = some ⟨true, none⟩) (h : run step t acts = some t') : t'.Gone :=
  run_invariant (fun _ _ _ gone => step_gone gone) ⟨⟨true, empty⟩, Or.inl dropped⟩ h

end UdpOut
end Rstun.Tunnel
