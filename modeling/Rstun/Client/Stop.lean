import Rstun.Client.Process

/-!
# Stopping the client

`stop_async` announces the stop, then takes all connections and servers out of the state and closes them.
A task looks at the announcement before it enters its connection, but only once. If it has looked too
early it enters the connection after everything has been taken out.
-/

namespace Rstun.Client
open Transition

/-- The task has seen that the client is not stopping, and has yet to enter something into the state. -/
def Phase.registering : Phase → Bool
  | passed _ => true
  | phase => phase.settingUp

theorem Phase.not_registering {phase : Phase} (none : phase.conn = none) : phase.registering = false := by
  cases phase <;> first | rfl | cases none

theorem Phase.registering_settingUp {phase : Phase} (h : phase.settingUp = true) : phase.registering = true := by
  cases phase <;> first | rfl | cases h

/-- Nothing is registered. -/
def State.Cleared (s : State) : Prop :=
  s.connections = [] ∧ s.tcpServers = [] ∧ s.udpServers = [] ∧ s.tcpReceivers = []

namespace StopPhase

def clientState : StopPhase → ClientState
  | idle => .idle
  | stopping | closing _ => .stopping
  | done => .terminated

/-- The connections that are still to be closed, once they have been taken out of the state. -/
def remaining : StopPhase → Option (List Nat)
  | idle | stopping => none
  | closing conns => some conns
  | done => some []

end StopPhase

namespace Process

/-- When the connections and servers are taken out of the state, no task is about to enter another. -/
def Settled (p : Process) : Action → Prop
  | .closeAll => ∀ tid < p.count, (p.tasks tid).registering = false
  | _ => True

instance (p : Process) (act : Action) : Decidable (Settled p act) := by
  unfold Settled
  split <;> infer_instance

/-- A connection that a task has is in the state until all are taken out, and is closed after that. -/
structure Halts (p : Process) : Prop where
  announced : p.state.clientState = p.stop.clientState
  known : ∀ tid < p.count, ∀ conn, (p.tasks tid).conn = some conn → conn < p.state.nextConn
  apart : ∀ tid < p.count, ∀ other < p.count, ∀ conn, (p.tasks tid).conn = some conn →
    (p.tasks other).conn = some conn → tid = other
  entered : p.stop.remaining = none → ∀ tid < p.count, ∀ conn, (p.tasks tid).conn = some conn →
    p.tasks tid = .passed conn ∨ conn ∈ p.state.connections
  cleared : ∀ conns, p.stop.remaining = some conns → p.state.Cleared ∧ ∀ tid < p.count,
    (p.tasks tid).registering = false ∧
    ∀ conn, (p.tasks tid).conn = some conn → p.state.closed conn = true ∨ conn ∈ conns

variable {kinds : Nat → TunnelKind} {p q : Process} {tid : Nat} {s : State} {phase : Phase}

theorem halts_new (count : Nat) : (new count).Halts := ⟨rfl, nofun, nofun, nofun, nofun⟩

/-- A step of a task, with what it has to respect of the others and what it has to be itself. -/
theorem Halts.update (inv : p.Halts) (member : tid < p.count)
    (state : s.clientState = p.state.clientState) (nextConn : p.state.nextConn ≤ s.nextConn)
    (closed : ∀ conn < p.state.nextConn, p.state.closed conn = true → s.closed conn = true)
    (kept : ∀ conn ∈ p.state.connections, (p.tasks tid).conn ≠ some conn → conn ∈ s.connections)
    (own : ∀ conn, phase.conn = some conn →
      (p.tasks tid).conn = some conn ∨ conn = p.state.nextConn ∧ conn < s.nextConn)
    (entered : p.stop.remaining = none → ∀ conn, phase.conn = some conn →
      phase = .passed conn ∨ conn ∈ s.connections)
    (cleared : ∀ conns, p.stop.remaining = some conns → s.Cleared ∧ phase.registering = false ∧
      ∀ conn, phase.conn = some conn → s.closed conn = true ∨ conn ∈ conns) :
    Halts { p with state := s, tasks := Function.update p.tasks tid phase } := by
  have owned := Owned.update ⟨inv.known, inv.apart⟩ member nextConn own
  refine ⟨state.trans inv.announced, owned.known, owned.apart, ?_, ?_⟩
  · intro early
    apply (Function.forall_update_iff p.tasks fun other phase => other < p.count → ∀ conn,
      phase.conn = some conn → phase = .passed conn ∨ conn ∈ s.connections).mpr
    refine ⟨fun _ => entered early, fun other this opened conn has => ?_⟩
    rcases inv.entered early other opened conn has with passed | before
    · exact .inl passed
    · exact .inr (kept conn before fun had => this (inv.apart other opened tid member conn has had))
  · intro conns late
    obtain ⟨empty, own⟩ := cleared conns late
    refine ⟨empty, ?_⟩
    apply (Function.forall_update_iff p.tasks fun other phase => other < p.count →
      phase.registering = false ∧ ∀ conn, phase.conn = some conn → s.closed conn = true ∨ conn ∈ conns).mpr
    refine ⟨fun _ => own, fun other _ opened => ?_⟩
    obtain ⟨quiet, before⟩ := (inv.cleared conns late).2 other opened
    refine ⟨quiet, fun conn has => ?_⟩
    rcases before conn has with already | waiting
    · exact .inl (closed conn (inv.known other opened conn has) already)
    · exact .inr waiting

/-- A step after which the task has no connection. -/
theorem Halts.release (inv : p.Halts) (member : tid < p.count) (none : phase.conn = none)
    (state : s.clientState = p.state.clientState) (nextConn : p.state.nextConn ≤ s.nextConn)
    (closed : ∀ conn < p.state.nextConn, p.state.closed conn = true → s.closed conn = true)
    (kept : ∀ conn ∈ p.state.connections, (p.tasks tid).conn ≠ some conn → conn ∈ s.connections)
    (cleared : p.state.Cleared → s.Cleared) :
    Halts { p with state := s, tasks := Function.update p.tasks tid phase } := by
  refine inv.update member state nextConn closed kept ?_ ?_ ?_
  · rw [none]
    exact nofun
  · rw [none]
    exact nofun
  · intro conns late
    refine ⟨cleared (inv.cleared conns late).1, Phase.not_registering none, ?_⟩
    rw [none]
    exact nofun

theorem closed_after_close {conn other : Nat} (h : s.closed other = true) :
    (s.close conn).closed other = true := by
  by_cases this : other = conn
  · rw [this, State.closed_close]
  · rwa [State.closed_close_of_ne this]

theorem closed_after_connect {endpoint conn : Nat} (below : conn < s.nextConn) (h : s.closed conn = true) :
    (s.connect endpoint).closed conn = true := by
  rwa [State.closed_connect below]

/-- A client that has not been told to quit has its stop still ahead. -/
theorem Halts.running (inv : p.Halts) (running : p.state.shouldQuit = false) : p.stop.remaining = none := by
  cases phase : p.stop <;> simp [State.shouldQuit, inv.announced, phase, StopPhase.clientState] at running
  rfl

theorem task_halts {act : TaskAction} (inv : p.Halts) (member : tid < p.count)
    (moves : Moves p.state (p.tasks tid) act s phase) :
    Halts { p with state := s, tasks := Function.update p.tasks tid phase } := by
  generalize was : p.tasks tid = before at moves
  -- Once all has been taken out of the state, the task is in no phase that enters anything.
  have quiet : ∀ conns, p.stop.remaining = some conns → before.registering = false :=
    fun conns late => was ▸ ((inv.cleared conns late).2 tid member).1
  cases moves with
  | idle _ after | found _ after =>
    exact inv.release member after rfl (Nat.le_refl _) (fun _ _ => id) (fun _ entered _ => entered) id
  | kept endpoint ipv6 =>
    exact inv.release member rfl rfl (Nat.le_refl _) (fun _ _ => id) (fun _ entered _ => entered) id
  | dropped _ _ _ after =>
    exact inv.release member after rfl (Nat.le_refl _) (fun _ _ => id) (fun _ entered _ => entered) id
  | created ipv6 | stored endpoint =>
    exact inv.release member rfl rfl (Nat.le_refl _) (fun _ _ => id) (fun _ entered _ => entered) id
  | gaveUp endpoint _ =>
    exact inv.release member rfl rfl (Nat.le_succ _) (fun _ => closed_after_connect) (fun _ entered _ => entered) id
  | passed endpoint running =>
    have early := inv.running running
    refine inv.update member rfl (Nat.le_succ _) (fun _ => closed_after_connect) (fun _ entered _ => entered) ?_ ?_ ?_
    · rintro _ ⟨⟩
      exact .inr ⟨rfl, Nat.lt_succ_self _⟩
    · rintro _ _ ⟨⟩
      exact .inl rfl
    · intro conns late
      cases early.symm.trans late
  | entered conn =>
    refine inv.update member rfl (Nat.le_refl _) (fun _ _ => id) ?_ ?_ ?_ ?_
    · exact fun other entered _ => List.mem_cons_of_mem conn entered
    · rw [was]
      exact fun _ => .inl
    · rintro _ _ ⟨⟩
      exact .inr List.mem_cons_self
    · intro conns late
      cases quiet conns late
  | setUp _ _ _ before had after has =>
    refine inv.update member rfl (Nat.le_refl _) (fun _ _ => id) (fun _ entered _ => entered) ?_ ?_ ?_
    · intro conn has'
      rw [was, had, ← has, has']
      exact .inl rfl
    · intro early conn has'
      have held : (p.tasks tid).conn = some conn := by rw [was, had, ← has, has']
      rcases inv.entered early tid member conn held with passed | entered
      · rw [← was, passed] at before
        cases before
      · exact .inr entered
    · intro conns late
      cases (quiet conns late).symm.trans (Phase.registering_settingUp before)
  | ended before had =>
    rename_i conn
    refine inv.update member rfl (Nat.le_refl _) (fun _ _ => closed_after_close) (fun _ entered _ => entered) ?_ ?_ ?_
    · rintro _ ⟨⟩
      rw [was, had]
      exact .inl rfl
    · rintro early _ ⟨⟩
      rcases inv.entered early tid member conn (by rw [was, had]) with passed | entered
      · rw [was] at passed
        rcases before with before | before <;> rw [passed] at before <;> cases before
      · exact .inr entered
    · intro conns late
      obtain ⟨empty, _⟩ := inv.cleared conns late
      refine ⟨empty, rfl, ?_⟩
      rintro _ ⟨⟩
      exact .inl State.closed_close
  | removed conn =>
    refine inv.release member rfl rfl (Nat.le_refl _) (fun _ _ => id) ?_ ?_
    · intro other entered different
      rw [was] at different
      have distinct : other ≠ conn := fun same => different (same ▸ rfl)
      exact List.mem_filter.mpr ⟨entered, by simpa using distinct⟩
    · intro empty
      exact ⟨by simp [empty.1], empty.2⟩

theorem step_halts {act : Action} (inv : p.Halts) (settled : Settled p act)
    (h : p.step kinds act = some q) : q.Halts := by
  cases act with
  | task tid act =>
    obtain ⟨state, phase, member, stepped, rfl⟩ := step_task h
    exact task_halts inv member (Phase.step_moves stepped)
  | connLost conn =>
    cases h
    refine ⟨inv.announced, inv.known, inv.apart, inv.entered, fun conns late => ?_⟩
    obtain ⟨empty, tasks⟩ := inv.cleared conns late
    refine ⟨empty, fun tid member => ?_⟩
    exact ⟨(tasks tid member).1, fun conn has => ((tasks tid member).2 conn has).imp_left closed_after_close⟩
  | stop =>
    simp only [step] at h
    split at h <;> cases h
    rename_i idle
    refine ⟨rfl, inv.known, inv.apart, fun _ => inv.entered ?_, fun _ late => by cases late⟩
    rw [idle]
    rfl
  | closeAll =>
    simp only [step] at h
    split at h <;> cases h
    rename_i stopping
    refine ⟨?_, inv.known, inv.apart, fun early => (by cases early), ?_⟩
    · rw [closeAll, inv.announced, stopping]
      rfl
    · rintro _ ⟨⟩
      refine ⟨⟨rfl, rfl, rfl, rfl⟩, fun tid member => ⟨settled tid member, fun conn has => .inr ?_⟩⟩
      have early : p.stop.remaining = none := by
        rw [stopping]
        rfl
      -- Whoever has a connection has entered it, so that it is among those to be closed.
      rcases inv.entered early tid member conn has with passed | entered
      · have registering := settled tid member
        rw [passed] at registering
        cases registering
      · exact entered
  | closeOne =>
    simp only [step] at h
    split at h <;> cases h
    rename_i conn conns closing
    have late : p.stop.remaining = some (conn :: conns) := by
      rw [closing]
      rfl
    refine ⟨?_, inv.known, inv.apart, fun early => (by cases early), ?_⟩
    · rw [State.close, inv.announced, closing]
      rfl
    · rintro _ ⟨⟩
      obtain ⟨empty, tasks⟩ := inv.cleared _ late
      refine ⟨empty, fun tid member => ?_⟩
      refine ⟨(tasks tid member).1, fun other has => ?_⟩
      rcases (tasks tid member).2 other has with already | waiting
      · exact .inl (closed_after_close already)
      · rcases List.mem_cons.mp waiting with rfl | waiting
        · exact .inl State.closed_close
        · exact .inr waiting
  | terminate =>
    simp only [step] at h
    split at h <;> cases h
    rename_i closing
    have late : p.stop.remaining = some [] := by
      rw [closing]
      rfl
    refine ⟨rfl, inv.known, inv.apart, fun early => (by cases early), ?_⟩
    rintro _ ⟨⟩
    obtain ⟨empty, tasks⟩ := inv.cleared _ late
    exact ⟨empty, tasks⟩

/-- Nothing is registered, and every connection is closed or no task has it any more. -/
def Stopped (p : Process) : Prop :=
  p.state.Cleared ∧ ∀ conn < p.state.nextConn, p.state.closed conn = true ∨
    ∀ tid < p.count, (p.tasks tid).conn ≠ some conn

/-- If no task was about to register anything when `stop_async` took everything out of the state, then
the client is stopped from the moment on that it says so. -/
theorem terminated_stopped {count : Nat} {acts : List Action}
    (settled : Along (step kinds) Settled (new count) acts)
    (h : run (step kinds) (new count) acts = some p) (terminated : p.state.clientState = .terminated) :
    p.Stopped := by
  have inv : p.Halts :=
    run_along_invariant (fun _ _ _ inv settled stepped => step_halts inv settled stepped) (halts_new count)
      settled h
  have late : p.stop.remaining = some [] := by
    have announced := inv.announced
    rw [terminated] at announced
    cases phase : p.stop <;> rw [phase] at announced <;> cases announced
    rfl
  obtain ⟨empty, tasks⟩ := inv.cleared [] late
  refine ⟨empty, fun conn _ => ?_⟩
  by_cases held : ∃ tid, tid < p.count ∧ (p.tasks tid).conn = some conn
  · obtain ⟨tid, member, has⟩ := held
    exact .inl (((tasks tid member).2 conn has).resolve_right nofun)
  · exact .inr fun tid member has => held ⟨tid, member, has⟩

/-- The task of a tunnel logs in, on an endpoint of its own. -/
def logsIn : List Action := [.lookup false true, .create, .store, .loginOk].map (.task 0)

/-- An outbound tunnel is served when the client is stopped. -/
def stoppedWhileServing : List Action :=
  logsIn ++ [.register, .findServer, .bind, .insertServer, .takeReceiver].map (.task 0) ++
    [.stop, .closeAll, .closeOne, .terminate] ++ [.connClosed, .remove, .recheck].map (.task 0)

theorem terminated_stopped_serving :
    ∃ p, run (step fun _ => .outboundTcp (.v4 0x7F000001 8080)) (new 1) stoppedWhileServing = some p ∧
      p.state.clientState = .terminated ∧ p.tasks 0 = .quit ∧ p.Stopped := by
  have settled : Along (step fun _ => .outboundTcp (.v4 0x7F000001 8080)) Settled (new 1)
      stoppedWhileServing := by decide +kernel
  exact ⟨_, rfl, rfl, rfl, terminated_stopped settled rfl rfl⟩

/-- The task has found that the client is not stopping, when the client is stopped. It registers its
connection afterwards and goes on. -/
theorem registered_after_termination :
    ∃ p, run (step fun _ => .inboundOrChannel) (new 1)
        (logsIn ++ [.stop, .closeAll, .terminate, .task 0 .register, .task 0 .findServer]) = some p ∧
      p.state.clientState = .terminated ∧ p.state.connections = [0] ∧ p.state.closed 0 = false ∧
      p.tasks 0 = .serving 0 ∧ ¬ p.Stopped := by
  refine ⟨_, rfl, rfl, rfl, rfl, rfl, fun stopped => ?_⟩
  cases stopped.1.1

end Process

end Rstun.Client
