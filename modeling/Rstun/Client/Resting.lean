import Rstun.Base.Weights
import Rstun.Client.Stop

/-!
# The client comes to rest

Nobody waits for the tasks of the tunnels when the client is stopped. Each of them finds the announcement by
itself, at the latest when its connection has been closed. Only a task that has entered its connection after
the others were taken out does not hear of the stop.
-/

namespace Rstun.Client
open Transition

/-- How many steps a task can still make once the stop has been announced. To enter a connection counts
twice, since `stop_async` may have to close it. -/
def Phase.weight : Phase → Nat
  | quit => 0
  | retrying | removed => 1
  | failed | clearing | leaving _ => 2
  | loggingIn _ | serving _ => 3
  | created _ | taking _ => 4
  | creating _ | bound _ => 5
  | mismatch .. | binding _ => 6
  | preparing | registered _ => 7
  | passed _ => 9

theorem Phase.weight_le (phase : Phase) : phase.weight ≤ 9 := by
  cases phase <;> simp [weight]

theorem weight_findServer (s : State) (conn : Nat) (kind : TunnelKind) : (findServer s conn kind).weight < 7 := by
  unfold findServer
  split
  · exact (by decide : 3 < 7)
  iterate 2
    split <;> simp [Phase.weight]

theorem weight_afterServer (conn : Nat) (kind : TunnelKind) : (afterServer conn kind).weight < 5 := by
  cases kind <;> simp [afterServer, Phase.weight]

@[simp] theorem connections_insertServer (s : State) (kind : TunnelKind) :
    (insertServer s kind).connections = s.connections := by
  cases kind <;> rfl

@[simp] theorem connections_getOrInitTcpReceiver (s : State) (kind : TunnelKind) :
    (getOrInitTcpReceiver s kind).connections = s.connections := by
  cases kind <;> rfl

@[simp] theorem State.connections_clearCachedEndpointIfIdle (s : State) :
    s.clearCachedEndpointIfIdle.1.connections = s.connections := by
  unfold clearCachedEndpointIfIdle
  split <;> rfl

section Task

variable {kind : TunnelKind} {s s' : State} {phase phase' : Phase} {act : TaskAction}

/-- Of the steps that enter no connection it is enough to know that the task comes nearer to its end. -/
theorem Phase.lowers (lower : phase'.weight < phase.weight) (fewer : s'.connections.length ≤ s.connections.length) :
    phase'.weight < phase.weight ∧
      phase'.weight + s'.connections.length < phase.weight + s.connections.length :=
  ⟨lower, Nat.add_lt_add_of_lt_of_le lower fewer⟩

theorem Phase.step_weight (quits : s.shouldQuit = true) (h : phase.step kind s act = some (s', phase')) :
    phase'.weight < phase.weight ∧
      phase'.weight + s'.connections.length < phase.weight + s.connections.length := by
  unfold Phase.step at h
  split at h
  case h_2 => -- `lookup`
    split at h
    · split at h <;> cases h <;> exact lowers (by simp [weight]) (Nat.le_refl _)
    · cases h
      exact lowers (by simp [weight]) (Nat.le_refl _)
  case h_3 => -- `reset`
    rcases s.clearCachedEndpointIfIdle_spec with kept | ⟨_, dropped⟩
    · rw [kept] at h
      cases h
      exact lowers (by simp [weight]) (Nat.le_refl _)
    · rw [dropped] at h
      cases h
      exact lowers (by simp [weight]) (Nat.le_refl _)
  case h_12 => -- `register`
    cases h
    simp only [weight, List.length_cons]
    omega
  case h_13 => -- `findServer`
    cases h
    exact lowers (weight_findServer ..) (Nat.le_refl _)
  case h_15 => -- `insertServer`
    cases h
    exact lowers (weight_afterServer ..) (by simp)
  case h_25 => -- `remove`
    cases h
    exact lowers (by simp [weight]) (List.length_filter_le ..)
  all_goals first | cases h | (split at h <;> cases h)
  all_goals exact lowers (by simp [weight, quits]) (by simp [State.close, State.connect, State.createClientEndpoint])

/-- The end of a tunnel apart, a task can always go on unless it has quit or waits for its connection. -/
theorem Phase.can_step (kind : TunnelKind) (s : State) (busy : phase ≠ .quit)
    (waits : ∀ conn, phase = .serving conn → s.closed conn = true) :
    ∃ act, act ≠ .tunnelEnds ∧ (phase.step kind s act).isSome := by
  cases phase with
  | preparing => exact ⟨.prepareFails, by decide, rfl⟩
  | mismatch endpoint ipv6 => exact ⟨.reset, by decide, rfl⟩
  | creating ipv6 => exact ⟨.createFails, by decide, rfl⟩
  | created endpoint => exact ⟨.store, by decide, rfl⟩
  | loggingIn endpoint => exact ⟨.loginFails, by decide, rfl⟩
  | failed => exact ⟨.inspect, by decide, rfl⟩
  | clearing => exact ⟨.clear, by decide, rfl⟩
  | retrying => exact ⟨.retry, by decide, rfl⟩
  | passed conn => exact ⟨.register, by decide, rfl⟩
  | registered conn => exact ⟨.findServer, by decide, rfl⟩
  | binding conn => exact ⟨.bind, by decide, rfl⟩
  | bound conn => exact ⟨.insertServer, by decide, rfl⟩
  | taking conn => exact ⟨.takeReceiver, by decide, rfl⟩
  | serving conn => exact ⟨.connClosed, by decide, by simp [step, waits conn rfl]⟩
  | leaving conn => exact ⟨.remove, by decide, rfl⟩
  | removed => exact ⟨.recheck, by decide, rfl⟩
  | quit => exact absurd rfl busy

/-- What a task leaves to the others: it takes no connection out of the state but its own. -/
structure Keeps (s s' : State) (had : Option Nat) : Prop where
  clientState : s'.clientState = s.clientState
  nextConn : s.nextConn ≤ s'.nextConn
  closed : ∀ conn < s.nextConn, s.closed conn = true → s'.closed conn = true
  entered : ∀ conn ∈ s.connections, had ≠ some conn → conn ∈ s'.connections

theorem Moves.keeps (moves : Moves s phase act s' phase') : Keeps s s' phase.conn := by
  cases moves with
  | idle | found | kept | dropped | created | stored | setUp =>
    exact ⟨rfl, Nat.le_refl _, fun _ _ => id, fun _ entered _ => entered⟩
  | gaveUp | passed =>
    exact ⟨rfl, Nat.le_succ _, fun _ => Process.closed_after_connect, fun _ entered _ => entered⟩
  | entered conn => exact ⟨rfl, Nat.le_refl _, fun _ _ => id, fun _ entered _ => List.mem_cons_of_mem conn entered⟩
  | ended => exact ⟨rfl, Nat.le_refl _, fun _ _ => Process.closed_after_close, fun _ entered _ => entered⟩
  | removed conn =>
    refine ⟨rfl, Nat.le_refl _, fun _ _ => id, fun other entered different => ?_⟩
    have distinct : other ≠ conn := fun same => different (same ▸ rfl)
    exact List.mem_filter.mpr ⟨entered, by simpa using distinct⟩

theorem Moves.own (moves : Moves s phase act s' phase') (conn : Nat) (has : phase'.conn = some conn) :
    phase.conn = some conn ∨ conn = s.nextConn ∧ conn < s'.nextConn := by
  cases moves with
  | idle _ after | found _ after | dropped _ _ _ after => cases after.symm.trans has
  | kept | created | stored | gaveUp | removed => cases has
  | passed =>
    cases has
    exact .inr ⟨rfl, Nat.lt_succ_self _⟩
  | entered => exact .inl has
  | setUp _ _ _ _ had _ has' => exact .inl (had.trans (has'.symm.trans has))
  | ended _ had => exact .inl (had.trans has)

/-- The connection of a task is in the state or closed after its step, or this is as it was. -/
theorem Moves.held (moves : Moves s phase act s' phase') (conn : Nat) (has : phase'.conn = some conn) :
    phase' = .passed conn ∨ conn ∈ s'.connections ∨ s'.closed conn = true ∨
      phase.conn = some conn ∧ phase ≠ .passed conn ∧ s'.connections = s.connections ∧ s'.closed = s.closed := by
  cases moves with
  | idle _ after | found _ after | dropped _ _ _ after => cases after.symm.trans has
  | kept | created | stored | gaveUp | removed => cases has
  | passed =>
    cases has
    exact .inl rfl
  | entered =>
    cases has
    exact .inr (.inl List.mem_cons_self)
  | setUp _ _ _ before had _ has' =>
    refine .inr (.inr (.inr ⟨had.trans (has'.symm.trans has), ?_, rfl, rfl⟩))
    rintro rfl
    cases before
  | ended =>
    cases has
    exact .inr (.inr (.inl State.closed_close))

end Task

/-- Everything but a connection that is lost from outside. -/
def Action.own : Action → Bool
  | connLost _ => false
  | _ => true

/-- What happens by itself: whether a tunnel ends before its connection does is up to its users. -/
def Action.due : Action → Bool
  | connLost _ | task _ .tunnelEnds => false
  | _ => true

def StopPhase.weight (connections : List Nat) : StopPhase → Nat
  | idle | done => 0
  | stopping => connections.length + 2
  | closing conns => conns.length + 1

namespace Process

/-- The steps that can still be made once the stop has been announced. -/
def todo (p : Process) : Nat :=
  ∑ tid ∈ Finset.range p.count, (p.tasks tid).weight + p.stop.weight p.state.connections

/-- A connection that a task has is in the state, closed, or going to be closed, unless the task has yet to
enter it. -/
structure Accounted (p : Process) : Prop where
  announced : p.state.clientState = p.stop.clientState
  owned : p.Owned
  held : ∀ tid < p.count, ∀ conn, (p.tasks tid).conn = some conn → p.tasks tid = .passed conn ∨
    conn ∈ p.state.connections ∨ p.state.closed conn = true ∨ conn ∈ p.stop.remaining.getD []

variable {kinds : Nat → TunnelKind} {p q : Process} {tid count : Nat} {act : Action}

theorem accounted_new (count : Nat) : (new count).Accounted :=
  ⟨rfl, ⟨fun _ _ _ => by simp [new, Phase.conn], fun _ _ _ _ _ => by simp [new, Phase.conn]⟩,
    fun _ _ _ => by simp [new, Phase.conn]⟩

theorem task_accounted {task : TaskAction} {s : State} {phase : Phase} (inv : p.Accounted) (member : tid < p.count)
    (moves : Moves p.state (p.tasks tid) task s phase) :
    Accounted { p with state := s, tasks := Function.update p.tasks tid phase } := by
  have keeps := moves.keeps
  refine ⟨keeps.clientState.trans inv.announced, inv.owned.update member keeps.nextConn moves.own, ?_⟩
  apply (Function.forall_update_iff p.tasks fun other phase => other < p.count → ∀ conn,
    phase.conn = some conn → phase = .passed conn ∨ conn ∈ s.connections ∨ s.closed conn = true ∨
      conn ∈ p.stop.remaining.getD []).mpr
  refine ⟨fun _ conn has => ?_, fun other this opened conn has => ?_⟩
  · rcases moves.held conn has with passed | entered | closed | ⟨had, late, connections, closed⟩
    · exact .inl passed
    · exact .inr (.inl entered)
    · exact .inr (.inr (.inl closed))
    · rw [connections, closed]
      exact .inr ((inv.held tid member conn had).resolve_left late)
  · have below := inv.owned.known other opened conn has
    rcases inv.held other opened conn has with passed | entered | closed | waiting
    · exact .inl passed
    · have apart := inv.owned.apart other opened tid member conn has
      exact .inr (.inl (keeps.entered conn entered fun had => this (apart had)))
    · exact .inr (.inr (.inl (keeps.closed conn below closed)))
    · exact .inr (.inr (.inr waiting))

/-- A step outside the tasks. -/
theorem Accounted.outside (inv : p.Accounted) (outside : Outside p q)
    (announced : q.state.clientState = q.stop.clientState)
    (held : ∀ conn, conn ∈ p.state.connections ∨ p.state.closed conn = true ∨ conn ∈ p.stop.remaining.getD [] →
      conn ∈ q.state.connections ∨ q.state.closed conn = true ∨ conn ∈ q.stop.remaining.getD []) : q.Accounted := by
  obtain ⟨tasks, counts, nextConn, _, _⟩ := outside
  refine ⟨announced, ⟨?_, ?_⟩, ?_⟩
  · rw [tasks, counts, nextConn]
    exact inv.owned.known
  · rw [tasks, counts]
    exact inv.owned.apart
  · rw [tasks, counts]
    exact fun tid member conn has => (inv.held tid member conn has).imp_right (held conn)

theorem step_accounted (inv : p.Accounted) (h : p.step kinds act = some q) : q.Accounted := by
  have announced := inv.announced
  cases act with
  | task tid task =>
    obtain ⟨state, phase, member, stepped, rfl⟩ := step_task h
    exact task_accounted inv member (Phase.step_moves stepped)
  | connLost conn =>
    have outside := step_outside h (by simp)
    cases h
    refine inv.outside outside announced fun other => ?_
    exact Or.imp_right (Or.imp_left closed_after_close)
  | stop =>
    have outside := step_outside h (by simp)
    simp only [step] at h
    split at h <;> cases h
    rename_i idle
    refine inv.outside outside rfl fun conn before => ?_
    simpa [idle, StopPhase.remaining] using before
  | closeAll =>
    have outside := step_outside h (by simp)
    simp only [step] at h
    split at h <;> cases h
    rename_i stopping
    rw [stopping] at announced
    refine inv.outside outside announced fun conn before => ?_
    simpa [stopping, StopPhase.remaining, closeAll, or_comm] using before
  | closeOne =>
    have outside := step_outside h (by simp)
    simp only [step] at h
    split at h <;> cases h
    rename_i conn conns closing
    rw [closing] at announced
    refine inv.outside outside announced fun other before => ?_
    simp only [closing, StopPhase.remaining, Option.getD_some, List.mem_cons] at before ⊢
    rcases before with entered | closed | rfl | waiting
    · exact .inl entered
    · exact .inr (.inl (closed_after_close closed))
    · exact .inr (.inl State.closed_close)
    · exact .inr (.inr waiting)
  | terminate =>
    have outside := step_outside h (by simp)
    simp only [step] at h
    split at h <;> cases h
    rename_i closing
    refine inv.outside outside rfl fun conn before => ?_
    simpa [closing, StopPhase.remaining] using before

/-- The stop has been announced. -/
def Halting (p : Process) : Prop := p.Accounted ∧ p.stop ≠ .idle

theorem Halting.shouldQuit (halting : p.Halting) : p.state.shouldQuit = true := by
  have announced := halting.1.announced
  cases phase : p.stop with
  | idle => exact absurd phase halting.2
  | stopping | closing | done => simp [State.shouldQuit, announced, phase, StopPhase.clientState]

theorem step_stop (h : p.step kinds act = some q) (idle : q.stop = .idle) : p.stop = .idle := by
  cases act with
  | task tid task =>
    obtain ⟨state, phase, _, _, rfl⟩ := step_task h
    exact idle
  | connLost conn =>
    cases h
    exact idle
  | stop | closeAll | closeOne | terminate =>
    simp only [step] at h
    split at h <;> cases h
    cases idle

theorem step_halting (halting : p.Halting) (h : p.step kinds act = some q) : q.Halting :=
  ⟨step_accounted halting.1 h, halting.2 ∘ step_stop h⟩

theorem task_todo {task : TaskAction} {s : State} {phase : Phase} (halting : p.Halting) (member : tid < p.count)
    (h : (p.tasks tid).step (kinds tid) p.state task = some (s, phase)) :
    todo { p with state := s, tasks := Function.update p.tasks tid phase } < p.todo := by
  obtain ⟨lower, entered⟩ := Phase.step_weight halting.shouldQuit h
  have sum := Weights.sum_update Phase.weight p.tasks member phase
  have stop : p.stop.weight s.connections + phase.weight <
      p.stop.weight p.state.connections + (p.tasks tid).weight := by
    cases p.stop <;> simp only [StopPhase.weight] <;> omega
  simp only [todo]
  omega

theorem step_todo (halting : p.Halting) (h : p.step kinds act = some q) :
    q.todo + (if act.own then 1 else 0) ≤ p.todo := by
  cases act with
  | task tid task =>
    obtain ⟨state, phase, member, stepped, rfl⟩ := step_task h
    exact task_todo halting member stepped
  | connLost conn =>
    cases h
    exact Nat.le_refl _
  | stop =>
    simp only [step] at h
    split at h <;> cases h
    rename_i idle
    exact absurd idle halting.2
  | closeAll | closeOne | terminate =>
    simp only [step] at h
    split at h <;> cases h
    rename_i phase
    simp only [todo, StopPhase.weight, Action.own, phase, List.length_cons, List.length_nil, if_true]
    omega

theorem todo_le (p : Process) (stopping : p.stop = .stopping) :
    p.todo ≤ 9 * p.count + p.state.connections.length + 2 := by
  have tasks := Weights.sum_le Phase.weight p.tasks p.count Phase.weight_le
  simp only [todo, stopping, StopPhase.weight]
  omega

/-- The client has been stopped, and a task that has not quit serves a connection that it entered into the
state after the stop had taken the others out. -/
structure Rested (p : Process) : Prop where
  stop : p.stop = .done
  tasks : ∀ tid < p.count, p.tasks tid = .quit ∨
    ∃ conn, p.tasks tid = .serving conn ∧ p.state.closed conn = false ∧ conn ∈ p.state.connections

theorem stop_can_step (announced : p.stop ≠ .idle) (undone : p.stop ≠ .done) :
    ∃ act, act.due = true ∧ (p.step kinds act).isSome := by
  cases phase : p.stop with
  | idle => exact absurd phase announced
  | stopping => exact ⟨.closeAll, rfl, by simp [step, phase]⟩
  | closing conns =>
    cases conns with
    | nil => exact ⟨.terminate, rfl, by simp [step, phase]⟩
    | cons conn conns => exact ⟨.closeOne, rfl, by simp [step, phase]⟩
  | done => exact absurd phase undone

theorem task_can_step {task : TaskAction} (member : tid < p.count) (other : task ≠ .tunnelEnds)
    (can : ((p.tasks tid).step (kinds tid) p.state task).isSome) :
    ∃ act, act.due = true ∧ (p.step kinds act).isSome := by
  obtain ⟨⟨state, phase⟩, stepped⟩ := Option.isSome_iff_exists.mp can
  refine ⟨.task tid task, ?_, by simp [step, member, stepped]⟩
  unfold Action.due
  split
  · contradiction
  · rename_i ends
    cases ends
    exact absurd rfl other
  · rfl

theorem rested_or_due (kinds : Nat → TunnelKind) (halting : p.Halting) :
    p.Rested ∨ ∃ act, act.due = true ∧ (p.step kinds act).isSome := by
  by_cases stop : p.stop = .done
  case neg => exact .inr (stop_can_step halting.2 stop)
  by_cases stuck : ∀ tid < p.count, p.tasks tid = .quit ∨ ∃ conn, p.tasks tid = .serving conn ∧
    p.state.closed conn = false
  · refine .inl ⟨stop, fun tid member => (stuck tid member).imp_right ?_⟩
    rintro ⟨conn, serves, live⟩
    refine ⟨conn, serves, live, ?_⟩
    have held := halting.1.held tid member conn (by rw [serves, Phase.conn])
    simpa [serves, live, stop, StopPhase.remaining] using held
  · push Not at stuck
    obtain ⟨tid, member, busy, waits⟩ := stuck
    obtain ⟨task, other, can⟩ := Phase.can_step (kinds tid) p.state busy
      fun conn serves => by simpa using waits conn serves
    exact .inr (task_can_step member other can)

/-- From its announcement on, a stop leaves the client only so many steps of its own. As long as one of them
is due, it can be made, and when none is left the client rests. -/
theorem stop_comes_to_rest {before after : List Action}
    (reached : run (step kinds) (new count) before = some p) (stopping : p.stop = .stopping)
    (h : run (step kinds) p after = some q) :
    after.countP Action.own ≤ 9 * p.count + p.state.connections.length + 2 ∧
      (q.Rested ∨ ∃ act, act.due = true ∧ (q.step kinds act).isSome) := by
  have inv : p.Accounted :=
    run_invariant (fun _ _ _ inv stepped => step_accounted inv stepped) (accounted_new count) reached
  have halting : p.Halting := ⟨inv, by simp [stopping]⟩
  have steps : q.todo + after.countP Action.own ≤ p.todo :=
    run_uses (I := Halting) (C := fun _ => True) (m := todo)
      (fun _ _ _ halting _ stepped => step_halting halting stepped)
      (fun _ _ _ halting _ stepped => step_todo halting stepped) halting (fun _ _ => trivial) h
  have halted : q.Halting := run_invariant (fun _ _ _ halting stepped => step_halting halting stepped) halting h
  exact ⟨(Nat.le_add_left ..).trans (steps.trans (p.todo_le stopping)), rested_or_due kinds halted⟩

/-- A tunnel is served and another one is connecting when the client is stopped. -/
def stoppedWhileConnecting : List Action :=
  logsIn ++ [.task 0 .register, .task 0 .findServer, .task 1 (.lookup false true), .stop]

def comesToRest : List Action :=
  [.task 1 .loginFails, .closeAll, .closeOne, .terminate, .task 0 .connClosed, .task 1 .inspect, .task 1 .retry,
    .task 0 .remove, .task 0 .recheck]

theorem stop_comes_to_rest_connecting :
    ∃ p q, run (step fun _ => .inboundOrChannel) (new 2) stoppedWhileConnecting = some p ∧
      run (step fun _ => .inboundOrChannel) p comesToRest = some q ∧ q.tasks 0 = .quit ∧ q.tasks 1 = .quit ∧
      comesToRest.countP Action.own ≤ 9 * p.count + p.state.connections.length + 2 ∧
      (q.Rested ∨ ∃ act, act.due = true ∧ (q.step (fun _ => .inboundOrChannel) act).isSome) := by
  obtain ⟨p, reached, stopping⟩ := run_reaches (P := fun p : Process => p.stop = .stopping)
    (show (run (step fun _ => .inboundOrChannel) (new 2) stoppedWhileConnecting).any _ = true by decide +kernel)
  obtain ⟨q, ran, quit⟩ := run_reaches (P := fun q : Process => q.tasks 0 = .quit ∧ q.tasks 1 = .quit)
    (show (run (step fun _ => .inboundOrChannel) (new 2) (stoppedWhileConnecting ++ comesToRest)).any _ = true by
      decide +kernel)
  obtain ⟨u, first, last⟩ := run_append.mp ran
  obtain rfl : u = p := Option.some.inj (first.symm.trans reached)
  exact ⟨u, q, first, last, quit.1, quit.2, stop_comes_to_rest first stopping last⟩

end Process

end Rstun.Client
