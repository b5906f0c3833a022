import Rstun.Client.Monitor

/-!
# The states of a tunnel

A tunnel is connecting until it is connected, then it may serve, and when its connection is gone it begins
anew. `Reconnecting` is left out only by a client that is stopping, and such a client posts nothing more
for the tunnel.
-/

namespace Rstun.Client
open Transition

/-- From the first attempt to connect until the connection is gone. -/
def Round (events : List TunnelState) : Prop :=
  ∃ attempts, ∃ serving ∈ [[], [TunnelState.tunneling]],
    events = List.replicate (attempts + 1) .connecting ++ .connected :: serving ++ [.reconnecting]

def Lifecycle (events : List TunnelState) : Prop :=
  ∃ rounds : List (List TunnelState), (∀ round ∈ rounds, Round round) ∧ events <+: rounds.flatten

/-- How far the present round has come. -/
inductive Stage where
  | start
  | connecting
  | connected
  | tunneling
  deriving DecidableEq

namespace Stage

def next : Stage → TunnelState → Option Stage
  | start, .connecting | connecting, .connecting => some connecting
  | connecting, .connected => some connected
  | connected, .tunneling => some tunneling
  | connected, .reconnecting | tunneling, .reconnecting => some start
  | _, _ => none

def after (events : List TunnelState) : Option Stage := events.foldlM next start

/-- The events of a round so far. -/
def Current : Stage → List TunnelState → Prop
  | start, events => events = []
  | connecting, events => ∃ attempts, events = List.replicate (attempts + 1) .connecting
  | connected, events => ∃ attempts, events = List.replicate (attempts + 1) .connecting ++ [.connected]
  | tunneling, events => ∃ attempts, events = List.replicate (attempts + 1) .connecting ++ [.connected, .tunneling]

variable {stage stage' : Stage} {event : TunnelState} {events : List TunnelState}

theorem foldlM_split {first last : List TunnelState} (h : (first ++ last).foldlM next stage = some stage') :
    ∃ middle, first.foldlM next stage = some middle ∧ last.foldlM next middle = some stage' := by
  rw [List.foldlM_append] at h
  exact Option.bind_eq_some_iff.mp h

theorem after_append {states : List TunnelState} (h : after events = some stage) :
    after (events ++ states) = states.foldlM next stage := by
  rw [after, List.foldlM_append, ← after, h]
  rfl

theorem after_snoc (h : after (events ++ [event]) = some stage') :
    ∃ stage, after events = some stage ∧ stage.next event = some stage' := by
  obtain ⟨stage, before, last⟩ := foldlM_split h
  exact ⟨stage, before, by simpa using last⟩

/-- An event goes on with the round, or it ends it. -/
theorem current_next (h : stage.next event = some stage') {current : List TunnelState}
    (inv : stage.Current current) :
    stage'.Current (current ++ [event]) ∨ stage'.Current [] ∧ Round (current ++ [event]) := by
  cases stage with
  | start =>
    cases event <;> cases h
    obtain rfl : current = [] := inv
    exact .inl ⟨0, rfl⟩
  | connecting =>
    obtain ⟨attempts, rfl⟩ := inv
    cases event <;> cases h
    · exact .inl ⟨attempts + 1, List.replicate_succ'.symm⟩
    · exact .inl ⟨attempts, rfl⟩
  | connected =>
    obtain ⟨attempts, rfl⟩ := inv
    cases event <;> cases h
    · exact .inl ⟨attempts, List.append_assoc ..⟩
    · exact .inr ⟨rfl, attempts, [], by simp, by simp⟩
  | tunneling =>
    obtain ⟨attempts, rfl⟩ := inv
    cases event <;> cases h
    exact .inr ⟨rfl, attempts, [.tunneling], by simp, by simp⟩

theorem after_rounds (h : after events = some stage) : ∃ (rounds : List (List TunnelState)) (current : List TunnelState),
    (∀ round ∈ rounds, Round round) ∧ stage.Current current ∧ events = rounds.flatten ++ current := by
  induction events using List.reverseRecOn generalizing stage with
  | nil =>
    obtain rfl : start = stage := Option.some.inj h
    exact ⟨[], [], by simp, rfl, rfl⟩
  | append_singleton events event ih =>
    obtain ⟨before, reached, stepped⟩ := after_snoc h
    obtain ⟨rounds, current, complete, inv, rfl⟩ := ih reached
    rcases current_next stepped inv with goes | ⟨ends, round⟩
    · exact ⟨rounds, current ++ [event], complete, goes, List.append_assoc ..⟩
    · refine ⟨rounds ++ [current ++ [event]], [], ?_, ends, by simp⟩
      intro one member
      rcases List.mem_append.mp member with earlier | last
      · exact complete one earlier
      · rwa [List.mem_singleton.mp last]

/-- A round that has begun can be completed. -/
theorem current_completed {current : List TunnelState} (inv : stage.Current current) :
    current = [] ∨ ∃ rest, Round (current ++ rest) := by
  cases stage with
  | start => exact .inl inv
  | connecting =>
    obtain ⟨attempts, rfl⟩ := inv
    exact .inr ⟨[.connected, .reconnecting], attempts, [], by simp, by simp⟩
  | connected =>
    obtain ⟨attempts, rfl⟩ := inv
    exact .inr ⟨[.reconnecting], attempts, [], by simp, by simp⟩
  | tunneling =>
    obtain ⟨attempts, rfl⟩ := inv
    exact .inr ⟨[.reconnecting], attempts, [.tunneling], by simp, by simp⟩

theorem after_lifecycle (h : after events = some stage) : Lifecycle events := by
  obtain ⟨rounds, current, complete, inv, rfl⟩ := after_rounds h
  rcases current_completed inv with rfl | ⟨rest, round⟩
  · exact ⟨rounds, complete, by simp⟩
  · refine ⟨rounds ++ [current ++ rest], ?_, rest, by simp⟩
    intro one member
    rcases List.mem_append.mp member with earlier | last
    · exact complete one earlier
    · rwa [List.mem_singleton.mp last]

/-- `Tunneling` comes right after a `Connected`. -/
theorem connected_before_tunneling {later : List TunnelState}
    (h : after (events ++ .tunneling :: later) = some stage) :
    ∃ earlier, events = earlier ++ [.connected] := by
  obtain ⟨before, reached, last⟩ := foldlM_split h
  obtain ⟨_, tunnels, _⟩ := Option.bind_eq_some_iff.mp last
  obtain rfl : before = connected := by
    cases before <;> first | rfl | cases tunnels
  rcases List.eq_nil_or_concat' events with rfl | ⟨earlier, event, rfl⟩
  · cases reached
  · obtain ⟨stage, _, stepped⟩ := after_snoc reached
    refine ⟨earlier, ?_⟩
    cases stage <;> cases event <;> first | rfl | cases stepped

theorem not_connected_again {states : List TunnelState} (up : stage = connected ∨ stage = tunneling)
    (h : states.foldlM next stage = some stage') (none : TunnelState.reconnecting ∉ states) :
    TunnelState.connected ∉ states := by
  induction states generalizing stage with
  | nil => exact List.not_mem_nil
  | cons event rest ih =>
    obtain ⟨after, stepped, tail⟩ := Option.bind_eq_some_iff.mp h
    have up' : event = .tunneling ∧ after = .tunneling := by
      rcases up with rfl | rfl <;> cases event <;> simp_all [next]
    obtain ⟨rfl, rfl⟩ := up'
    have later := ih (.inr rfl) tail (List.not_mem_of_not_mem_cons none)
    simpa using later

/-- Between two `Connected` there is a `Reconnecting`. -/
theorem reconnecting_between {between later : List TunnelState}
    (h : after (events ++ .connected :: (between ++ .connected :: later)) = some stage) :
    TunnelState.reconnecting ∈ between := by
  obtain ⟨before, _, tail⟩ := foldlM_split h
  obtain ⟨up, connects, tail⟩ := Option.bind_eq_some_iff.mp tail
  obtain rfl : up = connected := by
    cases before <;> cases connects
    rfl
  rw [List.append_cons] at tail
  obtain ⟨_, again, _⟩ := foldlM_split tail
  by_contra none
  exact not_connected_again (.inl rfl) again (by simpa using none) (by simp)

end Stage

/-! ### The stage of a task -/

/-- What the phase of a task says about the stage of its tunnel. -/
def Fits (quits : Bool) (exit : Exit) : Phase → Stage → Prop
  | .loggingIn _, stage => stage = .connecting
  | .passed _, stage | .registered _, stage | .binding _, stage | .bound _, stage | .taking _, stage =>
    stage = .connected
  | .serving _, stage => stage = .tunneling
  | .leaving _, stage =>
    (exit.isEntered ∨ quits) ∧ (stage = .connected ∨ stage = .tunneling) ∨ exit.isEntered = false ∧ stage = .start
  | .removed, stage => quits ∧ (stage = .connected ∨ stage = .tunneling) ∨ stage = .start
  | .quit, _ => True
  | .preparing, stage | .mismatch _ _, stage | .creating _, stage | .created _, stage | .failed, stage
  | .clearing, stage | .retrying, stage => stage = .start ∨ stage = .connecting

section Task

variable {kind : TunnelKind} {s s' : State} {phase phase' : Phase} {act : TaskAction} {exit : Exit} {stage : Stage}
  {quits : Bool}

theorem Fits.stopping (fits : Fits quits exit phase stage) : Fits true exit phase stage := by
  cases phase <;> simp_all [Fits]
  all_goals tauto

/-- The stage is one in which the states can be posted, and then the phase fits. -/
def Goes (quits : Bool) (phase : Phase) (stage : Stage) (states : List TunnelState) : Prop :=
  ∃ stage', states.foldlM Stage.next stage = some stage' ∧ Fits quits .entered phase stage'

theorem goes_nil (fits : Fits quits .entered phase stage) : Goes quits phase stage [] := ⟨stage, rfl, fits⟩

theorem goes_loggingIn {endpoint : Nat} (fits : stage = .start ∨ stage = .connecting) :
    Goes quits (.loggingIn endpoint) stage [.connecting] := by
  rcases fits with rfl | rfl <;> exact ⟨.connecting, rfl, rfl⟩

theorem goes_serving {conn : Nat} (fits : stage = .connected) : Goes quits (.serving conn) stage [.tunneling] := by
  subst fits
  exact ⟨.tunneling, rfl, rfl⟩

theorem goes_leaving {conn : Nat} (fits : stage = .connected ∨ stage = .tunneling) :
    Goes quits (.leaving conn) stage [] := goes_nil (.inl ⟨.inl rfl, fits⟩)

theorem step_goes (h : phase.step kind s act = some (s', phase')) (fits : Fits s.shouldQuit exit phase stage)
    (counted : act = .remove → exit.isCounted = true) : Goes s'.shouldQuit phase' stage (posts phase' act) := by
  unfold Phase.step at h
  split at h
  · cases h
    exact goes_nil fits
  · split at h
    · split at h <;> cases h
      · exact goes_loggingIn fits
      · exact goes_nil fits
    · cases h
      exact goes_nil fits
  · rcases s.clearCachedEndpointIfIdle_spec with kept | ⟨_, dropped⟩
    · rw [kept] at h
      cases h
      exact goes_loggingIn fits
    · rw [dropped] at h
      cases h
      exact goes_nil fits
  · cases h
    exact goes_nil fits
  · cases h
    exact goes_nil fits
  · cases h
    exact goes_loggingIn fits
  · cases h
    exact goes_nil (.inr fits)
  · cases h
    obtain rfl : stage = .connecting := fits
    cases s.shouldQuit <;> exact ⟨.connected, rfl, by trivial⟩
  · cases h
    cases s.shouldQuit <;> exact goes_nil fits
  · cases h
    rcases s.clearCachedEndpointIfIdle_spec with kept | ⟨_, dropped⟩
    · rw [kept]
      exact goes_nil fits
    · rw [dropped]
      exact goes_nil fits
  · cases h
    cases s.shouldQuit
    · exact goes_nil fits
    · exact goes_nil trivial
  · cases h
    exact goes_nil fits
  · cases h
    cases kind with
    | inboundOrChannel => exact goes_serving fits
    | outboundTcp addr =>
      unfold Rstun.Client.findServer
      dsimp only
      split <;> exact goes_nil fits
    | outboundUdp addr =>
      unfold Rstun.Client.findServer
      dsimp only
      split
      · exact goes_serving fits
      · exact goes_nil fits
  · cases h
    exact goes_nil fits
  · cases h
    cases kind with
    | inboundOrChannel | outboundUdp _ => exact goes_serving fits
    | outboundTcp addr => exact goes_nil fits
  · cases h
    exact goes_serving fits
  iterate 3
    · cases h
      exact goes_leaving (.inl fits)
  · cases h
    exact goes_leaving (.inr fits)
  iterate 3
    · split at h <;> cases h
      exact goes_leaving (.inl fits)
  · split at h <;> cases h
    exact goes_leaving (.inr fits)
  · cases h
    -- The connection is removed by a task that has announced its loss, or that has found the client stopping.
    have announced : exit.isEntered = false := by
      have := counted rfl
      cases exit <;> first | rfl | cases this
    refine goes_nil ?_
    rcases fits with ⟨entered | quits, up⟩ | ⟨_, ended⟩
    · cases announced.symm.trans entered
    · exact .inl ⟨quits, up⟩
    · exact .inr ended
  · cases h
    cases quits : s.shouldQuit
    · rcases fits with ⟨stopping, _⟩ | ended
      · cases quits.symm.trans stopping
      · exact goes_nil (.inl ended)
    · exact goes_nil trivial
  · cases h

theorem step_shouldQuit (h : phase.step kind s act = some (s', phase')) : s'.shouldQuit = s.shouldQuit := by
  cases Phase.step_moves h <;> rfl

end Task

namespace Monitor

/-- The states that have been posted for a tunnel go with the phase of its task. -/
def Tells (m : Monitor) (tid : Nat) : Prop :=
  ∃ stage, Stage.after (m.events tid) = some stage ∧
    Fits m.process.state.shouldQuit (m.exit tid) (m.process.tasks tid) stage

variable {kinds : Nat → TunnelKind} {m n : Monitor} {act : MonitorAction} {acts : List MonitorAction} {count tid : Nat}

theorem tells_after {stage : Stage} {states : List TunnelState} (reached : Stage.after (m.events tid) = some stage)
    (events : n.events tid = m.events tid ++ states)
    (goes : ∃ stage', states.foldlM Stage.next stage = some stage' ∧
      Fits n.process.state.shouldQuit (n.exit tid) (n.process.tasks tid) stage') : n.Tells tid := by
  obtain ⟨stage', posted, fits⟩ := goes
  refine ⟨stage', ?_, fits⟩
  rw [events, Stage.after_append reached, posted]

/-- A task that does nothing itself. -/
theorem Tells.idle (inv : m.Tells tid) (events : n.events tid = m.events tid) (exit : n.exit tid = m.exit tid)
    (tasks : n.process.tasks tid = m.process.tasks tid)
    (quits : n.process.state.shouldQuit = m.process.state.shouldQuit ∨ n.process.state.shouldQuit = true) :
    n.Tells tid := by
  obtain ⟨stage, reached, fits⟩ := inv
  rw [Tells, events, exit, tasks]
  rcases quits with same | stopping
  · exact ⟨stage, reached, same ▸ fits⟩
  · exact ⟨stage, reached, stopping ▸ fits.stopping⟩

theorem step_tells (inv : ∀ tid, m.Tells tid) (h : m.step kinds act = some n) : ∀ tid, n.Tells tid := by
  intro other
  obtain ⟨stage, reached, fits⟩ := inv other
  cases step_spec h with
  | @task tid task state phase member counted stepped =>
    by_cases same : other = tid
    · subst same
      refine tells_after reached (Function.update_self ..) ?_
      simp only [afterTask, Function.update_self]
      exact step_goes stepped fits counted
    · exact (inv other).idle (Function.update_of_ne same ..) (Function.update_of_ne same ..)
        (Function.update_of_ne same ..) (.inl (step_shouldQuit stepped))
  | outside stepped outside =>
    have same := Process.step_outside stepped outside
    exact (inv other).idle rfl rfl (congrFun same.tasks other) same.quits
  | @announced tid conn leaving entered =>
    by_cases same : other = tid
    · subst same
      refine tells_after reached (Function.update_self ..) ?_
      simp only [leaving, entered, Function.update_self] at fits ⊢
      rcases fits with ⟨_, up⟩ | ⟨announced, _⟩
      · cases quits : m.process.state.shouldQuit
        · refine ⟨.start, ?_, .inr ⟨rfl, rfl⟩⟩
          rcases up with rfl | rfl <;> rfl
        · exact ⟨stage, rfl, .inl ⟨.inr rfl, up⟩⟩
      · cases announced
    · exact (inv other).idle (Function.update_of_ne same ..) (Function.update_of_ne same ..) rfl (.inl rfl)
  | @read tid conn leaving announced =>
    by_cases same : other = tid
    · subst same
      refine ⟨stage, reached, ?_⟩
      simp only [leaving, announced, Function.update_self] at fits ⊢
      exact fits
    · exact (inv other).idle rfl (Function.update_of_ne same ..) rfl (.inl rfl)
  | @added tid conn stats leaving read =>
    by_cases same : other = tid
    · subst same
      refine ⟨stage, reached, ?_⟩
      simp only [leaving, read, Function.update_self] at fits ⊢
      exact fits
    · exact (inv other).idle rfl (Function.update_of_ne same ..) rfl (.inl rfl)
  | grown | ticked => exact inv other

theorem run_tells (h : run (step kinds) (new count) acts = some m) : ∀ tid, m.Tells tid :=
  run_invariant (I := fun m => ∀ tid, m.Tells tid) (fun _ _ _ => step_tells)
    (fun _ => ⟨.start, rfl, .inl rfl⟩) h

/-- The states posted for a tunnel are the beginning of a sequence of rounds. -/
theorem events_lifecycle (h : run (step kinds) (new count) acts = some m) (tid : Nat) :
    Lifecycle (m.events tid) ∧
    (∀ before later, m.events tid = before ++ .tunneling :: later →
      ∃ earlier, before = earlier ++ [.connected]) ∧
    ∀ before between later, m.events tid = before ++ .connected :: between ++ .connected :: later →
      TunnelState.reconnecting ∈ between := by
  obtain ⟨stage, reached, _⟩ := run_tells h tid
  refine ⟨Stage.after_lifecycle reached, ?_, ?_⟩
  · intro before later split
    rw [split] at reached
    exact Stage.connected_before_tunneling reached
  · intro before between later split
    rw [split, List.append_assoc] at reached
    exact Stage.reconnecting_between reached

/-- A tunnel is served and loses its connection, and the next attempt to log in fails. The client is
stopped while it tries again. -/
def reconnects : List MonitorAction :=
  [.process (.task 0 (.lookup false true)), .process (.task 0 .create), .process (.task 0 .store),
   .process (.task 0 .loginOk), .process (.task 0 .register), .process (.task 0 .findServer),
   .process (.connLost 0), .process (.task 0 .connClosed), .announce 0, .readStats 0, .addStats 0,
   .process (.task 0 .remove), .process (.task 0 .recheck), .process (.task 0 (.lookup false true)),
   .process (.task 0 .loginFails), .process (.task 0 .inspect), .process (.task 0 .clear),
   .process (.task 0 .retry), .process (.task 0 (.lookup false true)), .process (.task 0 .create),
   .process (.task 0 .store), .process .stop, .process (.task 0 .loginOk)]

theorem events_lifecycle_reconnects :
    ∃ m, run (step fun _ => .inboundOrChannel) (new 1) reconnects = some m ∧
      m.events 0 = [.connecting, .connected, .tunneling, .reconnecting, .connecting, .connecting, .connected] ∧
      Lifecycle (m.events 0) := by
  obtain ⟨m, ran, posted⟩ := run_reaches
    (P := fun m : Monitor => m.events 0 =
      [.connecting, .connected, .tunneling, .reconnecting, .connecting, .connecting, .connected])
    (show (run (step fun _ => .inboundOrChannel) (new 1) reconnects).any _ = true by decide +kernel)
  exact ⟨m, ran, posted, (events_lifecycle ran 0).1⟩

end Monitor

end Rstun.Client
