import Mathlib.Data.List.Infix
import Rstun.Base.Run
import Rstun.Tunnel.Receivers

/-!
# The listener of an inbound TCP tunnel

On the server, an inbound tunnel has a listener of its own. The accept loop of `TcpServer` hands the
connections to `start_serving` through a channel of four places. When the connection of the client has been
closed, `clear_expired_sessions` sends `Quit` through the same channel, `start_serving` returns, and
`shutdown` wakes the accept loop up with a connection of its own. `ρ` is the type of the connections.
-/

namespace Rstun.Tunnel

variable {ρ : Type}

inductive StreamMessage (ρ : Type) where
  | request (stream : ρ)
  | quit
  deriving DecidableEq

def StreamMessage.stream? : StreamMessage ρ → Option ρ
  | request stream => some stream
  | quit => none

/-- The first half of `shutdown`. The other half is a connection to the listener. -/
def TcpServer.terminate (server : TcpServer ρ) : TcpServer ρ := { server with terminated := true }

end Rstun.Tunnel

namespace Rstun.Control
open Transition Rstun.Tunnel

variable {ρ : Type}

/-- Where the accept loop stands. It sends a connection on, or `Quit`. -/
inductive AcceptLoop (ρ : Type) where
  | accepting
  | forwarding (stream : ρ)
  | quitting
  | stopped
  deriving DecidableEq

/-- Where the task of the tunnel in `serve` stands: before the session is pushed, before the receiver is
taken, in `start_serving` at `recv` or at `open_bi`, and in `shutdown` before and after its first half. -/
inductive ServeTask (ρ : Type) where
  | pushing
  | taking
  | receiving
  | opening (stream : ρ)
  | terminating
  | waking
  | done
  deriving DecidableEq

def channelSize : Nat := 4

/-- `backlog` are the connections that the listener has not yet accepted, and `alive` says that the receiver
has not been dropped. `session` says that `tcp_sessions` has an entry for the tunnel, and `quitters` is the
number of tasks that send `Quit` for it. `closed` is the `close_reason` of the client's connection. The
last four fields are for the record: the connections that have reached the listener, those that
`start_serving` has taken from the channel and has opened a stream for, and whether `shutdown` got through to
the listener. -/
structure TcpIn (ρ : Type) where
  server : TcpServer Unit
  queue : List (StreamMessage ρ)
  alive : Bool
  loop : AcceptLoop ρ
  backlog : List ρ
  task : ServeTask ρ
  session : Bool
  quitters : Nat
  closed : Bool
  arrived : List ρ
  received : List ρ
  started : List ρ
  woken : Bool
  deriving DecidableEq

inductive TcpInAction (ρ : Type) where
  | arrive (stream : ρ)
  | accept
  | acceptFails
  | forward
  | forwardTimesOut
  | loopQuits
  | close
  | sweep
  | sendQuit
  | push
  | take
  | recv
  | openBi (ok : Bool)
  | terminate
  | connect (stream : ρ)
  | connectFails
  deriving DecidableEq

namespace TcpIn

def new : TcpIn ρ where
  server := .bindAndStart ()
  queue := []
  alive := true
  loop := .accepting
  backlog := []
  task := .pushing
  session := false
  quitters := 0
  closed := false
  arrived := []
  received := []
  started := []
  woken := false

/-- There is room in the channel. -/
def room (s : TcpIn ρ) : Bool := s.queue.length < channelSize

def accept (s : TcpIn ρ) : Option (TcpIn ρ) :=
  match s.loop, s.backlog with
  | .accepting, stream :: rest =>
    match s.server.onAccept with
    | .quit => some { s with backlog := rest, loop := .quitting }
    | .drop => some { s with backlog := rest }
    | .forward => some { s with backlog := rest, loop := .forwarding stream }
  | _, _ => none

/-- The end of the accept loop, which drops the listener with the connections that it has not accepted. -/
def stop (s : TcpIn ρ) : TcpIn ρ := { s with loop := .stopped, backlog := [] }

/-- The end of `send_timeout`, unless the time runs out. -/
def forward (s : TcpIn ρ) : Option (TcpIn ρ) :=
  match s.loop with
  | .forwarding stream =>
    if !s.alive then some s.stop
    else if s.room then some { s with queue := s.queue ++ [.request stream], loop := .accepting }
    else none
  | _ => none

def forwardTimesOut (s : TcpIn ρ) : Option (TcpIn ρ) :=
  match s.loop with
  | .forwarding _ => if s.alive ∧ !s.room then some { s with loop := .accepting } else none
  | _ => none

def loopQuits (s : TcpIn ρ) : Option (TcpIn ρ) :=
  match s.loop with
  | .quitting =>
    if !s.alive then some s.stop
    else if s.room then some { s.stop with queue := s.queue ++ [.quit] }
    else none
  | _ => none

/-- `clear_expired_sessions`. -/
def sweep (s : TcpIn ρ) : Option (TcpIn ρ) :=
  if s.closed ∧ s.session then some { s with session := false, quitters := s.quitters + 1 } else none

def sendQuit (s : TcpIn ρ) : Option (TcpIn ρ) :=
  match s.quitters with
  | quitters + 1 =>
    if !s.alive then some { s with quitters := quitters }
    else if s.room then some { s with quitters := quitters, queue := s.queue ++ [.quit] }
    else none
  | 0 => none

/-- The end of `start_serving`, which drops the receiver. -/
def leave (s : TcpIn ρ) : TcpIn ρ := { s with task := .terminating, alive := false, queue := [] }

def take (s : TcpIn ρ) : Option (TcpIn ρ) :=
  match s.task with
  | .taking => match s.server.takeReceiver with
    | (.ok _, server) => some { s with server := server, task := .receiving }
    | (.error _, server) => some { s with server := server, task := .done }
  | _ => none

def recv (s : TcpIn ρ) : Option (TcpIn ρ) :=
  match s.task, s.queue with
  | .receiving, .request stream :: rest =>
    some { s with queue := rest, task := .opening stream, received := s.received ++ [stream] }
  | .receiving, .quit :: _ => some s.leave
  | _, _ => none

/-- An inbound tunnel sends no target, so that there is nothing to be written. -/
def openBi (s : TcpIn ρ) (ok : Bool) : Option (TcpIn ρ) :=
  match s.task with
  | .opening stream =>
    if ok then
      if s.closed then none else some { s with task := .receiving, started := s.started ++ [stream] }
    else some s.leave
  | _ => none

def arrive (s : TcpIn ρ) (stream : ρ) : Option (TcpIn ρ) :=
  match s.loop with
  | .stopped => none
  | _ => some { s with backlog := s.backlog ++ [stream], arrived := s.arrived ++ [stream] }

/-- A listener that has been closed refuses the connection, which makes no difference to the task. -/
def connect (s : TcpIn ρ) (stream : ρ) : Option (TcpIn ρ) :=
  match s.task with
  | .waking => match s.arrive stream with
    | some s => some { s with woken := true, task := .done }
    | none => some { s with task := .done }
  | _ => none

def step (s : TcpIn ρ) : TcpInAction ρ → Option (TcpIn ρ)
  | .arrive stream => s.arrive stream
  | .accept => s.accept
  | .acceptFails => match s.loop with
    | .accepting => some s
    | _ => none
  | .forward => s.forward
  | .forwardTimesOut => s.forwardTimesOut
  | .loopQuits => s.loopQuits
  | .close => some { s with closed := true }
  | .sweep => s.sweep
  | .sendQuit => s.sendQuit
  | .push => match s.task with
    | .pushing => some { s with session := true, task := .taking }
    | _ => none
  | .take => s.take
  | .recv => s.recv
  | .openBi ok => s.openBi ok
  | .terminate => match s.task with
    | .terminating => some { s with server := s.server.terminate, task := .waking }
    | _ => none
  | .connect stream => s.connect stream
  | .connectFails => match s.task with
    | .waking => some { s with task := .done }
    | _ => none

/-! ### What a step can do -/

inductive Step (s : TcpIn ρ) : TcpInAction ρ → TcpIn ρ → Prop
  | arrive {stream} (running : s.loop ≠ .stopped) :
      Step s (.arrive stream) { s with backlog := s.backlog ++ [stream], arrived := s.arrived ++ [stream] }
  | acceptQuit {stream rest} (loop : s.loop = .accepting) (waiting : s.backlog = stream :: rest)
      (terminated : s.server.terminated = true) : Step s .accept { s with backlog := rest, loop := .quitting }
  | acceptDrop {stream rest} (loop : s.loop = .accepting) (waiting : s.backlog = stream :: rest)
      (running : s.server.terminated = false) (inactive : s.server.active = false) :
      Step s .accept { s with backlog := rest }
  | acceptForward {stream rest} (loop : s.loop = .accepting) (waiting : s.backlog = stream :: rest)
      (running : s.server.terminated = false) (active : s.server.active = true) :
      Step s .accept { s with backlog := rest, loop := .forwarding stream }
  | acceptFails (loop : s.loop = .accepting) : Step s .acceptFails s
  | forwardStops {stream} (loop : s.loop = .forwarding stream) (dropped : s.alive = false) :
      Step s .forward s.stop
  | forward {stream} (loop : s.loop = .forwarding stream) (alive : s.alive = true)
      (room : s.queue.length < channelSize) :
      Step s .forward { s with queue := s.queue ++ [.request stream], loop := .accepting }
  | forwardTimesOut {stream} (loop : s.loop = .forwarding stream) (alive : s.alive = true)
      (full : ¬ s.queue.length < channelSize) : Step s .forwardTimesOut { s with loop := .accepting }
  | quitStops (loop : s.loop = .quitting) (dropped : s.alive = false) : Step s .loopQuits s.stop
  | quitSends (loop : s.loop = .quitting) (alive : s.alive = true) (room : s.queue.length < channelSize) :
      Step s .loopQuits { s.stop with queue := s.queue ++ [.quit] }
  | close : Step s .close { s with closed := true }
  | sweep (closed : s.closed = true) (session : s.session = true) :
      Step s .sweep { s with session := false, quitters := s.quitters + 1 }
  | quitLost {quitters} (waiting : s.quitters = quitters + 1) (dropped : s.alive = false) :
      Step s .sendQuit { s with quitters := quitters }
  | sendQuit {quitters} (waiting : s.quitters = quitters + 1) (alive : s.alive = true)
      (room : s.queue.length < channelSize) :
      Step s .sendQuit { s with quitters := quitters, queue := s.queue ++ [.quit] }
  | push (task : s.task = .pushing) : Step s .push { s with session := true, task := .taking }
  | take (task : s.task = .taking) (present : s.server.tcpReceiver = some ()) :
      Step s .take { s with server := ⟨none, true, s.server.terminated⟩, task := .receiving }
  | takeFails (task : s.task = .taking) (absent : s.server.tcpReceiver = none) :
      Step s .take { s with server := ⟨none, false, s.server.terminated⟩, task := .done }
  | request {stream rest} (task : s.task = .receiving) (queue : s.queue = .request stream :: rest) :
      Step s .recv { s with queue := rest, task := .opening stream, received := s.received ++ [stream] }
  | quit {rest} (task : s.task = .receiving) (queue : s.queue = .quit :: rest) : Step s .recv s.leave
  | opened {stream} (task : s.task = .opening stream) (present : s.closed = false) :
      Step s (.openBi true) { s with task := .receiving, started := s.started ++ [stream] }
  | openFails {stream} (task : s.task = .opening stream) : Step s (.openBi false) s.leave
  | terminate (task : s.task = .terminating) :
      Step s .terminate { s with server := s.server.terminate, task := .waking }
  | connect {stream} (task : s.task = .waking) (running : s.loop ≠ .stopped) :
      Step s (.connect stream)
        { s with
          backlog := s.backlog ++ [stream]
          arrived := s.arrived ++ [stream]
          woken := true
          task := .done }
  | connectRefused {stream} (task : s.task = .waking) (stopped : s.loop = .stopped) :
      Step s (.connect stream) { s with task := .done }
  | connectFails (task : s.task = .waking) : Step s .connectFails { s with task := .done }

variable {s t : TcpIn ρ} {act : TcpInAction ρ}

theorem accept_spec (h : s.accept = some t) : Step s .accept t := by
  unfold accept at h
  split at h
  · rename_i stream rest loop waiting
    unfold TcpServer.onAccept at h
    by_cases terminated : s.server.terminated = true
    · simp only [terminated, if_true, Option.some.injEq] at h
      subst h
      exact .acceptQuit loop waiting terminated
    · have running := eq_false_of_ne_true terminated
      by_cases active : s.server.active = true
      · simp only [running, active, Bool.false_eq_true, if_false, Bool.not_true, Option.some.injEq] at h
        subst h
        exact .acceptForward loop waiting running active
      · have inactive := eq_false_of_ne_true active
        simp only [running, inactive, Bool.false_eq_true, if_false, Bool.not_false, if_true,
          Option.some.injEq] at h
        subst h
        exact .acceptDrop loop waiting running inactive
  · cases h

theorem forward_spec (h : s.forward = some t) : Step s .forward t := by
  unfold forward at h
  split at h
  · rename_i stream loop
    split at h
    · rename_i dropped
      cases h
      exact .forwardStops loop (by simpa using dropped)
    · rename_i alive
      split at h
      · rename_i fits
        cases h
        exact .forward loop (by simpa using alive) (of_decide_eq_true fits)
      · cases h
  · cases h

theorem forwardTimesOut_spec (h : s.forwardTimesOut = some t) : Step s .forwardTimesOut t := by
  unfold forwardTimesOut at h
  split at h
  · rename_i stream loop
    split at h
    · rename_i guard
      cases h
      exact .forwardTimesOut loop guard.1 (by simpa [room] using guard.2)
    · cases h
  · cases h

theorem loopQuits_spec (h : s.loopQuits = some t) : Step s .loopQuits t := by
  unfold loopQuits at h
  split at h
  · rename_i loop
    split at h
    · rename_i dropped
      cases h
      exact .quitStops loop (by simpa using dropped)
    · rename_i alive
      split at h
      · rename_i fits
        cases h
        exact .quitSends loop (by simpa using alive) (of_decide_eq_true fits)
      · cases h
  · cases h

theorem sendQuit_spec (h : s.sendQuit = some t) : Step s .sendQuit t := by
  unfold sendQuit at h
  split at h
  · rename_i quitters waiting
    split at h
    · rename_i dropped
      cases h
      exact .quitLost waiting (by simpa using dropped)
    · rename_i alive
      split at h
      · rename_i fits
        cases h
        exact .sendQuit waiting (by simpa using alive) (of_decide_eq_true fits)
      · cases h
  · cases h

theorem take_spec (h : s.take = some t) : Step s .take t := by
  unfold take at h
  split at h
  · rename_i task
    unfold TcpServer.takeReceiver at h
    dsimp only at h
    cases receiver : s.server.tcpReceiver with
    | none =>
      rw [receiver] at h
      cases h
      exact .takeFails task receiver
    | some receiver' =>
      rw [receiver] at h
      cases h
      exact .take task receiver
  · cases h

theorem recv_spec (h : s.recv = some t) : Step s .recv t := by
  unfold recv at h
  split at h
  · rename_i stream rest task queue
    cases h
    exact .request task queue
  · rename_i rest task queue
    cases h
    exact .quit task queue
  · cases h

theorem openBi_spec {ok : Bool} (h : s.openBi ok = some t) : Step s (.openBi ok) t := by
  unfold openBi at h
  split at h
  · rename_i stream task
    cases ok with
    | true =>
      simp only [if_true, Option.ite_none_left_eq_some, Option.some.injEq] at h
      obtain ⟨present, rfl⟩ := h
      exact .opened task (eq_false_of_ne_true present)
    | false =>
      cases h
      exact .openFails task
  · cases h

theorem arrive_spec {stream : ρ} (h : s.arrive stream = some t) :
    s.loop ≠ .stopped ∧ t = { s with backlog := s.backlog ++ [stream], arrived := s.arrived ++ [stream] } := by
  unfold arrive at h
  split at h
  · cases h
  · rename_i running
    exact ⟨running, (Option.some.inj h).symm⟩

theorem arrive_none {stream : ρ} (h : s.arrive stream = none) : s.loop = .stopped := by
  unfold arrive at h
  split at h
  · assumption
  · cases h

theorem step_spec (h : s.step act = some t) : Step s act t := by
  cases act with
  | arrive stream =>
    obtain ⟨running, rfl⟩ := arrive_spec h
    exact .arrive running
  | accept => exact accept_spec h
  | acceptFails =>
    simp only [step] at h
    split at h <;> cases h
    rename_i loop
    exact .acceptFails loop
  | forward => exact forward_spec h
  | forwardTimesOut => exact forwardTimesOut_spec h
  | loopQuits => exact loopQuits_spec h
  | close =>
    cases h
    exact .close
  | sweep =>
    simp only [step, sweep, Option.ite_none_right_eq_some, Option.some.injEq] at h
    obtain ⟨⟨closed, session⟩, rfl⟩ := h
    exact .sweep closed session
  | sendQuit => exact sendQuit_spec h
  | push =>
    simp only [step] at h
    split at h <;> cases h
    rename_i task
    exact .push task
  | take => exact take_spec h
  | recv => exact recv_spec h
  | openBi ok => exact openBi_spec h
  | terminate =>
    simp only [step] at h
    split at h <;> cases h
    rename_i task
    exact .terminate task
  | connect stream =>
    simp only [step, connect] at h
    split at h
    case h_2 => cases h
    rename_i task
    cases arrived : s.arrive stream with
    | some u =>
      obtain ⟨running, rfl⟩ := arrive_spec arrived
      rw [arrived] at h
      cases h
      exact .connect task running
    | none =>
      rw [arrived] at h
      cases h
      exact .connectRefused task (arrive_none arrived)
  | connectFails =>
    simp only [step] at h
    split at h <;> cases h
    rename_i task
    exact .connectFails task

/-! ### The session is not forgotten -/

/-- A `Quit` is in the channel, is about to be sent or will be. -/
def Recalled (s : TcpIn ρ) : Prop := s.session = true ∨ 0 < s.quitters ∨ .quit ∈ s.queue

/-- The state of the receiver and of the server at each stage of the task. -/
def Stage (s : TcpIn ρ) : Prop :=
  match s.task with
  | .pushing => s.alive = true ∧ s.server = ⟨some (), false, false⟩
  | .taking => s.alive = true ∧ s.server = ⟨some (), false, false⟩ ∧ s.Recalled
  | .receiving | .opening _ => s.alive = true ∧ s.server = ⟨none, true, false⟩ ∧ s.Recalled
  | .terminating => s.alive = false ∧ s.server = ⟨none, true, false⟩
  | .waking | .done => s.alive = false ∧ s.server = ⟨none, true, true⟩

/-- The accept loop stops only when the tunnel is over, and is woken up then. Nothing waits for it after that. -/
def Looping (s : TcpIn ρ) : Prop :=
  match s.loop with
  | .accepting => s.task = .done → s.woken = true → s.backlog ≠ []
  | .forwarding _ => True
  | .quitting => s.server.terminated = true
  | .stopped => s.alive = false ∧ s.backlog = []

structure Held (s : TcpIn ρ) : Prop where
  stage : s.Stage
  looping : s.Looping
  woken : s.woken = true → s.task = .done

theorem held_new : (new : TcpIn ρ).Held :=
  ⟨⟨rfl, rfl⟩, fun task => (by cases task), fun woken => (by cases woken)⟩

theorem Stage.terminated (stage : s.Stage) :
    (s.server.terminated = true → s.alive = false ∧ (s.task = .waking ∨ s.task = .done)) ∧
    (s.task = .done → s.server.terminated = true) := by
  unfold Stage at stage
  split at stage
  all_goals simp_all

/-- A step that leaves the task where it is has to take care of the session only. -/
theorem Stage.of_recalled (stage : s.Stage) (task : t.task = s.task) (alive : t.alive = s.alive)
    (server : t.server = s.server) (recalled : s.alive = true → s.Recalled → t.Recalled) : t.Stage := by
  unfold Stage at stage ⊢
  rw [task, alive, server]
  split at stage
  · exact stage
  · exact ⟨stage.1, stage.2.1, recalled stage.1 stage.2.2⟩
  · exact ⟨stage.1, stage.2.1, recalled stage.1 stage.2.2⟩
  · exact ⟨stage.1, stage.2.1, recalled stage.1 stage.2.2⟩
  · exact stage
  · exact stage
  · exact stage

/-- A step of the task or of the session leaves the accept loop as it is. -/
theorem Looping.of_task (looping : s.Looping) (loop : t.loop = s.loop) (backlog : t.backlog = s.backlog)
    (woken : t.woken = true → t.task = .done → s.woken = true ∧ s.task = .done)
    (terminated : s.server.terminated = true → t.server.terminated = true)
    (dropped : s.alive = false → t.alive = false) : t.Looping := by
  unfold Looping at looping ⊢
  rw [loop, backlog]
  split at looping
  · intro task woke
    obtain ⟨woke', task'⟩ := woken woke task
    exact looping task' woke'
  · trivial
  · exact terminated looping
  · exact ⟨dropped looping.1, looping.2⟩

theorem Stage.leave (stage : s.Stage) (serving : s.task = .receiving ∨ ∃ stream, s.task = .opening stream) :
    s.leave.Stage := by
  unfold Stage at stage
  rcases serving with task | ⟨stream, task⟩ <;> rw [task] at stage <;> exact ⟨rfl, stage.2.1⟩

theorem step_held (held : s.Held) (h : Step s act t) : t.Held := by
  obtain ⟨stage, looping, early⟩ := held
  obtain ⟨terminated, finished⟩ := stage.terminated
  have unwoken : s.task ≠ .done → s.woken ≠ true := fun task woken => task (early woken)
  cases h with
  | arrive _ =>
    refine ⟨stage, ?_, early⟩
    unfold Looping at looping ⊢
    dsimp only
    split <;> simp_all
  | acceptQuit loop waiting terminated => exact ⟨stage, terminated, early⟩
  | acceptDrop loop waiting running _ =>
    refine ⟨stage, ?_, early⟩
    simp only [Looping, loop]
    intro task
    rw [finished task] at running
    cases running
  | acceptForward loop waiting _ _ => exact ⟨stage, trivial, early⟩
  | acceptFails _ => exact ⟨stage, looping, early⟩
  | forwardStops _ dropped | quitStops _ dropped => exact ⟨stage, ⟨dropped, rfl⟩, early⟩
  | forward _ alive _ =>
    refine ⟨stage.of_recalled rfl rfl rfl fun _ recalled => ?_, fun task => ?_, early⟩
    · simpa [Recalled] using recalled
    · rw [(terminated (finished task)).1] at alive
      cases alive
  | forwardTimesOut _ alive _ =>
    refine ⟨stage, fun task => ?_, early⟩
    rw [(terminated (finished task)).1] at alive
    cases alive
  | quitSends loop alive _ =>
    simp only [Looping, loop] at looping
    rw [(terminated looping).1] at alive
    cases alive
  | close => exact ⟨stage, looping, early⟩
  | sweep _ _ =>
    exact ⟨stage.of_recalled rfl rfl rfl fun _ _ => .inr (.inl (Nat.succ_pos _)), looping, early⟩
  | quitLost _ dropped =>
    refine ⟨stage.of_recalled rfl rfl rfl fun alive => ?_, looping, early⟩
    rw [dropped] at alive
    cases alive
  | sendQuit _ _ _ =>
    exact ⟨stage.of_recalled rfl rfl rfl fun _ _ => .inr (.inr (by simp)), looping, early⟩
  | push task =>
    have before := unwoken (by simp [task])
    simp only [Stage, task] at stage
    exact ⟨⟨stage.1, stage.2, .inl rfl⟩, looping.of_task rfl rfl (fun woken => absurd woken before) id id,
      fun woken => absurd woken before⟩
  | take task _ =>
    have before := unwoken (by simp [task])
    simp only [Stage, task] at stage
    refine ⟨⟨stage.1, ?_, stage.2.2⟩, looping.of_task rfl rfl (fun woken => absurd woken before) id id,
      fun woken => absurd woken before⟩
    simp [stage.2.1]
  | takeFails task absent =>
    simp only [Stage, task] at stage
    rw [stage.2.1] at absent
    cases absent
  | request task queue =>
    have before := unwoken (by simp [task])
    simp only [Stage, task] at stage
    refine ⟨⟨stage.1, stage.2.1, ?_⟩, looping.of_task rfl rfl (fun woken => absurd woken before) id id,
      fun woken => absurd woken before⟩
    simpa [Recalled, queue] using stage.2.2
  | quit task _ =>
    have before := unwoken (by simp [task])
    exact ⟨stage.leave (.inl task), looping.of_task rfl rfl (fun woken => absurd woken before) id fun _ => rfl,
      fun woken => absurd woken before⟩
  | opened task _ =>
    have before := unwoken (by simp [task])
    simp only [Stage, task] at stage
    exact ⟨stage, looping.of_task rfl rfl (fun woken => absurd woken before) id id, fun woken => absurd woken before⟩
  | openFails task =>
    have before := unwoken (by simp [task])
    exact ⟨stage.leave (.inr ⟨_, task⟩), looping.of_task rfl rfl (fun woken => absurd woken before) id fun _ => rfl,
      fun woken => absurd woken before⟩
  | terminate task =>
    have before := unwoken (by simp [task])
    simp only [Stage, task] at stage
    refine ⟨⟨stage.1, ?_⟩, looping.of_task rfl rfl (fun woken => absurd woken before) (fun _ => rfl) id,
      fun woken => absurd woken before⟩
    simp [TcpServer.terminate, stage.2]
  | connect task _ =>
    simp only [Stage, task] at stage
    refine ⟨stage, ?_, fun _ => rfl⟩
    unfold Looping at looping ⊢
    dsimp only
    split <;> simp_all
  | connectRefused task _ | connectFails task =>
    have before := unwoken (by simp [task])
    simp only [Stage, task] at stage
    exact ⟨stage, looping.of_task rfl rfl (fun woken => absurd woken before) id id, fun _ => rfl⟩

theorem run_held {acts : List (TcpInAction ρ)} (h : run step new acts = some s) : s.Held :=
  run_invariant (fun _ _ _ held stepped => step_held held (step_spec stepped)) held_new h

/-- What was in the channel is gone with its receiver, and nothing is sent after that. -/
theorem step_emptied (before : s.alive = false → s.queue = []) (h : Step s act t) (dropped : t.alive = false) :
    t.queue = [] := by
  cases h with
  | forward _ alive _ | quitSends _ alive _ | sendQuit _ alive _ => cases alive.symm.trans dropped
  | request _ queue =>
    rw [before dropped] at queue
    cases queue
  | quit | openFails => rfl
  | _ => exact before dropped

theorem run_emptied {acts : List (TcpInAction ρ)} (h : run step new acts = some s) :
    s.alive = false → s.queue = [] :=
  run_invariant (I := fun s : TcpIn ρ => s.alive = false → s.queue = [])
    (fun _ _ _ before stepped => step_emptied before (step_spec stepped)) (fun _ => rfl) h

end TcpIn

/-! ### How much is left to be done -/

def AcceptLoop.weight : AcceptLoop ρ → Nat
  | accepting | stopped => 0
  | forwarding _ => 2
  | quitting => 1

def ServeTask.weight : ServeTask ρ → Nat
  | pushing => 12
  | taking => 8
  | receiving => 7
  | opening _ => 6
  | terminating => 5
  | waking => 4
  | done => 0

namespace TcpInAction

/-- What the server does by itself. The rest is up to the network and to those who connect. -/
def own : TcpInAction ρ → Bool
  | arrive _ | acceptFails | close | connectFails => false
  | _ => true

def arrives : TcpInAction ρ → Bool
  | arrive _ => true
  | _ => false

end TcpInAction

namespace TcpIn

variable {s t : TcpIn ρ} {act : TcpInAction ρ}

/-- A connection is accepted, sent on and taken from the channel, and a session is cleared, its `Quit` sent
and taken. -/
def todo (s : TcpIn ρ) : Nat :=
  s.task.weight + s.loop.weight + 3 * s.backlog.length + s.queue.length + 3 * s.session.toNat + 2 * s.quitters

theorem step_todo (held : s.Held) (closed : s.closed = true) (h : Step s act t) :
    t.todo + (if act.own then 1 else 0) ≤ s.todo + 3 * (if act.arrives then 1 else 0) := by
  obtain ⟨terminated, _⟩ := held.stage.terminated
  cases h with
    simp only [TcpInAction.own, TcpInAction.arrives, todo, leave, if_true, Bool.false_eq_true, if_false,
      List.length_append, List.length_singleton, List.length_nil]
  | arrive _ => omega
  | acceptQuit loop waiting _ | acceptDrop loop waiting _ _ | acceptForward loop waiting _ _ =>
    simp only [loop, waiting, AcceptLoop.weight, List.length_cons]
    omega
  | acceptFails _ | close => omega
  | forwardStops loop _ | quitStops loop _ =>
    simp only [stop, loop, AcceptLoop.weight, List.length_nil]
    omega
  | forward loop _ _ | forwardTimesOut loop _ _ =>
    simp only [loop, AcceptLoop.weight]
    omega
  | quitSends loop alive _ =>
    have looping := held.looping
    simp only [Looping, loop] at looping
    rw [(terminated looping).1] at alive
    cases alive
  | sweep _ session =>
    simp only [session, Bool.toNat_true, Bool.toNat_false]
    omega
  | quitLost waiting _ | sendQuit waiting _ _ =>
    simp only [waiting]
    omega
  | push task =>
    simp only [task, ServeTask.weight, Bool.toNat_true]
    omega
  | take task _ | takeFails task _ | terminate task | connect task _ | connectRefused task _ | connectFails task =>
    simp only [task, ServeTask.weight]
    omega
  | request task queue | quit task queue =>
    simp only [task, queue, ServeTask.weight, List.length_cons]
    omega
  | opened _ present =>
    rw [closed] at present
    cases present
  | openFails task =>
    simp only [task, ServeTask.weight]
    omega

theorem step_closed (closed : s.closed = true) (h : Step s act t) : t.closed = true := by
  cases h <;> first | exact closed | rfl

/-- Nothing is left of the tunnel: neither a task nor a session, and no connection in the channel or at the
listener. -/
structure Settled (s : TcpIn ρ) : Prop where
  task : s.task = .done
  loop : s.loop = .stopped
  session : s.session = false
  quitters : s.quitters = 0
  queue : s.queue = []
  backlog : s.backlog = []

theorem can_move [Inhabited ρ] (held : s.Held) (emptied : s.alive = false → s.queue = []) (closed : s.closed = true) :
    s.Settled ∨ (s.task = .done ∧ s.woken = false) ∨ ∃ act, act.own = true ∧ (s.step act).isSome = true := by
  have stage := held.stage
  -- The task goes on by itself but at `recv`, which has a `Quit` to come.
  by_cases session : s.session = true
  · exact .inr (.inr ⟨.sweep, rfl, by simp [step, sweep, closed, session]⟩)
  have cleared := eq_false_of_ne_true session
  cases task : s.task with
  | pushing => exact .inr (.inr ⟨.push, rfl, by simp [step, task]⟩)
  | taking =>
    simp only [Stage, task] at stage
    exact .inr (.inr ⟨.take, rfl, by simp [step, take, task, TcpServer.takeReceiver, stage.2.1]⟩)
  | receiving =>
    simp only [Stage, task, Recalled, cleared, Bool.false_eq_true, false_or] at stage
    cases queue : s.queue with
    | cons message rest =>
      cases message with
      | request stream | quit => exact .inr (.inr ⟨.recv, rfl, by simp [step, recv, task, queue]⟩)
    | nil =>
      obtain ⟨alive, _, waiting | sent⟩ := stage
      · obtain ⟨quitters, waiting⟩ := Nat.exists_eq_add_one_of_ne_zero waiting.ne'
        exact .inr (.inr ⟨.sendQuit, rfl, by simp [step, sendQuit, waiting, alive, room, queue, channelSize]⟩)
      · simp [queue] at sent
  | opening stream => exact .inr (.inr ⟨.openBi false, rfl, by simp [step, openBi, task]⟩)
  | terminating => exact .inr (.inr ⟨.terminate, rfl, by simp [step, task]⟩)
  | waking =>
    refine .inr (.inr ⟨.connect default, rfl, ?_⟩)
    simp only [step, connect, task]
    split <;> rfl
  | done =>
    simp only [Stage, task] at stage
    obtain ⟨dropped, server⟩ := stage
    have looping := held.looping
    unfold Looping at looping
    cases waiting : s.quitters with
    | succ quitters => exact .inr (.inr ⟨.sendQuit, rfl, by simp [step, sendQuit, waiting, dropped]⟩)
    | zero =>
      cases loop : s.loop with
      | accepting =>
        by_cases woken : s.woken = true
        · simp only [loop] at looping
          obtain ⟨stream, rest, backlog⟩ := List.exists_cons_of_ne_nil (looping task woken)
          exact .inr (.inr ⟨.accept, rfl, by simp [step, accept, loop, backlog, TcpServer.onAccept, server]⟩)
        · exact .inr (.inl ⟨rfl, eq_false_of_ne_true woken⟩)
      | forwarding stream => exact .inr (.inr ⟨.forward, rfl, by simp [step, forward, loop, dropped]⟩)
      | quitting => exact .inr (.inr ⟨.loopQuits, rfl, by simp [step, loopQuits, loop, dropped]⟩)
      | stopped =>
        simp only [loop] at looping
        exact .inl ⟨task, loop, cleared, waiting, emptied dropped, looping.2⟩

/-- One connection is served, and another one is in the channel when the client goes away. -/
def goodbye : List (TcpInAction Nat) :=
  [.arrive 0, .push, .accept, .take, .arrive 1, .accept, .forward, .recv, .openBi true, .arrive 2, .accept, .forward,
    .close]

/-- The stream for the second connection cannot be opened any more. -/
def cleanUp : List (TcpInAction Nat) :=
  [.recv, .openBi false, .terminate, .sweep, .connect 3, .accept, .sendQuit, .loopQuits]

end TcpIn

def AcceptLoop.hand : AcceptLoop ρ → List ρ
  | forwarding stream => [stream]
  | accepting | quitting | stopped => []

namespace TcpIn

variable {s t : TcpIn ρ} {act : TcpInAction ρ}

/-- The connections that have not been dropped, from the first one that was taken from the channel to the last one
that has arrived. -/
def passing (s : TcpIn ρ) : List ρ :=
  s.received ++ (s.queue.filterMap StreamMessage.stream? ++ (s.loop.hand ++ s.backlog))

/-- A stream has been opened for all connections taken from the channel but the one in hand. -/
def Served (s : TcpIn ρ) : Prop :=
  match s.task with
  | .pushing | .taking | .receiving => s.received = s.started
  | .opening stream => s.received = s.started ++ [stream]
  | .terminating | .waking | .done => s.started <+: s.received ∧ s.received.length ≤ s.started.length + 1

structure InOrder (s : TcpIn ρ) : Prop where
  size : s.queue.length ≤ channelSize
  passing : s.passing.Sublist s.arrived
  served : s.Served

theorem inOrder_new : (new : TcpIn ρ).InOrder := ⟨Nat.zero_le _, List.Sublist.refl _, rfl⟩

/-- When the loop drops what it has in hand, or the receiver what is in the channel. -/
theorem passing_drop {received queued hand backlog arrived queued' hand' backlog' : List ρ}
    (passing : (received ++ (queued ++ (hand ++ backlog))).Sublist arrived) (first : queued'.Sublist queued)
    (second : hand'.Sublist hand) (third : backlog'.Sublist backlog) :
    (received ++ (queued' ++ (hand' ++ backlog'))).Sublist arrived :=
  ((List.Sublist.refl received).append (first.append (second.append third))).trans passing

theorem filterMap_quit : [(.quit : StreamMessage ρ)].filterMap StreamMessage.stream? = [] := rfl

theorem leave_inOrder (passing : s.passing.Sublist s.arrived)
    (served : s.started <+: s.received ∧ s.received.length ≤ s.started.length + 1) : s.leave.InOrder :=
  ⟨Nat.zero_le _, passing_drop passing (List.nil_sublist _) (List.Sublist.refl _) (List.Sublist.refl _), served⟩

theorem step_inOrder (before : s.InOrder) (h : Step s act t) : t.InOrder := by
  obtain ⟨size, passing, served⟩ := before
  have parts := passing
  unfold TcpIn.passing at parts
  cases h with
  | arrive _ =>
    refine ⟨size, ?_, served⟩
    simpa [TcpIn.passing] using parts.append_right [_]
  | acceptQuit loop waiting _ | acceptDrop loop waiting _ _ =>
    refine ⟨size, passing_drop parts (List.Sublist.refl _) ?_ ?_, served⟩
    · simp [loop, AcceptLoop.hand]
    · simp [waiting]
  | acceptForward loop waiting _ _ =>
    refine ⟨size, ?_, served⟩
    simpa [TcpIn.passing, loop, waiting, AcceptLoop.hand] using parts
  | acceptFails _ | close | sweep _ _ | quitLost _ _ => exact ⟨size, passing, served⟩
  | forwardStops loop _ | quitStops loop _ =>
    exact ⟨size, passing_drop parts (List.Sublist.refl _) (List.nil_sublist _) (List.nil_sublist _), served⟩
  | forwardTimesOut loop _ _ =>
    exact ⟨size, passing_drop parts (List.Sublist.refl _) (List.nil_sublist _) (List.Sublist.refl _), served⟩
  | forward loop _ room =>
    refine ⟨?_, ?_, served⟩
    · rw [List.length_append, List.length_singleton]
      exact room
    · simpa [TcpIn.passing, loop, AcceptLoop.hand, StreamMessage.stream?] using parts
  | quitSends loop _ room =>
    refine ⟨?_, ?_, served⟩
    · rw [List.length_append, List.length_singleton]
      exact room
    · refine passing_drop parts ?_ (List.nil_sublist _) (List.nil_sublist _)
      rw [List.filterMap_append, filterMap_quit, List.append_nil]
  | sendQuit _ _ room =>
    refine ⟨?_, ?_, served⟩
    · rw [List.length_append, List.length_singleton]
      exact room
    · simpa [TcpIn.passing, filterMap_quit] using parts
  | push task | take task _ =>
    simp only [Served, task] at served
    exact ⟨size, passing, served⟩
  | takeFails task _ =>
    simp only [Served, task] at served
    exact ⟨size, passing, by rw [served], by simp [served]⟩
  | request task queue =>
    simp only [Served, task] at served
    refine ⟨?_, ?_, ?_⟩
    · rw [queue, List.length_cons] at size
      exact Nat.le_of_succ_le size
    · simpa [TcpIn.passing, queue, StreamMessage.stream?] using parts
    · simp [Served, served]
  | quit task queue =>
    simp only [Served, task] at served
    exact leave_inOrder passing ⟨by rw [served], by simp [served]⟩
  | opened task _ =>
    simp only [Served, task] at served
    exact ⟨size, passing, served⟩
  | openFails task =>
    simp only [Served, task] at served
    exact leave_inOrder passing ⟨by simp [served], by simp [served]⟩
  | terminate task | connectRefused task _ | connectFails task =>
    simp only [Served, task] at served
    exact ⟨size, passing, served⟩
  | connect task _ =>
    simp only [Served, task] at served
    refine ⟨size, ?_, served⟩
    simpa [TcpIn.passing] using parts.append_right [_]

/-- The connections are taken from the channel, and streams are opened for them, in the order in which they have
arrived, each of them at most once. As long as the tunnel is up, none that has been taken is left out. -/
theorem served_in_order {acts : List (TcpInAction ρ)} (h : run step new acts = some s) :
    s.queue.length ≤ channelSize ∧ s.passing.Sublist s.arrived ∧ s.started <+: s.received ∧
    s.received.length ≤ s.started.length + 1 ∧ (s.task = .receiving → s.started = s.received) := by
  obtain ⟨size, passing, served⟩ := run_invariant (I := InOrder)
    (fun _ _ _ before stepped => step_inOrder before (step_spec stepped)) inOrder_new h
  refine ⟨size, passing, ?_⟩
  unfold Served at served
  split at served <;> simp_all

theorem served_in_order_goodbye : ∃ s : TcpIn Nat, run step new goodbye = some s ∧ s.arrived = [0, 1, 2] ∧
    s.started = [1] ∧ s.started = s.received ∧ s.passing.Sublist s.arrived := by
  obtain ⟨s, ran, arrived, started, task⟩ := run_reaches
    (P := fun s : TcpIn Nat => s.arrived = [0, 1, 2] ∧ s.started = [1] ∧ s.task = .receiving)
    (show (run step new goodbye).any _ = true by decide +kernel)
  obtain ⟨_, passing, _, _, all⟩ := served_in_order ran
  exact ⟨s, ran, arrived, started, all task, passing⟩

end TcpIn

end Rstun.Control
