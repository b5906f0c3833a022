import Rstun.Control.TcpIn

/-!
# The socket of an inbound UDP tunnel

On the server, an inbound tunnel has a socket of its own. The task of `UdpServer` hands the datagrams to
`start_serving` through one channel and takes replies from another. Here `clear_expired_sessions` has a
sender of the second, so that its `Quit` ends the task of the socket first. That drops the sender of the
first channel, which ends `start_serving`. The task of the socket has the `UdpServer` and with it a sender
to itself, and nothing but `Quit` or the end of `start_serving` ends it. `ρ` is the type of the datagrams.
-/

namespace Rstun.Tunnel

inductive UdpMessage (ρ : Type) where
  | packet (packet : ρ)
  | quit
  deriving DecidableEq

end Rstun.Tunnel

namespace Rstun.Control
open Transition Rstun.Tunnel

variable {ρ : Type}

inductive SocketTask (ρ : Type) where
  | selecting
  | forwarding (packet : ρ)
  | stopped
  deriving DecidableEq

def SocketTask.isStopped : SocketTask ρ → Bool
  | stopped => true
  | _ => false

/-- Where the task of the tunnel in `serve` stands: before the session is pushed, before the receiver is
taken, in `start_serving` at `recv` or with a datagram, and in `shutdown`. -/
inductive UdpServeTask (ρ : Type) where
  | pushing
  | taking
  | receiving
  | opening (packet : ρ)
  | quitting
  | done
  deriving DecidableEq

def UdpServeTask.isDone : UdpServeTask ρ → Bool
  | done => true
  | _ => false

/-- `queue` is the channel from the socket to `start_serving`, and `inbox` the one back. The rest is as it is
for TCP. -/
structure UdpIn (ρ : Type) where
  server : UdpServer Unit
  socket : SocketTask ρ
  queue : List ρ
  inbox : List (UdpMessage ρ)
  task : UdpServeTask ρ
  session : Bool
  quitters : Nat
  closed : Bool
  deriving DecidableEq

inductive UdpInAction (ρ : Type) where
  | hear (packet : ρ)
  | forward
  | forwardTimesOut
  | handle
  | reply (packet : ρ)
  | close
  | sweep
  | sendQuit
  | push
  | take
  | recv
  | enqueue (ok : Bool)
  | shutdown
  deriving DecidableEq

namespace UdpIn

def new : UdpIn ρ where
  server := .bindAndStart ()
  socket := .selecting
  queue := []
  inbox := []
  task := .pushing
  session := false
  quitters := 0
  closed := false

def hear (s : UdpIn ρ) (packet : ρ) : Option (UdpIn ρ) :=
  match s.socket with
  | .selecting => match s.server.onRecv with
    | .forward => some { s with socket := .forwarding packet }
    | _ => some s
  | _ => none

/-- The receiver of the queue goes away with the task. -/
def forward (s : UdpIn ρ) : Option (UdpIn ρ) :=
  match s.socket with
  | .forwarding packet =>
    if s.task.isDone then some { s with socket := .stopped }
    else if s.queue.length < channelSize then some { s with queue := s.queue ++ [packet], socket := .selecting }
    else none
  | _ => none

def forwardTimesOut (s : UdpIn ρ) : Option (UdpIn ρ) :=
  match s.socket with
  | .forwarding _ =>
    if !s.task.isDone ∧ ¬ s.queue.length < channelSize then some { s with socket := .selecting } else none
  | _ => none

/-- A message for the socket. `Quit` ends its task. -/
def handle (s : UdpIn ρ) : Option (UdpIn ρ) :=
  match s.socket, s.inbox with
  | .selecting, .packet _ :: rest => some { s with inbox := rest }
  | .selecting, .quit :: _ => some { s with inbox := [], socket := .stopped }
  | _, _ => none

/-- A message to the socket. There is no receiver for it when the task of the socket has ended. -/
def post (s : UdpIn ρ) (message : UdpMessage ρ) : Option (UdpIn ρ) :=
  if s.socket.isStopped then some s
  else if s.inbox.length < channelSize then some { s with inbox := s.inbox ++ [message] }
  else none

/-- `clear_expired_sessions`. -/
def sweep (s : UdpIn ρ) : Option (UdpIn ρ) :=
  if s.closed ∧ s.session then some { s with session := false, quitters := s.quitters + 1 } else none

def sendQuit (s : UdpIn ρ) : Option (UdpIn ρ) :=
  match s.quitters with
  | quitters + 1 => post { s with quitters := quitters } .quit
  | 0 => none

def take (s : UdpIn ρ) : Option (UdpIn ρ) :=
  match s.task with
  | .taking => match s.server.takeReceiver with
    | (.ok _, server) => some { s with server := server, task := .receiving }
    | (.error _, server) => some { s with server := server, task := .done }
  | _ => none

/-- The queue has no sender when the task of the socket has ended. -/
def recv (s : UdpIn ρ) : Option (UdpIn ρ) :=
  match s.task, s.queue with
  | .receiving, packet :: rest => some { s with queue := rest, task := .opening packet }
  | .receiving, [] => if s.socket.isStopped then some { s with task := .quitting } else none
  | _, _ => none

/-- `open_stream` and `try_send`. A stream that is in the map is found there even if the connection has been
closed, and a failure ends the loop only then. -/
def enqueue (s : UdpIn ρ) (ok : Bool) : Option (UdpIn ρ) :=
  match s.task with
  | .opening _ => some { s with task := if !ok ∧ s.closed then .quitting else .receiving }
  | _ => none

def shutdown (s : UdpIn ρ) : Option (UdpIn ρ) :=
  match s.task with
  | .quitting => post { s with task := .done, queue := [] } .quit
  | _ => none

def step (s : UdpIn ρ) : UdpInAction ρ → Option (UdpIn ρ)
  | .hear packet => s.hear packet
  | .forward => s.forward
  | .forwardTimesOut => s.forwardTimesOut
  | .handle => s.handle
  | .reply packet => s.post (.packet packet)
  | .close => some { s with closed := true }
  | .sweep => s.sweep
  | .sendQuit => s.sendQuit
  | .push => match s.task with
    | .pushing => some { s with session := true, task := .taking }
    | _ => none
  | .take => s.take
  | .recv => s.recv
  | .enqueue ok => s.enqueue ok
  | .shutdown => s.shutdown

/-! ### What a step can do -/

inductive Step (s : UdpIn ρ) : UdpInAction ρ → UdpIn ρ → Prop
  | hear {packet} (socket : s.socket = .selecting) (active : s.server.active = true) :
      Step s (.hear packet) { s with socket := .forwarding packet }
  | ignore {packet} : Step s (.hear packet) s
  | forwardStops {packet} (socket : s.socket = .forwarding packet) : Step s .forward { s with socket := .stopped }
  | forward {packet} (socket : s.socket = .forwarding packet) :
      Step s .forward { s with queue := s.queue ++ [packet], socket := .selecting }
  | forwardTimesOut {packet} (socket : s.socket = .forwarding packet) :
      Step s .forwardTimesOut { s with socket := .selecting }
  | handle {packet rest} (socket : s.socket = .selecting) (inbox : s.inbox = .packet packet :: rest) :
      Step s .handle { s with inbox := rest }
  | handleQuit {rest} (socket : s.socket = .selecting) (inbox : s.inbox = .quit :: rest) :
      Step s .handle { s with inbox := [], socket := .stopped }
  | reply {packet} : Step s (.reply packet) { s with inbox := s.inbox ++ [.packet packet] }
  | replyLost {packet} : Step s (.reply packet) s
  | close : Step s .close { s with closed := true }
  | sweep (closed : s.closed = true) (session : s.session = true) :
      Step s .sweep { s with session := false, quitters := s.quitters + 1 }
  | sendQuit {quitters} (waiting : s.quitters = quitters + 1) :
      Step s .sendQuit { s with quitters := quitters, inbox := s.inbox ++ [.quit] }
  | quitLost {quitters} (waiting : s.quitters = quitters + 1) (stopped : s.socket = .stopped) :
      Step s .sendQuit { s with quitters := quitters }
  | push (task : s.task = .pushing) : Step s .push { s with session := true, task := .taking }
  | take (task : s.task = .taking) (present : s.server.udpReceiver = some ()) :
      Step s .take { s with server := ⟨true, none⟩, task := .receiving }
  | takeFails (task : s.task = .taking) (absent : s.server.udpReceiver = none) :
      Step s .take { s with server := ⟨false, none⟩, task := .done }
  | recv {packet rest} (task : s.task = .receiving) (queue : s.queue = packet :: rest) :
      Step s .recv { s with queue := rest, task := .opening packet }
  | ended (task : s.task = .receiving) (queue : s.queue = []) (stopped : s.socket = .stopped) :
      Step s .recv { s with task := .quitting }
  | enqueue {ok packet} (task : s.task = .opening packet) : Step s (.enqueue ok) { s with task := .receiving }
  | gone {ok packet} (task : s.task = .opening packet) (closed : s.closed = true) :
      Step s (.enqueue ok) { s with task := .quitting }
  | shutdown (task : s.task = .quitting) :
      Step s .shutdown { s with task := .done, queue := [], inbox := s.inbox ++ [.quit] }
  | shutdownLost (task : s.task = .quitting) (stopped : s.socket = .stopped) :
      Step s .shutdown { s with task := .done, queue := [] }

variable {s t : UdpIn ρ} {act : UdpInAction ρ}

theorem stopped_of_isStopped {socket : SocketTask ρ} (h : socket.isStopped = true) : socket = .stopped := by
  cases socket <;> first | rfl | cases h

theorem post_cases {message : UdpMessage ρ} (h : s.post message = some t) :
    (s.socket = .stopped ∧ t = s) ∨ t = { s with inbox := s.inbox ++ [message] } := by
  unfold post at h
  split at h
  · rename_i stopped
    exact .inl ⟨stopped_of_isStopped stopped, (Option.some.inj h).symm⟩
  · split at h <;> cases h
    exact .inr rfl

theorem step_spec (h : s.step act = some t) : Step s act t := by
  cases act with
  | hear packet =>
    simp only [step, hear, UdpServer.onRecv] at h
    cases socket : s.socket with
    | selecting =>
      cases active : s.server.active with
      | true =>
        simp only [socket, active, Bool.not_true, Bool.false_eq_true, if_false] at h
        cases h
        exact .hear socket active
      | false =>
        simp only [socket, active, Bool.not_false, if_true] at h
        cases h
        exact .ignore
    | forwarding _ | stopped =>
      rw [socket] at h
      cases h
  | forward =>
    simp only [step, forward] at h
    split at h
    case h_2 => cases h
    rename_i packet socket
    split at h
    · cases h
      exact .forwardStops socket
    · split at h <;> cases h
      exact .forward socket
  | forwardTimesOut =>
    simp only [step, forwardTimesOut] at h
    split at h
    case h_2 => cases h
    rename_i packet socket
    split at h <;> cases h
    exact .forwardTimesOut socket
  | handle =>
    simp only [step, handle] at h
    split at h <;> cases h
    · rename_i socket inbox
      exact .handle socket inbox
    · rename_i socket inbox
      exact .handleQuit socket inbox
  | reply packet =>
    rcases post_cases h with ⟨_, rfl⟩ | rfl
    · exact .replyLost
    · exact .reply
  | close =>
    cases h
    exact .close
  | sweep =>
    simp only [step, sweep, Option.ite_none_right_eq_some, Option.some.injEq] at h
    obtain ⟨⟨closed, session⟩, rfl⟩ := h
    exact .sweep closed session
  | sendQuit =>
    simp only [step, sendQuit] at h
    split at h
    case h_2 => cases h
    rename_i quitters waiting
    rcases post_cases h with ⟨stopped, rfl⟩ | rfl
    · exact .quitLost waiting stopped
    · exact .sendQuit waiting
  | push =>
    simp only [step] at h
    split at h <;> cases h
    rename_i task
    exact .push task
  | take =>
    simp only [step, take, UdpServer.takeReceiver] at h
    split at h
    case h_2 => cases h
    rename_i task
    cases receiver : s.server.udpReceiver with
    | some _ =>
      simp only [receiver] at h
      cases h
      exact .take task receiver
    | none =>
      simp only [receiver] at h
      cases h
      exact .takeFails task receiver
  | recv =>
    simp only [step, recv] at h
    split at h
    · rename_i packet rest task queue
      cases h
      exact .recv task queue
    · rename_i task queue
      split at h <;> cases h
      rename_i stopped
      exact .ended task queue (stopped_of_isStopped stopped)
    · cases h
  | enqueue ok =>
    simp only [step, enqueue] at h
    split at h
    case h_2 => cases h
    rename_i packet task
    cases h
    split
    · rename_i fails
      exact .gone task fails.2
    · exact .enqueue task
  | shutdown =>
    simp only [step, shutdown] at h
    split at h
    case h_2 => cases h
    rename_i task
    rcases post_cases h with ⟨stopped, rfl⟩ | rfl
    · exact .shutdownLost task stopped
    · exact .shutdown task

/-! ### The session is not forgotten -/

/-- The task of the socket has ended, or a `Quit` is on its way to it, is about to be sent or will be. -/
def Recalled (s : UdpIn ρ) : Prop :=
  s.session = true ∨ 0 < s.quitters ∨ .quit ∈ s.inbox ∨ s.socket = .stopped

/-- The state of the server at each stage of the task. -/
def Held (s : UdpIn ρ) : Prop :=
  match s.task with
  | .pushing => s.server = ⟨false, some ()⟩
  | .taking => s.server = ⟨false, some ()⟩ ∧ s.Recalled
  | .receiving | .opening _ => s.server = ⟨true, none⟩ ∧ s.Recalled
  | .quitting => s.server = ⟨true, none⟩
  | .done => s.server = ⟨true, none⟩ ∧ (.quit ∈ s.inbox ∨ s.socket = .stopped)

theorem held_new : (new : UdpIn ρ).Held := rfl

/-- A step that leaves the task where it is has to take care of the `Quit` only. -/
theorem Held.of_recalled (held : s.Held) (task : t.task = s.task) (server : t.server = s.server)
    (recalled : s.Recalled → t.Recalled)
    (told : .quit ∈ s.inbox ∨ s.socket = .stopped → .quit ∈ t.inbox ∨ t.socket = .stopped) : t.Held := by
  unfold Held at held ⊢
  rw [task, server]
  split at held
  · exact held
  · exact ⟨held.1, recalled held.2⟩
  · exact ⟨held.1, recalled held.2⟩
  · exact ⟨held.1, recalled held.2⟩
  · exact held
  · exact ⟨held.1, told held.2⟩

/-- A step of the socket. -/
theorem Held.of_socket (held : s.Held) (task : t.task = s.task) (server : t.server = s.server)
    (session : t.session = s.session) (quitters : t.quitters = s.quitters)
    (told : .quit ∈ s.inbox ∨ s.socket = .stopped → .quit ∈ t.inbox ∨ t.socket = .stopped) : t.Held := by
  refine held.of_recalled task server ?_ told
  rintro (here | sending | known)
  · exact .inl (session.trans here)
  · exact .inr (.inl (by rwa [quitters]))
  · exact .inr (.inr (told known))

theorem step_held (held : s.Held) (h : Step s act t) : t.Held := by
  cases h with
  | hear socket _ => exact held.of_socket rfl rfl rfl rfl (by simp [socket])
  | ignore | replyLost => exact held
  | forwardStops socket => exact held.of_socket rfl rfl rfl rfl fun _ => .inr rfl
  | forward socket | forwardTimesOut socket => exact held.of_socket rfl rfl rfl rfl (by simp [socket])
  | handle socket inbox => exact held.of_socket rfl rfl rfl rfl (by simp [socket, inbox])
  | handleQuit socket inbox => exact held.of_socket rfl rfl rfl rfl fun _ => .inr rfl
  | reply => exact held.of_socket rfl rfl rfl rfl (Or.imp_left (List.mem_append_left _))
  | close => exact held.of_socket rfl rfl rfl rfl id
  | sweep closed session =>
    exact held.of_recalled rfl rfl (fun _ => .inr (.inl (Nat.succ_pos _))) id
  | sendQuit waiting =>
    have told : (.quit : UdpMessage ρ) ∈ s.inbox ++ [.quit] := by simp
    exact held.of_recalled rfl rfl (fun _ => .inr (.inr (.inl told))) fun _ => .inl told
  | quitLost waiting stopped =>
    exact held.of_recalled rfl rfl (fun _ => .inr (.inr (.inr stopped))) fun _ => .inr stopped
  | push task =>
    simp only [Held, task] at held
    exact ⟨held, .inl rfl⟩
  | take task present =>
    simp only [Held, task] at held
    exact ⟨rfl, held.2⟩
  | takeFails task absent =>
    simp only [Held, task] at held
    rw [held.1] at absent
    cases absent
  | recv task queue =>
    simp only [Held, task] at held
    exact held
  | ended task queue stopped =>
    simp only [Held, task] at held
    exact held.1
  | enqueue task =>
    simp only [Held, task] at held
    exact held
  | gone task closed =>
    simp only [Held, task] at held
    exact held.1
  | shutdown task =>
    simp only [Held, task] at held
    exact ⟨held, .inl (by simp)⟩
  | shutdownLost task stopped =>
    simp only [Held, task] at held
    exact ⟨held, .inr stopped⟩

theorem run_held {acts : List (UdpInAction ρ)} (h : run step new acts = some s) : s.Held :=
  run_invariant (fun _ _ _ held stepped => step_held held (step_spec stepped)) held_new h

end UdpIn

/-! ### How much is left to be done -/

def SocketTask.weight : SocketTask ρ → Nat
  | forwarding _ => 4
  | selecting | stopped => 0

def UdpServeTask.weight : UdpServeTask ρ → Nat
  | pushing => 9
  | taking => 5
  | receiving => 4
  | opening _ => 6
  | quitting => 2
  | done => 0

namespace UdpInAction

/-- What the server does by itself. The rest is up to the network and to the other end. -/
def own : UdpInAction ρ → Bool
  | hear _ | reply _ | close => false
  | _ => true

def feeds : UdpInAction ρ → Bool
  | hear _ | reply _ => true
  | _ => false

end UdpInAction

namespace UdpIn

variable {s t : UdpIn ρ} {act : UdpInAction ρ}

/-- A datagram is sent on, received and put into a queue. A session is cleared, its `Quit` sent and taken. -/
def todo (s : UdpIn ρ) : Nat :=
  s.task.weight + s.socket.weight + 3 * s.queue.length + s.inbox.length + 3 * s.session.toNat + 2 * s.quitters

theorem step_todo (h : Step s act t) :
    t.todo + (if act.own then 1 else 0) ≤ s.todo + 4 * (if act.feeds then 1 else 0) := by
  cases h with
    simp only [UdpInAction.own, UdpInAction.feeds, todo, if_true, Bool.false_eq_true, if_false, List.length_append,
      List.length_singleton, List.length_nil]
  | hear socket _ | forwardStops socket | forward socket | forwardTimesOut socket =>
    simp only [socket, SocketTask.weight]
    omega
  | ignore | reply | replyLost | close => omega
  | handle socket inbox | handleQuit socket inbox =>
    simp only [socket, inbox, SocketTask.weight, List.length_cons]
    omega
  | sweep _ session =>
    simp only [session, Bool.toNat_true, Bool.toNat_false]
    omega
  | sendQuit waiting | quitLost waiting _ =>
    simp only [waiting]
    omega
  | push task =>
    simp only [task, UdpServeTask.weight, Bool.toNat_true]
    omega
  | take task _ | takeFails task _ | enqueue task | gone task _ | shutdown task | shutdownLost task _ =>
    simp only [task, UdpServeTask.weight]
    omega
  | recv task queue | ended task queue _ =>
    simp only [task, queue, UdpServeTask.weight, List.length_cons]
    omega

/-- Nothing is left of the tunnel. -/
structure Settled (s : UdpIn ρ) : Prop where
  task : s.task = .done
  socket : s.socket = .stopped
  session : s.session = false
  quitters : s.quitters = 0

/-- The socket does not wait for ever with a message in its channel. -/
theorem socket_can_move (running : s.socket ≠ .stopped) (message : s.inbox ≠ []) :
    ∃ act, act.own = true ∧ (s.step act).isSome = true := by
  cases socket : s.socket with
  | selecting =>
    obtain ⟨message, rest, inbox⟩ := List.exists_cons_of_ne_nil message
    cases message with
    | packet _ | quit => exact ⟨.handle, rfl, by simp [step, handle, socket, inbox]⟩
  | forwarding packet =>
    by_cases finished : s.task.isDone = true
    · exact ⟨.forward, rfl, by simp [step, forward, socket, finished]⟩
    · by_cases room : s.queue.length < channelSize
      · exact ⟨.forward, rfl, by simp [step, forward, socket, finished, room]⟩
      · exact ⟨.forwardTimesOut, rfl, by simpa [step, forwardTimesOut, socket, finished] using room⟩
  | stopped => exact absurd socket running

/-- A message can be sent to the socket, or the socket makes room for it. -/
theorem post_or_move (u : UdpIn ρ) (socket : u.socket = s.socket) (inbox : u.inbox = s.inbox)
    (message : UdpMessage ρ) :
    (u.post message).isSome = true ∨ ∃ act, act.own = true ∧ (s.step act).isSome = true := by
  by_cases stopped : s.socket.isStopped = true
  · exact .inl (by simp [post, socket, stopped])
  by_cases room : s.inbox.length < channelSize
  · exact .inl (by simp [post, socket, inbox, stopped, room])
  · refine .inr (socket_can_move (fun same => stopped (by rw [same]; rfl)) ?_)
    intro empty
    simp [empty, channelSize] at room

/-- A `Quit` on its way gets to the socket. -/
theorem recalled_can_move (recalled : s.Recalled) (cleared : s.session = false) (running : s.socket ≠ .stopped) :
    ∃ act, act.own = true ∧ (s.step act).isSome = true := by
  rcases recalled with session | sending | told | stopped
  · rw [cleared] at session
    cases session
  · obtain ⟨quitters, waiting⟩ := Nat.exists_eq_add_one_of_ne_zero sending.ne'
    rcases post_or_move (s := s) { s with quitters := quitters } rfl rfl .quit with sent | moves
    · exact ⟨.sendQuit, rfl, by simpa [step, sendQuit, waiting] using sent⟩
    · exact moves
  · exact socket_can_move running (List.ne_nil_of_mem told)
  · exact absurd stopped running

theorem can_move (held : s.Held) (closed : s.closed = true) :
    s.Settled ∨ ∃ act, act.own = true ∧ (s.step act).isSome = true := by
  by_cases session : s.session = true
  · exact .inr ⟨.sweep, rfl, by simp [step, sweep, closed, session]⟩
  have cleared := eq_false_of_ne_true session
  unfold Held at held
  cases task : s.task with
  | pushing => exact .inr ⟨.push, rfl, by simp [step, task]⟩
  | taking =>
    simp only [task] at held
    exact .inr ⟨.take, rfl, by simp [step, take, task, UdpServer.takeReceiver, held.1]⟩
  | receiving =>
    simp only [task] at held
    cases queue : s.queue with
    | cons packet rest => exact .inr ⟨.recv, rfl, by simp [step, recv, task, queue]⟩
    | nil =>
      by_cases stopped : s.socket.isStopped = true
      · exact .inr ⟨.recv, rfl, by simp [step, recv, task, queue, stopped]⟩
      · exact .inr (recalled_can_move held.2 cleared fun same => stopped (by rw [same]; rfl))
  | opening packet => exact .inr ⟨.enqueue false, rfl, by simp [step, enqueue, task]⟩
  | quitting =>
    rcases post_or_move (s := s) { s with task := .done, queue := [] } rfl rfl .quit with sent | moves
    · exact .inr ⟨.shutdown, rfl, by simpa [step, shutdown, task] using sent⟩
    · exact .inr moves
  | done =>
    simp only [task] at held
    by_cases stopped : s.socket = .stopped
    · cases waiting : s.quitters with
      | succ quitters =>
        exact .inr ⟨.sendQuit, rfl, by simp [step, sendQuit, waiting, post, stopped, SocketTask.isStopped]⟩
      | zero => exact .inl ⟨task, stopped, cleared, waiting⟩
    · exact .inr (socket_can_move stopped (List.ne_nil_of_mem (held.2.resolve_right stopped)))

/-- The client goes away with a datagram in the queue and a reply on its way. -/
def farewell : List (UdpInAction Nat) :=
  [.hear 0, .push, .take, .hear 1, .forward, .recv, .enqueue true, .hear 2, .forward, .reply 7, .close]

def windUp : List (UdpInAction Nat) :=
  [.sweep, .sendQuit, .recv, .enqueue true, .handle, .handle, .recv, .shutdown]

end UdpIn

end Rstun.Control
