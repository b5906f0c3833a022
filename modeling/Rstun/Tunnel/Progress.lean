import Rstun.Tunnel.Format
import Rstun.Tunnel.TcpOut

/-!
# Serving one request after the other

A connection on which every stream is opened and every write succeeds. The loop of `start_serving` then
fails only on a target that cannot be encoded. It keeps such a request and tries it again.
-/

namespace Rstun.Tunnel
open TcpConn

/-- `S` is the type of the local streams. -/
structure StreamRequest (S : Type) where
  stream : S
  target : Option TunnelTarget
  deriving DecidableEq

/-- What is written to a stream whose writes succeed. -/
def writeTunnelTarget (target : Option TunnelTarget) (markNone : Bool) : Except String Bytes :=
  (encodeTunnelTarget target markNone).map fun header => header.getD []

variable {S : Type}

def StreamRequest.Fits (request : StreamRequest S) : Prop := ∀ target ∈ request.target, target.Fits

instance (request : StreamRequest S) : Decidable request.Fits := inferInstanceAs (Decidable (∀ _ ∈ _, _))

theorem writeTunnelTarget_of_fits {request : StreamRequest S} (fits : request.Fits) :
    ∃ bytes, writeTunnelTarget request.target false = .ok bytes := by
  obtain ⟨stream, target⟩ := request
  cases target with
  | none => exact ⟨[], rfl⟩
  | some target =>
    obtain ⟨header, written⟩ := encodeTunnelTarget_of_fits false (fits target rfl)
    exact ⟨header, by rw [writeTunnelTarget, written]; rfl⟩

theorem writeTunnelTarget_of_not_fits {request : StreamRequest S} (unfit : ¬ request.Fits) :
    ∃ err, writeTunnelTarget request.target false = .error err := by
  obtain ⟨stream, target⟩ := request
  cases target with
  | none => exact absurd (by rintro _ ⟨⟩) unfit
  | some target =>
    have wide : ¬ target.Fits := fun fits => unfit (by rintro _ ⟨⟩; exact fits)
    obtain ⟨err, failed⟩ := encodeTunnelTarget_of_not_fits false wide
    exact ⟨err, by rw [writeTunnelTarget, failed]; rfl⟩

/-- The part of a turn after `open_bi`. -/
def TcpConn.handle (c : TcpConn (StreamRequest S)) (request : StreamRequest S) : TcpConn (StreamRequest S) :=
  match writeTunnelTarget request.target false with
  | .ok _ => c.start request
  | .error _ => c.save request

@[simp] theorem TcpConn.handle_closed (c : TcpConn (StreamRequest S)) (request : StreamRequest S) :
    (c.handle request).closed = c.closed := by
  unfold handle
  split <;> rfl

/-- The requests in `queue` are in the channel that the loop receives from. -/
structure Backlog (S : Type) where
  conn : TcpConn (StreamRequest S)
  queue : List (StreamRequest S)
  working : conn.closed = false

namespace Backlog

/-- The requests that the loop has yet to serve, in its order. -/
def waiting (b : Backlog S) : List (StreamRequest S) := b.conn.state.pendingRequest.toList ++ b.queue

/-- A turn of the loop. Without a request it goes on waiting. -/
def turn (b : Backlog S) : Backlog S :=
  match b.conn.state.pendingRequest, b.queue with
  | some request, queue =>
    let c : TcpConn _ := { b.conn with state := { b.conn.state with pendingRequest := none } }
    ⟨(c.attempt request).handle request, queue, (handle_closed _ _).trans b.working⟩
  | none, request :: queue =>
    ⟨((b.conn.receive request).attempt request).handle request, queue, (handle_closed _ _).trans b.working⟩
  | none, [] => b

def turns (n : Nat) (b : Backlog S) : Backlog S := turn^[n] b

theorem turns_succ (n : Nat) (b : Backlog S) : turns (n + 1) b = turns n b.turn := rfl

theorem turns_add (m n : Nat) (b : Backlog S) : turns (m + n) b = turns n (turns m b) := by
  rw [Nat.add_comm]
  exact Function.iterate_add_apply turn n m b

/-! ### The turns are those of `start_serving` -/

/-- What becomes ready in a turn. -/
def ios (b : Backlog S) : List (Io (StreamRequest S)) :=
  match b.conn.state.pendingRequest, b.queue with
  | some request, _ => [.openBi true, .write (writeTunnelTarget request.target false).isOk]
  | none, request :: _ =>
    [.recv (some request), .openBi true, .write (writeTunnelTarget request.target false).isOk]
  | none, [] => []

def iosOf : Nat → Backlog S → List (Io (StreamRequest S))
  | 0, _ => []
  | n + 1, b => b.ios ++ iosOf n b.turn

/-- The head of the loop, and the loop from there on. -/
def serve (b : Backlog S) (ios : List (Io (StreamRequest S))) :
    TcpConn (StreamRequest S) × Option (Await (StreamRequest S)) :=
  TcpConn.loop ios b.conn.next.1 b.conn.next.2

variable {b : Backlog S}

theorem serve_turn (b : Backlog S) (later : List (Io (StreamRequest S))) :
    b.serve (b.ios ++ later) = b.turn.serve later := by
  -- from the call of `open_bi` on
  have opened : ∀ (c : TcpConn (StreamRequest S)) (request : StreamRequest S), c.closed = false →
      TcpConn.loop (.openBi true :: .write (writeTunnelTarget request.target false).isOk :: later) c
          (.opening request) =
        TcpConn.loop later (c.handle request).next.1 (c.handle request).next.2 := by
    intro c request working
    unfold handle
    cases writeTunnelTarget request.target false with
    | ok bytes => simp [TcpConn.loop, working, Except.isOk, Except.toBool]
    | error err => simp [TcpConn.loop, working, Except.isOk, Except.toBool]
  unfold serve
  cases pending : b.conn.state.pendingRequest with
  | some request =>
    rw [ios, turn, next, pending]
    exact opened _ request b.working
  | none =>
    cases queued : b.queue with
    | nil => rw [ios, turn, pending, queued, List.nil_append]
    | cons request queue =>
      rw [ios, turn, next, pending, queued]
      show TcpConn.loop (.recv (some request) :: .openBi true :: _) b.conn .receiving = _
      rw [TcpConn.loop]
      exact opened _ request b.working

theorem serve_turns (n : Nat) (b : Backlog S) (later : List (Io (StreamRequest S))) :
    b.serve (iosOf n b ++ later) = (turns n b).serve later := by
  induction n generalizing b with
  | zero => rfl
  | succ n ih => rw [iosOf, List.append_assoc, serve_turn, ih, turns_succ]

/-! ### One turn -/

theorem turn_eq {request : StreamRequest S} {rest : List (StreamRequest S)} (first : b.waiting = request :: rest) :
    ∃ c : TcpConn (StreamRequest S), b.turn.conn = (c.attempt request).handle request ∧ b.turn.queue = rest ∧
      c.state.pendingRequest = none ∧ c.state.tried = b.conn.state.tried ∧
      c.state.started = b.conn.state.started := by
  cases pending : b.conn.state.pendingRequest with
  | some other =>
    rw [waiting, pending] at first
    obtain ⟨rfl, rfl⟩ := List.cons.inj first
    rw [turn, pending]
    exact ⟨_, rfl, rfl, rfl, rfl, rfl⟩
  | none =>
    rw [waiting, pending] at first
    rw [turn, pending, show b.queue = request :: rest from first]
    exact ⟨b.conn.receive request, rfl, rfl, pending, rfl, rfl⟩

theorem turn_fits {request : StreamRequest S} {rest : List (StreamRequest S)} (first : b.waiting = request :: rest)
    (fits : request.Fits) :
    b.turn.waiting = rest ∧ b.turn.conn.state.tried = b.conn.state.tried ++ [request] ∧
      b.turn.conn.state.started = b.conn.state.started ++ [request] := by
  obtain ⟨c, turned, queue, nothing, tried, started⟩ := turn_eq first
  obtain ⟨bytes, written⟩ := writeTunnelTarget_of_fits fits
  rw [waiting, turned, queue, handle, written, ← tried, ← started]
  exact ⟨by simp [start, attempt, nothing], rfl, rfl⟩

theorem turn_unfit {request : StreamRequest S} {rest : List (StreamRequest S)} (first : b.waiting = request :: rest)
    (unfit : ¬ request.Fits) :
    b.turn.waiting = request :: rest ∧ b.turn.conn.state.tried = b.conn.state.tried ++ [request] ∧
      b.turn.conn.state.started = b.conn.state.started := by
  obtain ⟨c, turned, queue, nothing, tried, started⟩ := turn_eq first
  obtain ⟨err, failed⟩ := writeTunnelTarget_of_not_fits unfit
  rw [waiting, turned, queue, handle, failed, ← tried, ← started]
  exact ⟨rfl, rfl, rfl⟩

theorem turn_idle (nothing : b.waiting = []) : b.turn = b := by
  obtain ⟨pending, empty⟩ := List.append_eq_nil_iff.mp nothing
  rw [turn, Option.toList_eq_nil_iff.mp pending, empty]

/-! ### Runs of turns -/

theorem turns_fits {served rest : List (StreamRequest S)} (first : b.waiting = served ++ rest)
    (fits : ∀ request ∈ served, request.Fits) :
    (turns served.length b).waiting = rest ∧
      (turns served.length b).conn.state.tried = b.conn.state.tried ++ served ∧
      (turns served.length b).conn.state.started = b.conn.state.started ++ served := by
  induction served generalizing b with
  | nil => exact ⟨first, by simp [turns], by simp [turns]⟩
  | cons request served ih =>
    obtain ⟨left, tried, started⟩ := turn_fits first (fits request (by simp))
    obtain ⟨left', tried', started'⟩ := ih left fun other later => fits other (by simp [later])
    refine ⟨left', tried'.trans ?_, started'.trans ?_⟩
    · rw [tried, List.append_assoc, List.singleton_append]
    · rw [started, List.append_assoc, List.singleton_append]

theorem turns_unfit {request : StreamRequest S} {rest : List (StreamRequest S)}
    (first : b.waiting = request :: rest) (unfit : ¬ request.Fits) (n : Nat) :
    (turns n b).waiting = request :: rest ∧
      (turns n b).conn.state.tried = b.conn.state.tried ++ List.replicate n request ∧
      (turns n b).conn.state.started = b.conn.state.started := by
  induction n generalizing b with
  | zero => exact ⟨first, by simp [turns], rfl⟩
  | succ n ih =>
    obtain ⟨same, tried, started⟩ := turn_unfit first unfit
    obtain ⟨same', tried', started'⟩ := ih same
    refine ⟨same', tried'.trans ?_, started'.trans started⟩
    rw [tried, List.append_assoc, List.singleton_append, List.replicate_succ]

theorem turns_idle (nothing : b.waiting = []) (n : Nat) : turns n b = b :=
  Function.iterate_fixed (turn_idle nothing) n

/-- The loop opens a stream for one waiting request after the other, and comes to have started them all. -/
structure Progresses (b : Backlog S) : Prop where
  inOrder : ∀ n, ∃ opened, (turns n b).conn.state.tried = b.conn.state.tried ++ opened ∧ opened <+: b.waiting
  all : ∃ n, (turns n b).conn.state.started = b.conn.state.started ++ b.waiting

theorem progresses_of_fits (fits : ∀ request ∈ b.waiting, request.Fits) : b.Progresses := by
  constructor
  · intro n
    obtain ⟨left, tried, _⟩ := turns_fits (List.take_append_drop n b.waiting).symm
      fun request taken => fits request (List.mem_of_mem_take taken)
    refine ⟨b.waiting.take n, ?_, List.take_prefix n b.waiting⟩
    rw [List.length_take] at tried left
    rcases Nat.le_total n b.waiting.length with enough | few
    · rwa [Nat.min_eq_left enough] at tried
    · rw [Nat.min_eq_right few] at tried left
      rw [List.drop_eq_nil_of_le few] at left
      obtain ⟨extra, rfl⟩ := Nat.exists_eq_add_of_le few
      rw [turns_add, turns_idle left, tried]
  · exact ⟨_, (turns_fits (List.append_nil b.waiting).symm fits).2.2⟩

/-- A request that cannot be written is tried again and again, and those behind it are never started. -/
theorem turns_blocked {served behind : List (StreamRequest S)} {request : StreamRequest S}
    (first : b.waiting = served ++ request :: behind) (fits : ∀ other ∈ served, other.Fits)
    (unfit : ¬ request.Fits) (n : Nat) :
    (turns (served.length + n) b).conn.state.tried =
        b.conn.state.tried ++ (served ++ List.replicate n request) ∧
      (turns (served.length + n) b).conn.state.started = b.conn.state.started ++ served := by
  obtain ⟨left, tried, started⟩ := turns_fits first fits
  obtain ⟨_, tried', started'⟩ := turns_unfit left unfit n
  rw [turns_add]
  exact ⟨by rw [tried', tried, List.append_assoc], by rw [started', started]⟩

theorem fits_of_progresses (progresses : b.Progresses) : ∀ request ∈ b.waiting, request.Fits := by
  cases bad : b.waiting.find? (fun request => ¬ request.Fits) with
  | none => simpa using bad
  | some request =>
    obtain ⟨unfit, served, behind, first, fits⟩ := List.find?_eq_some_iff_append.mp bad
    -- more streams are opened than there are requests
    obtain ⟨opened, tried, within⟩ := progresses.inOrder (served.length + (behind.length + 2))
    have blocked := (turns_blocked first (by simpa using fits) (by simpa using unfit) (behind.length + 2)).1
    have count := within.length_le
    rw [← List.append_cancel_left (blocked.symm.trans tried), first] at count
    simp at count

/-- The loop of `start_serving` makes these turns; it goes through the requests if and only if the target
of each of them can be encoded. -/
theorem serving_progresses_iff (b : Backlog S) :
    (∀ n later, b.serve (iosOf n b ++ later) = (turns n b).serve later) ∧
      (b.Progresses ↔ ∀ request ∈ b.waiting, request.Fits) :=
  ⟨fun n later => serve_turns n b later, fits_of_progresses, progresses_of_fits⟩

/-- An empty host name, and a request behind it. -/
def badRequest : Backlog Nat :=
  ⟨⟨false, ⟨true, none, [], [], none, []⟩⟩, [⟨1, some (.domain "" 80)⟩, ⟨2, none⟩], rfl⟩

theorem badRequest_stalls :
    badRequest.waiting = [⟨1, some (.domain "" 80)⟩, ⟨2, none⟩] ∧
      ∀ n, (turns n badRequest).conn.state.tried = List.replicate n ⟨1, some (.domain "" 80)⟩ ∧
        (turns n badRequest).conn.state.started = [] := by
  refine ⟨rfl, fun n => ?_⟩
  have unfit : ¬ StreamRequest.Fits (⟨1, some (.domain "" 80)⟩ : StreamRequest Nat) := by decide
  exact (turns_unfit (b := badRequest) rfl unfit n).2

end Backlog

end Rstun.Tunnel
