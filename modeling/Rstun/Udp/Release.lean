import Rstun.Base.Weights
import Rstun.Udp.Serving

/-!
# The end of the flows

What becomes of the streams when no more datagrams come. A reader ends on its own, since it waits for a
reply no longer than the timeout. A writer has none. It ends when there is no sender for its queue, so it
depends on the entry to be removed.
-/

namespace Rstun.Udp
open Transition Rstun.Tunnel

/-! ### What is left to be done -/

def TaskPhase.weight : TaskPhase → Nat
  | running => 2
  | leaving => 1
  | done => 0

def UdpStream.weight (stream : UdpStream) : Nat :=
  stream.writer.weight + stream.reader.weight + stream.queue.length

/-- A datagram for which a stream is to be opened brings the two tasks of that stream. -/
def LoopPhase.weight : LoopPhase → Nat
  | received _ => 8
  | opening _ => 7
  | holding _ _ => 2
  | waiting | stopped => 0

namespace ServingAction

/-- What comes from outside, and what the tasks do about it. That the tunnel stops is neither. -/
def feeds : ServingAction → Bool
  | arrive _ | reply _ _ => true
  | _ => false

def own : ServingAction → Bool
  | arrive _ | reply _ _ | stop => false
  | _ => true

end ServingAction

namespace Serving

variable {s t : Serving} {act : ServingAction} {sid : Nat}

def waiting (s : Serving) : Nat := s.loop.weight + 9 * s.inbox.length + s.replies.length

def todo (s : Serving) : Nat := ∑ sid ∈ Finset.range s.opened, (s.streams sid).weight + s.waiting

/-- What a step does to the streams and to what is left to be done. -/
inductive Works (s : Serving) (act : ServingAction) : Serving → Prop
  | loop (loop : LoopPhase) (arrivals : Nat) (inbox : List Arrival) (replies : List (Nat × UdpPacket))
      (sent : List (Nat × Bytes × SocketAddr))
      (pays : loop.weight + 9 * inbox.length + replies.length + (if act.own then 1 else 0) ≤
        s.waiting + 9 * (if act.feeds then 1 else 0)) :
      Works s act ⟨s.streamMap, s.streams, s.opened, loop, arrivals, inbox, replies, sent⟩
  | stream (sid : Nat) (stream : UdpStream) (loop : LoopPhase) (key : stream.key = (s.streams sid).key)
      (reader : stream.reader = .done → (s.streams sid).reader = .done)
      (there : (s.streams sid).writer ≠ .done ∨ (s.streams sid).reader ≠ .done)
      (pays : stream.weight + loop.weight < (s.streams sid).weight + s.loop.weight) :
      Works s act { s.setStream sid stream with loop := loop }
  | cleanup (sid : Nat) (stream : UdpStream) (key : stream.key = (s.streams sid).key)
      (there : (s.streams sid).writer ≠ .done ∨ (s.streams sid).reader ≠ .done)
      (pays : stream.weight < (s.streams sid).weight) :
      Works s act ((s.remove (s.streams sid).key).setStream sid stream)
  | publish (datagram : Arrival) (header : Bytes) (opening : s.loop = .opening datagram) :
      Works s act { s.setStream s.opened ⟨datagram.packet.key, header, [], [], .running, .running⟩ with
        streamMap := Function.update s.streamMap datagram.packet.key (some s.opened)
        opened := s.opened + 1
        loop := .holding s.opened datagram }

theorem step_works (h : s.step act = some t) : Works s act t := by
  cases act with
  | arrive packet =>
    cases h
    refine .loop _ _ _ _ _ ?_
    simp only [waiting, ServingAction.own, ServingAction.feeds,
      Bool.false_eq_true, ↓reduceIte, List.length_append, List.length_cons, List.length_nil]
    omega
  | recv =>
    simp only [step] at h
    split at h <;> cases h
    rename_i loop inbox
    refine .loop _ _ _ _ _ ?_
    simp only [waiting, loop, inbox, LoopPhase.weight, ServingAction.own, ServingAction.feeds,
      Bool.false_eq_true, ↓reduceIte, List.length_cons]
    omega
  | lookup =>
    simp only [step, lookup] at h
    split at h
    case h_2 => cases h
    rename_i datagram loop
    split at h <;> cases h
    all_goals
      refine .loop _ _ _ _ _ ?_
      simp only [waiting, loop, LoopPhase.weight, ServingAction.own, ServingAction.feeds,
        Bool.false_eq_true, ↓reduceIte]
      omega
  | openFails =>
    simp only [step] at h
    split at h <;> cases h
    rename_i loop
    refine .loop _ _ _ _ _ ?_
    simp only [waiting, loop, LoopPhase.weight, ServingAction.own, ServingAction.feeds,
      Bool.false_eq_true, ↓reduceIte]
    omega
  | publish =>
    simp only [step, publish] at h
    split at h
    case h_2 => cases h
    rename_i datagram opening
    split at h <;> cases h
    exact .publish datagram _ opening
  | enqueue =>
    simp only [step, enqueue] at h
    split at h
    case h_2 => cases h
    rename_i sid datagram loop
    split at h <;> cases h
    · refine .loop _ _ _ _ _ ?_
      simp only [waiting, loop, LoopPhase.weight, ServingAction.own, ServingAction.feeds,
        Bool.false_eq_true, ↓reduceIte]
      omega
    · rename_i room
      refine .stream sid _ _ rfl id (.inl fun done => room (.inl done)) ?_
      simp only [UdpStream.weight, loop, LoopPhase.weight, List.length_append, List.length_cons, List.length_nil]
      omega
  | stop =>
    cases h
    refine .loop _ _ _ _ _ ?_
    simp [waiting, LoopPhase.weight, ServingAction.own, ServingAction.feeds]
  | write sid =>
    simp only [step, write] at h
    split at h <;> cases h
    rename_i running queue
    refine .stream sid _ s.loop rfl id (.inl (by rw [running]; exact TaskPhase.noConfusion)) ?_
    simp [UdpStream.weight, running, queue]
  | writeFails sid count =>
    simp only [step, writeFails] at h
    split at h <;> cases h
    rename_i running queue
    refine .stream sid _ s.loop rfl id (.inl (by rw [running]; exact TaskPhase.noConfusion)) ?_
    simp only [UdpStream.weight, running, queue, TaskPhase.weight, List.length_cons]
    omega
  | writerIdle sid =>
    simp only [step, writerIdle] at h
    split at h <;> cases h
    rename_i idle
    refine .stream sid _ s.loop rfl id (.inl (by rw [idle.1]; exact TaskPhase.noConfusion)) ?_
    simp [UdpStream.weight, idle.1, TaskPhase.weight]
  | writerCleanup sid =>
    simp only [step, writerCleanup] at h
    split at h <;> cases h
    rename_i leaving
    refine .cleanup sid _ rfl (.inl (by rw [leaving]; exact TaskPhase.noConfusion)) ?_
    simp [UdpStream.weight, leaving, TaskPhase.weight]
  | reply sid payload =>
    simp only [step, reply] at h
    split at h <;> cases h
    refine .loop _ _ _ _ _ ?_
    simp only [waiting, ServingAction.own, ServingAction.feeds,
      Bool.false_eq_true, ↓reduceIte, List.length_append, List.length_cons, List.length_nil]
    omega
  | readerEnds sid =>
    simp only [step, readerEnds] at h
    split at h <;> cases h
    rename_i running
    refine .stream sid _ s.loop rfl (by rintro ⟨⟩) (.inr (by rw [running]; exact TaskPhase.noConfusion)) ?_
    simp [UdpStream.weight, running, TaskPhase.weight]
  | readerCleanup sid =>
    simp only [step, readerCleanup] at h
    split at h <;> cases h
    rename_i leaving
    refine .cleanup sid _ rfl (.inr (by rw [leaving]; exact TaskPhase.noConfusion)) ?_
    simp [UdpStream.weight, leaving, TaskPhase.weight]
  | sendReply =>
    simp only [step, sendReply] at h
    split at h <;> cases h
    rename_i replies
    refine .loop _ _ _ _ _ ?_
    simp only [waiting, replies, ServingAction.own, ServingAction.feeds,
      Bool.false_eq_true, ↓reduceIte, List.length_cons]
    omega

/-! ### What the entries depend on -/

/-- The tasks belong to streams that have been opened, and a reader that has ended has left no entry. -/
structure Tidy (s : Serving) : Prop where
  unopened : ∀ sid, s.opened ≤ sid → (s.streams sid).writer = .done ∧ (s.streams sid).reader = .done
  read : ∀ sid, (s.streams sid).reader = .done → s.streamMap (s.streams sid).key ≠ some sid

theorem tidy_new : new.Tidy := ⟨fun _ _ => ⟨rfl, rfl⟩, fun _ _ => Option.some_ne_none _ ∘ Eq.symm⟩

theorem Tidy.opened (tidy : s.Tidy) (there : (s.streams sid).writer ≠ .done ∨ (s.streams sid).reader ≠ .done) :
    sid < s.opened := by
  by_contra above
  obtain ⟨writer, reader⟩ := tidy.unopened sid (Nat.le_of_not_lt above)
  exact there.elim (absurd writer) (absurd reader)

theorem works_tidy (tidy : s.Tidy) (works : Works s act t) : t.Tidy := by
  cases works with
  | loop => exact ⟨tidy.unopened, tidy.read⟩
  | stream sid stream loop key reader there pays =>
    have below := tidy.opened there
    constructor
    · intro other above
      have different : other ≠ sid := Nat.ne_of_gt (Nat.lt_of_lt_of_le below above)
      simp only [setStream, Function.update_of_ne different]
      exact tidy.unopened other above
    · intro other
      by_cases same : other = sid
      · subst same
        simp only [setStream, Function.update_self, key]
        exact fun done => tidy.read other (reader done)
      · simp only [setStream, Function.update_of_ne same]
        exact tidy.read other
  | cleanup sid stream key there pays =>
    have below := tidy.opened there
    constructor
    · intro other above
      have different : other ≠ sid := Nat.ne_of_gt (Nat.lt_of_lt_of_le below above)
      simp only [setStream, remove, Function.update_of_ne different]
      exact tidy.unopened other above
    · intro other done
      by_cases same : other = sid
      · subst same
        simp [setStream, remove, key]
      · simp only [setStream, remove, Function.update_of_ne same] at done ⊢
        -- The entry under the key of the task that ends is gone, whosever it was.
        exact fun entry => tidy.read other done (Slots.of_update_none entry).2
  | publish datagram header opening =>
    constructor
    · intro other above
      have different : other ≠ s.opened := Nat.ne_of_gt above
      simp only [setStream, Function.update_of_ne different]
      exact tidy.unopened other (Nat.le_of_succ_le above)
    · intro other done entry
      by_cases same : other = s.opened
      · subst same
        simp only [setStream, Function.update_self] at done
        cases done
      · simp only [setStream, Function.update_of_ne same] at done entry
        rcases Slots.of_update_some entry with ⟨_, newest⟩ | ⟨_, before⟩
        · exact same newest
        · exact tidy.read other done before

/-! ### Everything is released -/

theorem works_todo (tidy : s.Tidy) (works : Works s act t) :
    t.todo + (if act.own then 1 else 0) ≤ s.todo + 9 * (if act.feeds then 1 else 0) := by
  have most : (if act.own then 1 else 0) ≤ 1 := by split <;> omega
  cases works with
  | loop loop arrivals inbox replies sent pays =>
    simp only [todo, waiting] at pays ⊢
    omega
  | stream sid stream loop key reader there pays =>
    have sum := Weights.sum_update UdpStream.weight s.streams (tidy.opened there) stream
    simp only [todo, waiting, setStream] at sum ⊢
    omega
  | cleanup sid stream key there pays =>
    have sum := Weights.sum_update UdpStream.weight s.streams (tidy.opened there) stream
    simp only [todo, waiting, setStream, remove] at sum ⊢
    omega
  | publish datagram header opening =>
    have older : ∀ stream, ∑ sid ∈ Finset.range s.opened, (Function.update s.streams s.opened stream sid).weight =
        ∑ sid ∈ Finset.range s.opened, (s.streams sid).weight := fun stream =>
      Finset.sum_congr rfl fun sid below => by rw [Function.update_of_ne (Nat.ne_of_lt (Finset.mem_range.mp below))]
    have fresh : UdpStream.weight ⟨datagram.packet.key, header, [], [], .running, .running⟩ = 4 := rfl
    simp only [todo, waiting, setStream, Finset.sum_range_succ, older, Function.update_self, fresh, opening,
      LoopPhase.weight]
    omega

/-- No task is left, no entry, and nothing on its way. -/
structure Released (s : Serving) : Prop where
  loop : s.loop = .stopped ∨ s.loop = .waiting ∧ s.inbox = []
  tasks : ∀ sid, (s.streams sid).writer = .done ∧ (s.streams sid).reader = .done
  entries : ∀ key, s.streamMap key = none
  replies : s.replies = []

theorem loop_can_move (busy : ¬ (s.loop = .stopped ∨ s.loop = .waiting ∧ s.inbox = [])) :
    ∃ act, act.own = true ∧ (s.step act).isSome := by
  cases phase : s.loop with
  | waiting =>
    cases inbox : s.inbox with
    | nil => exact absurd (.inr ⟨phase, inbox⟩) busy
    | cons datagram rest => exact ⟨.recv, rfl, by simp [step, phase, inbox]⟩
  | received datagram =>
    refine ⟨.lookup, rfl, ?_⟩
    simp only [step, lookup, phase]
    split <;> rfl
  | opening datagram => exact ⟨.openFails, rfl, by simp [step, phase]⟩
  | holding sid datagram =>
    refine ⟨.enqueue, rfl, ?_⟩
    simp only [step, enqueue, phase]
    split <;> rfl
  | stopped => exact absurd (.inl phase) busy

/-- A reader can end, and a writer whose reader has ended has a datagram to send or no sender. -/
theorem stream_can_move (tidy : s.Tidy) (rests : s.loop = .stopped ∨ s.loop = .waiting ∧ s.inbox = [])
    (there : ¬ ((s.streams sid).writer = .done ∧ (s.streams sid).reader = .done)) :
    ∃ act, act.own = true ∧ (s.step act).isSome := by
  cases reader : (s.streams sid).reader with
  | running => exact ⟨.readerEnds sid, rfl, by simp [step, readerEnds, reader]⟩
  | leaving => exact ⟨.readerCleanup sid, rfl, by simp [step, readerCleanup, reader]⟩
  | done =>
    cases writer : (s.streams sid).writer with
    | done => exact absurd ⟨writer, reader⟩ there
    | leaving => exact ⟨.writerCleanup sid, rfl, by simp [step, writerCleanup, writer]⟩
    | running =>
      cases queue : (s.streams sid).queue with
      | cons datagram rest => exact ⟨.write sid, rfl, by simp [step, write, writer, queue]⟩
      | nil =>
        have unheld : s.loop.sender ≠ some sid := by
          rcases rests with stopped | ⟨waits, _⟩
          · simp [stopped, LoopPhase.sender]
          · simp [waits, LoopPhase.sender]
        exact ⟨.writerIdle sid, rfl, by simp [step, writerIdle, writer, queue, tidy.read sid reader, unheld]⟩

theorem can_move (tidy : s.Tidy) (isolated : s.Isolated) :
    s.Released ∨ ∃ act, act.own = true ∧ (s.step act).isSome := by
  by_cases rests : s.loop = .stopped ∨ s.loop = .waiting ∧ s.inbox = []
  case neg => exact .inr (loop_can_move rests)
  by_cases tasks : ∀ sid, (s.streams sid).writer = .done ∧ (s.streams sid).reader = .done
  case neg =>
    obtain ⟨sid, there⟩ := not_forall.mp tasks
    exact .inr (stream_can_move tidy rests there)
  cases replies : s.replies with
  | cons reply rest => exact .inr ⟨.sendReply, rfl, by simp [step, sendReply, replies]⟩
  | nil =>
    refine .inl ⟨rests, tasks, fun key => ?_, replies⟩
    cases entry : s.streamMap key with
    | none => rfl
    | some sid =>
      obtain ⟨_, rfl⟩ := isolated.entries key sid entry
      exact absurd entry (tidy.read sid (tasks sid).2)

/-- A datagram is sent, and the flow expires without a reply. -/
def briefFlow : List ServingAction :=
  [.arrive ⟨[1], .v4 0x7F000001 4001, none⟩, .recv, .lookup, .publish, .enqueue, .write 0]

def expiry : List ServingAction := [.readerEnds 0, .readerCleanup 0, .writerIdle 0, .writerCleanup 0]

end Serving

end Rstun.Udp
