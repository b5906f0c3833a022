import Rstun.Base.Run
import Rstun.Codec.Tasks

/-!
# The idle timeout of the encoder

The loop of `run_encoder` in basic mode, with a clock. Every turn arms the timeout of the read and the
flush timer anew. Time passes while the loop waits for one of them or for the local reader; encoding and
writing take none. The clock counts nanoseconds.
-/

namespace Rstun.Codec
open Streaming Transition

/-- What the local reader has to give. -/
inductive Input where
  | bytes (first : UInt8) (rest : Bytes)
  | eof
  | error
  deriving DecidableEq

/-- `select!` polls its branches in any order. Without a `WriteResult` the codec fails. -/
structure TurnChoice where
  flushFirst : Bool
  work : Option WriteResult
  deriving DecidableEq

/-- `due` is what comes from the reader and when. `lastInput` is when something came last, or the loop
began. -/
structure Clocked where
  encoder : Encoder UInt8
  now : Nat
  lastInput : Nat
  due : List (Nat × Input)
  result : Option TaskResult

def fromMillis (ms : Nat) : Nat := ms * 1000000

namespace Clocked

def start (encoder : Encoder UInt8) (due : List (Nat × Input)) : Clocked := ⟨encoder, 0, 0, due, none⟩

/-- When `timeout` is ready, and what with. It looks at the reader before it looks at the clock. -/
def readReady (timeout : Nat) (s : Clocked) : Nat × Option (Input × List (Nat × Input)) :=
  match s.due with
  | (ready, input) :: due =>
    if max ready s.now ≤ s.now + timeout then (max ready s.now, some (input, due)) else (s.now + timeout, none)
  | [] => (s.now + timeout, none)

def readEvent (work : Option WriteResult) : Option Input → EncEvent
  | some (.bytes first rest) => (work.map (EncEvent.read (first :: rest))).getD .codecError
  | some .eof => (work.map (EncEvent.read [])).getD .codecError
  | some .error => .readError
  | none => .readTimeout

def flushEvent (work : Option WriteResult) : EncEvent := (work.map EncEvent.tick).getD .codecError

/-- The read branch is the first to be ready, or is polled first. -/
def Reads (timeout flushInterval : Nat) (s : Clocked) (choice : TurnChoice) : Prop :=
  (s.readReady timeout).1 < s.now + flushInterval ∨
    (s.readReady timeout).1 = s.now + flushInterval ∧ choice.flushFirst = false

instance (timeout flushInterval : Nat) (s : Clocked) (choice : TurnChoice) :
    Decidable (Reads timeout flushInterval s choice) :=
  inferInstanceAs (Decidable (_ ∨ _ ∧ _))

def readTurn (z : HistoryCodec UInt8) (timeout : Nat) (s : Clocked) (choice : TurnChoice) : Clocked :=
  let (readAt, input) := s.readReady timeout
  let done := encoderTurn z s.encoder (readEvent choice.work (input.map Prod.fst))
  ⟨done.encoder, readAt, if input.isSome then readAt else s.lastInput, (input.map Prod.snd).getD s.due, done.result⟩

def flushTurn (z : HistoryCodec UInt8) (flushInterval : Nat) (s : Clocked) (choice : TurnChoice) : Clocked :=
  let done := encoderTurn z s.encoder (flushEvent choice.work)
  { s with encoder := done.encoder, now := s.now + flushInterval, result := done.result }

/-- A turn of the loop, unless it has returned. -/
def turn (z : HistoryCodec UInt8) (timeout flushInterval : Nat) (s : Clocked) (choice : TurnChoice) : Option Clocked :=
  if s.result.isSome then none
  else if Reads timeout flushInterval s choice then some (readTurn z timeout s choice)
  else some (flushTurn z flushInterval s choice)

/-- Nothing comes before the timeout is over. -/
def Silent (timeout : Nat) (s : Clocked) : Prop := ∀ next ∈ s.due.head?, s.lastInput + timeout < next.1

end Clocked

open Clocked

/-- While the loop goes on, no turn of it takes longer than `timeout` since the last input; and without any
input it returns `Timeout` just then. -/
structure Timely (z : HistoryCodec UInt8) (encoder : Encoder UInt8) (timeout flushInterval : Nat) : Prop where
  bounded : ∀ due choices s choice t, run (turn z timeout flushInterval) (start encoder due) choices = some s →
    turn z timeout flushInterval s choice = some t → t.now ≤ s.lastInput + timeout
  fires : ∀ due choices s, run (turn z timeout flushInterval) (start encoder due) choices = some s →
    s.result = none → s.Silent timeout → ∀ later : Nat → TurnChoice, ∃ n t,
      run (turn z timeout flushInterval) s ((List.range n).map later) = some t ∧
        t.result = some (.ok .timeout) ∧ t.now = s.lastInput + timeout

section Timely
variable {z : HistoryCodec UInt8} {timeout flushInterval : Nat} {s t : Clocked} {choice : TurnChoice}

theorem readReady_le (timeout : Nat) (s : Clocked) : (s.readReady timeout).1 ≤ s.now + timeout := by
  unfold readReady
  split
  · split
    · assumption
    · exact Nat.le_refl _
  · exact Nat.le_refl _

/-! ### A longer flush interval -/

/-- The loop never gets to flush. -/
theorem turn_of_lt (shorter : timeout < flushInterval) (looping : s.result = none) :
    turn z timeout flushInterval s choice = some (readTurn z timeout s choice) := by
  have ready := readReady_le timeout s
  have reads : Reads timeout flushInterval s choice := Or.inl (by omega)
  rw [turn, looping, if_neg (by simp), if_pos reads]

theorem looping_of_turn (turned : turn z timeout flushInterval s choice = some t) : s.result = none := by
  rw [turn] at turned
  split at turned
  · cases turned
  · rename_i looping
    simpa using looping

/-- Whenever the loop goes on, it is at a time when something came. -/
theorem readTurn_now (looping : (readTurn z timeout s choice).result = none) :
    (readTurn z timeout s choice).now = (readTurn z timeout s choice).lastInput := by
  unfold readTurn at looping ⊢
  generalize s.readReady timeout = ready at looping ⊢
  rcases ready with ⟨readAt, _ | input⟩
  · cases looping
  · rfl

theorem now_eq_lastInput (shorter : timeout < flushInterval) {encoder : Encoder UInt8} {due : List (Nat × Input)}
    {choices : List TurnChoice} (ran : run (turn z timeout flushInterval) (start encoder due) choices = some s)
    (looping : s.result = none) : s.now = s.lastInput := by
  refine run_invariant (I := fun s => s.result = none → s.now = s.lastInput) ?_ (fun _ => rfl) ran looping
  intro s choice t _ turned looping
  rw [turn_of_lt shorter (looping_of_turn turned)] at turned
  obtain rfl := Option.some.inj turned
  exact readTurn_now looping

theorem readReady_silent (silent : s.Silent timeout) (same : s.now = s.lastInput) :
    s.readReady timeout = (s.now + timeout, none) := by
  unfold readReady
  split
  · rename_i ready input due schedule
    have late : s.lastInput + timeout < ready := silent (ready, input) (by rw [schedule]; rfl)
    exact if_neg (by omega)
  · rfl

theorem timely_of_lt (shorter : timeout < flushInterval) (encoder : Encoder UInt8) :
    Timely z encoder timeout flushInterval where
  bounded due choices s choice t ran turned := by
    have looping := looping_of_turn turned
    rw [turn_of_lt shorter looping] at turned
    obtain rfl := Option.some.inj turned
    rw [← now_eq_lastInput shorter ran looping]
    exact readReady_le timeout s
  fires due choices s ran looping silent later := by
    have same := now_eq_lastInput shorter ran looping
    refine ⟨1, readTurn z timeout s (later 0), ?_, ?_⟩
    · show run _ s [later 0] = _
      rw [run, turn_of_lt shorter looping]
      rfl
    · rw [readTurn, readReady_silent silent same, ← same]
      exact ⟨rfl, rfl⟩

/-! ### A flush interval that is not longer -/

def flushFirst : TurnChoice := ⟨true, some .ok⟩

/-- Nothing comes, and the flush timer is first every time. -/
theorem turn_flush (early : flushInterval ≤ timeout) (looping : s.result = none) (nothing : s.due = []) :
    turn z timeout flushInterval s flushFirst = some (flushTurn z flushInterval s flushFirst) := by
  have ready : (s.readReady timeout).1 = s.now + timeout := by rw [readReady, nothing]
  rw [turn, looping, if_neg (by simp), if_neg]
  rintro (before | ⟨_, polled⟩)
  · omega
  · cases polled

theorem flushTurn_looping (z : HistoryCodec UInt8) (flushInterval : Nat) (s : Clocked) :
    (flushTurn z flushInterval s flushFirst).result = none := by
  show (emitTurn z s.encoder .flush [] .ok none).result = none
  unfold emitTurn
  dsimp only
  split <;> rfl

/-- The loop goes on for ever. -/
theorem run_flush (early : flushInterval ≤ timeout) (looping : s.result = none) (nothing : s.due = []) (n : Nat) :
    ∃ t, run (turn z timeout flushInterval) s (List.replicate n flushFirst) = some t ∧ t.result = none ∧
      t.now = s.now + n * flushInterval ∧ t.lastInput = s.lastInput := by
  induction n generalizing s with
  | zero => exact ⟨s, rfl, looping, by simp, rfl⟩
  | succ n ih =>
    obtain ⟨t, ran, going, now, input⟩ := ih (s := flushTurn z flushInterval s flushFirst)
      (flushTurn_looping z flushInterval s) nothing
    refine ⟨t, ?_, going, ?_, input⟩
    · rw [List.replicate_succ, run, turn_flush early looping nothing]
      exact ran
    · rw [now, Nat.succ_mul]
      show s.now + flushInterval + n * flushInterval = _
      omega

theorem lt_of_timely {encoder : Encoder UInt8} (timely : Timely z encoder timeout flushInterval) :
    timeout < flushInterval := by
  by_contra early
  obtain ⟨n, t, ran, returned, _⟩ := timely.fires [] [] (start encoder []) rfl rfl (by rintro _ ⟨⟩) fun _ => flushFirst
  obtain ⟨t', ran', going, _⟩ := run_flush (z := z) (s := start encoder []) (Nat.le_of_not_lt early) rfl rfl n
  rw [List.map_const', List.length_range, ran'] at ran
  obtain rfl := Option.some.inj ran
  rw [going] at returned
  cases returned

/-- The idle timeout holds for all schedules if and only if it is shorter than the flush interval. -/
theorem idle_timeout_fires_iff (z : HistoryCodec UInt8) (encoder : Encoder UInt8)
    (streamTimeoutMs flushInterval : Nat) :
    Timely z encoder (fromMillis streamTimeoutMs) flushInterval ↔ fromMillis streamTimeoutMs < flushInterval :=
  ⟨lt_of_timely, fun shorter => timely_of_lt shorter encoder⟩

end Timely

/-- With the timeout and the flush interval that the client has by default, 30 s and 150 ms, a stream on
which nothing comes is still open after more than 30 s. -/
theorem default_never_fires : ∃ s : Clocked,
    run (turn (framed [0]) (fromMillis 30000) (fromMillis 150)) (start ⟨[], []⟩ []) (List.replicate 201 flushFirst) =
      some s ∧ s.result = none ∧ s.lastInput = 0 ∧ s.now = fromMillis 30150 := by
  have shorter : fromMillis 150 ≤ fromMillis 30000 := by decide
  obtain ⟨t, ran, going, now, input⟩ := run_flush (z := framed [0]) (s := start ⟨[], []⟩ []) shorter rfl rfl 201
  exact ⟨t, ran, going, input, now⟩

end Rstun.Codec
