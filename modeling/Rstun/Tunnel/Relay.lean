import Rstun.Base.Run
import Rstun.Tunnel.Target
import Mathlib.Logic.Function.Basic

/-!
# The plain relay

`StreamUtil::start_flowing` has a task for each direction between a local stream and a QUIC stream. A task
reads with a timeout and writes what it has read. After a timeout it tells the other task and waits until
that one has timed out or ended, too. Then it ends, without having read again.
-/

namespace Rstun.Tunnel
open Transition

inductive Direction where
  | quicToStream
  | streamToQuic
  deriving DecidableEq

def Direction.other : Direction → Direction
  | quicToStream => streamToQuic
  | streamToQuic => quicToStream

/-- A task has read a chunk that it is writing, or waits for the other one after a timeout. -/
inductive RelayPhase where
  | reading
  | writing (chunk : Bytes)
  | waiting
  | ended
  deriving DecidableEq

/-- One direction: the bytes that have arrived for it and have not been read, those that it has written,
and whether its oneshot has been used. The last two fields are for the record: whether it has come to the
end of its input or to an error, and whether a read has timed out. -/
structure Half where
  phase : RelayPhase
  pending : Bytes
  relayed : Bytes
  signalled : Bool
  finished : Bool
  timedOut : Bool
  deriving DecidableEq

inductive HalfAction where
  | arrive (bytes : Bytes)
  | read (count : Nat)
  | write
  | writeFails (count : Nat)
  | eof
  | readFails
  | timeout
  | wake
  deriving DecidableEq

namespace Half

def new : Half := ⟨.reading, [], [], false, false, false⟩

/-- The end of the task after `Ok(0)` or an error. -/
def finish (h : Half) : Half := { h with phase := .ended, signalled := true, finished := true }

/-- A read has its timeout only if there is nothing to read, and a write has none. -/
def step (otherSignalled : Bool) (h : Half) (act : HalfAction) : Option Half :=
  match act, h.phase with
  | .arrive bytes, _ => some { h with pending := h.pending ++ bytes }
  | .read count, .reading =>
    if 0 < count ∧ count ≤ h.pending.length then
      some { h with phase := .writing (h.pending.take count), pending := h.pending.drop count }
    else none
  | .write, .writing chunk => some { h with phase := .reading, relayed := h.relayed ++ chunk }
  | .writeFails count, .writing chunk => some { h with relayed := h.relayed ++ chunk.take count }.finish
  | .eof, .reading => if h.pending = [] then some h.finish else none
  | .readFails, .reading => some h.finish
  | .timeout, .reading =>
    if h.pending = [] then some { h with phase := .waiting, signalled := true, timedOut := true } else none
  | .wake, .waiting => if otherSignalled then some { h with phase := .ended } else none
  | _, _ => none

def relaying (h : Half) : Bool :=
  match h.phase with
  | .reading | .writing _ => true
  | .waiting | .ended => false

end Half

abbrev Relay := Direction → Half

namespace Relay

def new : Relay := fun _ => .new

def step (r : Relay) (act : Direction × HalfAction) : Option Relay :=
  match (r act.1).step (r act.1.other).signalled act.2 with
  | some h => some (Function.update r act.1 h)
  | none => none

theorem step_eq {r t : Relay} {d : Direction} {act : HalfAction} (h : r.step (d, act) = some t) :
    ∃ half, (r d).step (r d.other).signalled act = some half ∧ t = Function.update r d half := by
  simp only [step] at h
  split at h
  · rename_i half stepped
    exact ⟨half, stepped, (Option.some.inj h).symm⟩
  · cases h

end Relay

/-! ### When a direction stops -/

namespace Half

variable {signalled : Bool} {h h' : Half} {act : HalfAction}

/-- The record of a direction in each phase. The oneshot is used when the direction stops. -/
def Sound (h : Half) : Prop :=
  match h.phase with
  | .reading | .writing _ => h.finished = false ∧ h.timedOut = false ∧ h.signalled = false
  | .waiting => h.finished = false ∧ h.timedOut = true ∧ h.signalled = true
  | .ended => (h.finished = true ∨ h.timedOut = true) ∧ h.signalled = true

theorem step_sound (sound : h.Sound) (stepped : h.step signalled act = some h') : h'.Sound := by
  unfold step at stepped
  split at stepped
  · cases stepped
    exact sound
  · rename_i phase
    split at stepped <;> cases stepped
    simpa only [Sound, phase] using sound
  · rename_i phase
    cases stepped
    simpa only [Sound, phase] using sound
  · cases stepped
    exact ⟨.inl rfl, rfl⟩
  · split at stepped <;> cases stepped
    exact ⟨.inl rfl, rfl⟩
  · cases stepped
    exact ⟨.inl rfl, rfl⟩
  · rename_i phase
    split at stepped <;> cases stepped
    simp only [Sound, phase] at sound
    exact ⟨sound.1, rfl, rfl⟩
  · rename_i phase
    split at stepped <;> cases stepped
    simp only [Sound, phase] at sound
    exact ⟨.inr sound.2.1, sound.2.2⟩
  · cases stepped

theorem step_timedOut (other : act ≠ .timeout) (stepped : h.step signalled act = some h') :
    h'.timedOut = h.timedOut := by
  unfold step at stepped
  split at stepped
  case h_7 => exact absurd rfl other
  case h_2 | h_5 | h_8 =>
    split at stepped <;> cases stepped
    rfl
  all_goals cases stepped <;> rfl

theorem step_timeout (stepped : h.step signalled .timeout = some h') :
    h.phase = .reading ∧ h' = { h with phase := .waiting, signalled := true, timedOut := true } := by
  unfold step at stepped
  split at stepped <;> first | contradiction | skip
  rename_i phase
  split at stepped <;> cases stepped
  exact ⟨phase, rfl⟩

/-- A direction that has stopped does not begin again. -/
theorem step_stopped (stopped : h.relaying = false) (stepped : h.step signalled act = some h') :
    h'.relaying = false ∧ h'.relayed = h.relayed := by
  unfold step at stepped
  split at stepped
  · cases stepped
    exact ⟨stopped, rfl⟩
  case h_8 =>
    split at stepped <;> cases stepped
    exact ⟨rfl, rfl⟩
  case h_9 => cases stepped
  all_goals
    rename_i phase
    simp [relaying, phase] at stopped

end Half

namespace Relay

variable {r t : Relay} {d : Direction} {acts : List (Direction × HalfAction)}

/-- A direction that has ended without an end of its input or an error has timed out, and the other one
has used its oneshot. -/
structure Orderly (r : Relay) : Prop where
  sound : ∀ d, (r d).Sound
  ended : ∀ d, (r d).phase = .ended → (r d).finished = true ∨
    (r d).timedOut = true ∧ (r d.other).signalled = true

theorem orderly_new : new.Orderly := ⟨fun _ => ⟨rfl, rfl, rfl⟩, nofun⟩

theorem step_signalled {signalled : Bool} {h h' : Half} {act : HalfAction}
    (stepped : h.step signalled act = some h') (before : h.signalled = true) : h'.signalled = true := by
  unfold Half.step at stepped
  split at stepped
  case h_2 | h_5 | h_7 | h_8 =>
    split at stepped <;> cases stepped
    first | exact before | rfl
  all_goals cases stepped <;> first | exact before | rfl

/-- How a task comes to its end. -/
theorem step_ended {signalled : Bool} {h h' : Half} {act : HalfAction} (sound : h.Sound)
    (stepped : h.step signalled act = some h') (ended : h'.phase = .ended) :
    h.phase = .ended ∧ h'.finished = h.finished ∧ h'.timedOut = h.timedOut ∨ h'.finished = true ∨
      h'.timedOut = true ∧ signalled = true := by
  unfold Half.step at stepped
  split at stepped
  · cases stepped
    exact .inl ⟨ended, rfl, rfl⟩
  case h_4 | h_6 =>
    cases stepped
    exact .inr (.inl rfl)
  case h_5 =>
    split at stepped <;> cases stepped
    exact .inr (.inl rfl)
  case h_8 =>
    rename_i phase
    split at stepped <;> cases stepped
    rename_i signal
    simp only [Half.Sound, phase] at sound
    exact .inr (.inr ⟨sound.2.1, signal⟩)
  case h_2 | h_7 =>
    split at stepped <;> cases stepped
    cases ended
  all_goals
    cases stepped
    try cases ended

theorem step_orderly {act : Direction × HalfAction} (inv : r.Orderly) (h : r.step act = some t) : t.Orderly := by
  obtain ⟨d, act⟩ := act
  obtain ⟨half, stepped, rfl⟩ := step_eq h
  have own : (Function.update r d half) d.other = r d.other := by
    rw [Function.update_of_ne (by cases d <;> nofun)]
  refine ⟨?_, fun e ended => ?_⟩
  · apply (Function.forall_update_iff r fun _ half => half.Sound).mpr
    exact ⟨Half.step_sound (inv.sound d) stepped, fun e _ => inv.sound e⟩
  · by_cases this : e = d
    · subst this
      rw [own]
      rw [Function.update_self] at ended ⊢
      rcases step_ended (inv.sound e) stepped ended with ⟨before, finished, timedOut⟩ | after
      · rw [finished, timedOut]
        exact inv.ended e before
      · exact after
    · rw [Function.update_of_ne this] at ended ⊢
      rcases inv.ended e ended with finished | ⟨timedOut, signalled⟩
      · exact .inl finished
      · obtain rfl : e.other = d := by cases e <;> cases d <;> first | rfl | exact absurd rfl this
        rw [Function.update_self]
        exact .inr ⟨timedOut, step_signalled stepped signalled⟩

theorem run_orderly (h : run step new acts = some r) : r.Orderly :=
  run_invariant (fun _ _ _ inv stepped => step_orderly inv stepped) orderly_new h

/-- What the handshake is for: a task goes away only after the end of its input or an error, or when it has
timed out and the other one has timed out or is gone. -/
theorem ended_after_both (h : run step new acts = some r) (ended : (r d).phase = .ended) :
    (r d).finished = true ∨
      (r d).timedOut = true ∧ ((r d.other).timedOut = true ∨ (r d.other).finished = true) := by
  have inv := run_orderly h
  rcases inv.ended d ended with finished | ⟨timedOut, signalled⟩
  · exact .inl finished
  · refine .inr ⟨timedOut, ?_⟩
    have sound := inv.sound d.other
    unfold Half.Sound at sound
    split at sound
    · cases sound.2.2.symm.trans signalled
    · cases sound.2.2.symm.trans signalled
    · exact .inl sound.2.1
    · exact sound.1.symm

/-- But a direction that has stopped has stopped for good, whatever arrives for it. -/
theorem stopped_for_good (h : run step r acts = some t) (stopped : (r d).relaying = false) :
    (t d).relaying = false ∧ (t d).relayed = (r d).relayed := by
  refine run_invariant (I := fun t : Relay => (t d).relaying = false ∧ (t d).relayed = (r d).relayed)
    ?_ ⟨stopped, rfl⟩ h
  rintro u ⟨e, act⟩ v ⟨before, same⟩ moved
  obtain ⟨half, stepped, rfl⟩ := step_eq moved
  by_cases this : d = e
  · subst this
    rw [Function.update_self, ← same]
    exact Half.step_stopped before stepped
  · rw [Function.update_of_ne this]
    exact ⟨before, same⟩

/-- A direction stops only after an end or an error in it, or after a timeout in both. -/
def Fair (r : Relay) : Prop :=
  ∀ d, (r d).relaying = true ∨ (r d).finished = true ∨
    (r d).timedOut = true ∧ (r d.other).timedOut = true

/-- No read has timed out. -/
def Undisturbed (r : Relay) : Prop := ∀ d, (r d).timedOut = false

theorem step_undisturbed {act : Direction × HalfAction} (before : r.Undisturbed) (other : act.2 ≠ .timeout)
    (h : r.step act = some t) : t.Undisturbed := by
  obtain ⟨half, stepped, rfl⟩ := step_eq h
  apply (Function.forall_update_iff r fun _ half => half.timedOut = false).mpr
  exact ⟨(Half.step_timedOut other stepped).trans (before act.1), fun e _ => before e⟩

theorem Orderly.fair (inv : r.Orderly) (undisturbed : r.Undisturbed) : r.Fair := by
  intro d
  have sound := inv.sound d
  unfold Half.Sound at sound
  unfold Half.relaying
  split at sound
  · exact .inl rfl
  · exact .inl rfl
  · cases sound.2.1.symm.trans (undisturbed d)
  · rcases sound.1 with finished | timedOut
    · exact .inr (.inl finished)
    · cases timedOut.symm.trans (undisturbed d)

/-- The first timeout stops a direction while the other one has none. -/
theorem timeout_unfair (sound : (r d).Sound) (undisturbed : r.Undisturbed)
    (h : r.step (d, .timeout) = some t) : ¬ t.Fair := by
  obtain ⟨half, stepped, rfl⟩ := step_eq h
  obtain ⟨phase, rfl⟩ := Half.step_timeout stepped
  intro fair
  have different : d.other ≠ d := by cases d <;> nofun
  rcases fair d with relaying | finished | ⟨_, timedOut⟩
  · rw [Function.update_self] at relaying
    cases relaying
  · rw [Function.update_self] at finished
    simp only [Half.Sound, phase] at sound
    cases sound.1.symm.trans finished
  · rw [Function.update_of_ne different] at timedOut
    cases (undisturbed d.other).symm.trans timedOut

theorem unfair_of_timeout (inv : r.Orderly) (undisturbed : r.Undisturbed) (h : run step r acts = some t)
    (timeout : (d, .timeout) ∈ acts) :
    ∃ before after u, acts = before ++ after ∧ run step r before = some u ∧ ¬ u.Fair := by
  -- Up to the first timeout nothing is disturbed.
  induction acts generalizing r with
  | nil => cases timeout
  | cons act rest ih =>
    obtain ⟨e, act⟩ := act
    obtain ⟨u, first, tail⟩ := run_cons h
    by_cases this : act = .timeout
    · subst this
      refine ⟨[(e, .timeout)], rest, u, rfl, ?_, timeout_unfair (inv.sound e) undisturbed first⟩
      simp [run, first]
    · have later : (d, .timeout) ∈ rest := by
        rcases List.mem_cons.mp timeout with same | later
        · cases same
          exact absurd rfl this
        · exact later
      obtain ⟨before, after, v, rfl, ran, unfair⟩ :=
        ih (step_orderly inv first) (step_undisturbed undisturbed this first) tail later
      refine ⟨(e, act) :: before, after, v, rfl, ?_, unfair⟩
      simp [run, first, ran]

/-- The directions are fair to each other all along a run if and only if no read times out in it. -/
theorem relays_fairly_iff (h : run step new acts = some r) :
    (∀ before after u, acts = before ++ after → run step new before = some u → u.Fair) ↔
      ∀ d, (d, .timeout) ∉ acts := by
  constructor
  · intro fair d timeout
    obtain ⟨before, after, u, split, ran, unfair⟩ := unfair_of_timeout orderly_new (fun _ => rfl) h timeout
    exact unfair (fair before after u split ran)
  · rintro none before after u rfl ran
    apply (run_orderly ran).fair
    have calm : Along step (fun _ act => act.2 ≠ .timeout) new before := by
      apply along_of_forall
      rintro ⟨d, act⟩ member rfl
      exact none d (List.mem_append_left _ member)
    exact run_along_invariant (fun _ _ _ undisturbed other stepped => step_undisturbed undisturbed other stepped)
      (fun _ => rfl) calm ran

/-- A direction is quiet for a while, and the other one is busy all the time. -/
def quietThenBusy : List (Direction × HalfAction) :=
  [(.streamToQuic, .timeout), (.quicToStream, .arrive [1]), (.quicToStream, .read 1), (.quicToStream, .write),
    (.streamToQuic, .arrive [9])]

theorem relays_fairly_iff_busy :
    (run step new quietThenBusy.tail).isSome = true ∧
      ∀ before after u, quietThenBusy.tail = before ++ after → run step new before = some u → u.Fair := by
  obtain ⟨r, ran⟩ : ∃ r, run step new quietThenBusy.tail = some r := ⟨_, rfl⟩
  refine ⟨by rw [ran]; rfl, (relays_fairly_iff ran).mpr ?_⟩
  intro d
  cases d <;> decide

/-- After the timeout the byte that arrives is not relayed, now or later, while the other direction is. -/
theorem quiet_direction_stopped :
    ∃ r, run step new quietThenBusy = some r ∧ ¬ r.Fair ∧
      (r .quicToStream).relaying = true ∧ (r .quicToStream).timedOut = false ∧
      (r .quicToStream).relayed = [1] ∧ (r .streamToQuic).pending = [9] ∧
      ∀ acts t, run step r acts = some t → (t .streamToQuic).relayed = [] := by
  refine ⟨_, rfl, ?_, rfl, rfl, rfl, rfl, fun acts t ran => ?_⟩
  · intro fair
    rcases fair .streamToQuic with relaying | finished | ⟨_, timedOut⟩
    · cases relaying
    · cases finished
    · cases timedOut
  · exact (stopped_for_good ran rfl).2

end Relay

end Rstun.Tunnel
