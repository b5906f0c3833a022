import Rstun.Tunnel.Relay

/-!
# A TCP connection through the tunnel

One end of the tunnel opens a QUIC stream for a TCP connection, writes the target in front of it and relays.
The other end accepts the stream, reads the target if it expects one, connects to the upstream and relays as
well. The codec is off. So a byte goes through two tasks with the QUIC stream between them, and each end has
two tasks that tell each other about timeouts.
-/

namespace Rstun.Tunnel
open Transition

/-! ### One direction -/

/-- The way from one application to the other. `carried` counts the bytes of the QUIC stream that have been
taken from it. The other fields beside the two tasks are for the record: what the application has sent and
whether it has closed its side, and whether the tasks have come to the end of their inputs. -/
structure Lane where
  sent : Bytes
  closed : Bool
  first : Half
  carried : Nat
  second : Half
  firstEof : Bool
  secondEof : Bool
  deriving DecidableEq

inductive LaneAction where
  | send (bytes : Bytes)
  | close
  | first (act : HalfAction)
  | carry (count : Nat)
  | second (act : HalfAction)
  deriving DecidableEq

namespace Lane

def new : Lane := ⟨[], false, .new, 0, .new, false, false⟩

/-- What has been written to the QUIC stream. -/
def wire (header : Bytes) (l : Lane) : Bytes := header ++ l.first.relayed

/-- The first task comes to the end of its input when the application has closed its side, and the second one
when the stream is finished, which it is as soon as the first task has ended and has dropped it. `left` and
`right` say whether the other tasks of the two ends have used their oneshots. -/
def step (header : Bytes) (left right : Bool) (l : Lane) : LaneAction → Option Lane
  | .send bytes =>
    if l.closed then none
    else (l.first.step left (.arrive bytes)).map fun first => { l with sent := l.sent ++ bytes, first := first }
  | .close => some { l with closed := true }
  | .first (.arrive _) => none
  | .first .eof =>
    if l.closed then (l.first.step left .eof).map fun first => { l with first := first, firstEof := true } else none
  | .first act => (l.first.step left act).map fun first => { l with first := first }
  | .carry count =>
    if 0 < count ∧ l.carried + count ≤ (l.wire header).length then
      (l.second.step right (.arrive (((l.wire header).drop l.carried).take count))).map fun second =>
        { l with carried := l.carried + count, second := second }
    else none
  | .second (.arrive _) => none
  | .second .eof =>
    if l.first.phase = .ended ∧ l.carried = (l.wire header).length then
      (l.second.step right .eof).map fun second => { l with second := second, secondEof := true }
    else none
  | .second act => (l.second.step right act).map fun second => { l with second := second }

end Lane

/-! ### Both ends -/

/-- `up` leads from the end that opens the stream to the one that accepts it. -/
structure Link where
  up : Lane
  down : Lane
  accepted : Option Accepted
  refused : Bool

inductive LinkAction where
  | up (act : LaneAction)
  | down (act : LaneAction)
  | accept
  | refuse

/-- Bytes go on. -/
def LaneAction.moves : LaneAction → Bool
  | .first (.read _) | .first .write | .carry _ | .second (.read _) | .second .write => true
  | _ => false

/-- The end that opens the stream takes part in this. -/
def LaneAction.opens (upwards : Bool) : LaneAction → Bool
  | .send _ | .close | .first _ => upwards
  | .carry _ | .second _ => !upwards

namespace Link

def new : Link := ⟨.new, .new, none, false⟩

/-- The accepting end may also fail for other reasons, such as an upstream that is not there. It drops the
stream then. -/
def refuse (s : Link) : Link := { s with down := { s.down with first := s.down.first.finish }, refused := true }

/-- The accepting end relays from when it has accepted the stream. -/
def step (accept : Incoming → Except AcceptError Accepted) (header : Bytes) (s : Link) : LinkAction → Option Link
  | .up act =>
    if act.opens true ∨ s.accepted.isSome then
      (s.up.step header s.down.second.signalled s.down.first.signalled act).map fun up => { s with up := up }
    else none
  | .down act =>
    if act.opens false ∨ s.accepted.isSome then
      (s.down.step [] s.up.second.signalled s.up.first.signalled act).map fun down => { s with down := down }
    else none
  | .accept =>
    if s.accepted.isSome ∨ s.refused then none
    else match accept ⟨s.up.wire header, s.up.first.phase = .ended⟩ with
      | .ok accepted => some { s with
          accepted := some accepted
          up := { s.up with carried := (s.up.wire header).length - accepted.payload.bytes.length } }
      | .error _ => some s.refuse
  | .refuse => if s.accepted.isSome ∨ s.refused then none else some s.refuse

end Link

/-! ### What a task carries -/

namespace Half

variable {signalled : Bool} {h h' : Half} {act : HalfAction} {arrived : Bytes}

def chunk (h : Half) : Bytes :=
  match h.phase with
  | .writing chunk => chunk
  | _ => []

/-- What has arrived has been relayed, is being written, or is still to be read. Only a write that fails
loses something. -/
def Carries (arrived : Bytes) (h : Half) : Prop :=
  ∃ lost, h.relayed ++ h.chunk ++ lost ++ h.pending = arrived ∧ (lost ≠ [] → h.phase = .ended)

theorem carries_of_whole (whole : h.relayed ++ h.chunk ++ h.pending = arrived) : h.Carries arrived :=
  ⟨[], by rw [List.append_nil, whole], fun lost => absurd rfl lost⟩

theorem carries_new : new.Carries [] := carries_of_whole rfl

theorem Carries.relayed (carries : h.Carries arrived) : h.relayed <+: arrived := by
  obtain ⟨lost, rfl, _⟩ := carries
  exact ⟨h.chunk ++ lost ++ h.pending, by simp⟩

theorem Carries.arrive {bytes : Bytes} (carries : h.Carries arrived)
    (stepped : h.step signalled (.arrive bytes) = some h') : h'.Carries (arrived ++ bytes) := by
  obtain ⟨lost, rfl, only⟩ := carries
  obtain rfl : { h with pending := h.pending ++ bytes } = h' := by simpa [step] using stepped
  exact ⟨lost, by simp [chunk], only⟩

/-- A task that goes on has lost nothing. -/
theorem Carries.whole (carries : h.Carries arrived) (phase : h.phase ≠ .ended) :
    h.relayed ++ h.chunk ++ h.pending = arrived := by
  obtain ⟨lost, rfl, only⟩ := carries
  obtain rfl : lost = [] := by
    by_contra some
    exact phase (only some)
  rw [List.append_nil]

theorem Carries.resting (carries : h.Carries arrived) (phase : h.phase = .reading ∨ h.phase = .waiting) :
    h.relayed ++ h.pending = arrived := by
  have all := carries.whole (by rcases phase with phase | phase <;> simp [phase])
  rcases phase with phase | phase <;> simpa only [chunk, phase, List.append_nil] using all

theorem Carries.eof (carries : h.Carries arrived) (stepped : h.step signalled .eof = some h') :
    h'.phase = .ended ∧ h'.relayed = arrived := by
  unfold step at stepped
  split at stepped <;> first | contradiction | skip
  rename_i phase
  split at stepped <;> cases stepped
  rename_i nothing
  have all := carries.resting (.inl phase)
  rw [nothing, List.append_nil] at all
  exact ⟨rfl, all⟩

theorem Carries.step (carries : h.Carries arrived) (inside : ∀ bytes, act ≠ .arrive bytes)
    (stepped : h.step signalled act = some h') : h'.Carries arrived := by
  unfold Half.step at stepped
  split at stepped
  case h_1 => exact absurd rfl (inside _)
  case h_2 phase =>
    split at stepped <;> cases stepped
    exact carries_of_whole (by simpa [chunk] using carries.resting (.inl phase))
  case h_3 phase =>
    cases stepped
    have all := carries.whole (by rw [phase]; simp)
    simp only [chunk, phase] at all
    exact carries_of_whole (by simpa [chunk] using all)
  case h_4 count written phase =>
    cases stepped
    have all := carries.whole (by rw [phase]; simp)
    simp only [chunk, phase] at all
    exact ⟨written.drop count, by simpa [finish, chunk] using all, fun _ => rfl⟩
  case h_5 phase =>
    split at stepped <;> cases stepped
    exact carries_of_whole (by simpa [finish, chunk] using carries.resting (.inl phase))
  case h_6 phase =>
    cases stepped
    exact carries_of_whole (by simpa [finish, chunk] using carries.resting (.inl phase))
  case h_7 phase =>
    split at stepped <;> cases stepped
    exact carries_of_whole (by simpa [chunk] using carries.resting (.inl phase))
  case h_8 phase =>
    split at stepped <;> cases stepped
    exact carries_of_whole (by simpa [chunk] using carries.resting (.inr phase))
  case h_9 => cases stepped

theorem step_after_end (ended : h.phase = .ended) (stepped : h.step signalled act = some h') :
    h'.phase = .ended ∧ h'.relayed = h.relayed := by
  unfold step at stepped
  split at stepped
  · cases stepped
    exact ⟨ended, rfl⟩
  case h_9 => cases stepped
  all_goals
    rename_i phase
    rw [ended] at phase
    cases phase

/-- A task that could neither read nor write has relayed all. -/
theorem Carries.quiet (carries : h.Carries arrived) (relaying : h.relaying = true)
    (read : ∀ count, h.step signalled (.read count) = none) (write : h.step signalled .write = none) :
    h.relayed = arrived := by
  cases phase : h.phase with
  | reading =>
    have nothing : h.pending.length = 0 := by
      have stuck := read h.pending.length
      simp only [Half.step, phase] at stuck
      split at stuck
      · cases stuck
      · omega
    have all := carries.resting (.inl phase)
    rwa [List.length_eq_zero_iff.mp nothing, List.append_nil] at all
  | writing written =>
    simp only [Half.step, phase] at write
    cases write
  | waiting | ended => simp [Half.relaying, phase] at relaying

theorem step_relayed (stepped : h.step signalled act = some h') : h.relayed <+: h'.relayed := by
  unfold step at stepped
  split at stepped
  case h_2 | h_5 | h_7 | h_8 =>
    split at stepped <;> cases stepped
    exact List.prefix_rfl
  case h_3 | h_4 =>
    cases stepped
    exact List.prefix_append ..
  all_goals
    cases stepped <;> exact List.prefix_rfl

end Half

/-! ### What a direction carries -/

namespace Lane

variable {header : Bytes} {left right : Bool} {l l' : Lane} {act : LaneAction}

/-- `begun` says whether the second task is relaying, which it does beyond the header. -/
structure Sound (header : Bytes) (begun : Bool) (l : Lane) : Prop where
  first : l.first.Carries l.sent
  second : l.second.Carries (l.first.relayed.take (l.carried - header.length))
  within : l.carried ≤ header.length + l.first.relayed.length
  beyond : begun = true → header.length ≤ l.carried
  waits : begun = false → l.carried = 0 ∧ l.secondEof = false
  firstEof : l.firstEof = true → l.closed = true ∧ l.first.phase = .ended ∧ l.first.relayed = l.sent
  secondEof : l.secondEof = true → l.first.phase = .ended ∧ l.second.phase = .ended ∧
    l.carried = header.length + l.first.relayed.length ∧ l.second.relayed = l.first.relayed

theorem sound_new {begun : Bool} (bare : begun = true → header = []) : new.Sound header begun where
  first := Half.carries_new
  second := by
    rw [show new.first.relayed = [] from rfl, List.take_nil]
    exact Half.carries_new
  within := Nat.zero_le _
  beyond started := by
    rw [bare started]
    exact Nat.zero_le _
  waits _ := ⟨rfl, rfl⟩
  firstEof := fun impossible => by cases impossible
  secondEof := fun impossible => by cases impossible

theorem length_wire (header : Bytes) (l : Lane) : (l.wire header).length = header.length + l.first.relayed.length :=
  List.length_append

/-- The first task goes on. What has been carried stays what it was. -/
theorem Sound.advance {begun : Bool} {first : Half} {act : HalfAction} {sent : Bytes} {firstEof : Bool}
    (sound : l.Sound header begun) (stepped : l.first.step left act = some first) (carries : first.Carries sent)
    (eof : firstEof = true → l.closed = true ∧ first.phase = .ended ∧ first.relayed = sent) :
    { l with sent := sent, first := first, firstEof := firstEof }.Sound header begun := by
  obtain ⟨more, grown⟩ := Half.step_relayed stepped
  have same : first.relayed.take (l.carried - header.length) = l.first.relayed.take (l.carried - header.length) := by
    rw [← grown, List.take_append_of_le_length (by have := sound.within; omega)]
  have length : l.first.relayed.length ≤ first.relayed.length := by
    rw [← grown, List.length_append]
    omega
  refine ⟨carries, ?_, ?_, sound.beyond, sound.waits, eof, ?_⟩
  · rw [same]
    exact sound.second
  · exact Nat.le_trans sound.within (Nat.add_le_add_left length _)
  · intro ended
    obtain ⟨phase, last, all, done⟩ := sound.secondEof ended
    obtain ⟨still, unchanged⟩ := Half.step_after_end phase stepped
    exact ⟨still, last, by rw [unchanged, ← all], by rw [unchanged, done]⟩

theorem Sound.carry {begun : Bool} {count : Nat} {second : Half} (sound : l.Sound header begun)
    (started : begun = true) (some : 0 < count) (there : l.carried + count ≤ (l.wire header).length)
    (stepped : l.second.step right (.arrive (((l.wire header).drop l.carried).take count)) = Option.some second) :
    { l with carried := l.carried + count, second := second }.Sound header begun := by
  have beyond := sound.beyond started
  rw [length_wire] at there
  have arrives : l.first.relayed.take (l.carried + count - header.length) =
      l.first.relayed.take (l.carried - header.length) ++ ((l.wire header).drop l.carried).take count := by
    rw [wire, List.drop_append, List.drop_eq_nil_of_le beyond, List.nil_append, ← List.take_add,
      Nat.sub_add_comm beyond]
  refine ⟨sound.first, ?_, there, fun _ => Nat.le_trans beyond (Nat.le_add_right ..), ?_, sound.firstEof, ?_⟩
  · rw [arrives]
    exact sound.second.arrive stepped
  · exact fun waits => absurd (started.symm.trans waits) (by decide)
  · intro ended
    have all := (sound.secondEof ended).2.2.1
    omega

theorem Sound.deliver {begun : Bool} {second : Half} {act : HalfAction} {secondEof : Bool}
    (sound : l.Sound header begun) (started : begun = true) (inside : ∀ bytes, act ≠ .arrive bytes)
    (stepped : l.second.step right act = some second)
    (eof : secondEof = true → l.first.phase = .ended ∧ second.phase = .ended ∧
      l.carried = header.length + l.first.relayed.length ∧ second.relayed = l.first.relayed) :
    { l with second := second, secondEof := secondEof }.Sound header begun :=
  ⟨sound.first, sound.second.step inside stepped, sound.within, sound.beyond,
    fun waits => absurd (started.symm.trans waits) (by decide), sound.firstEof, eof⟩

theorem Sound.close {begun : Bool} (sound : l.Sound header begun) :
    { l with closed := true }.Sound header begun :=
  { sound with firstEof := fun eof => ⟨rfl, (sound.firstEof eof).2⟩ }

/-- The accepting end takes part only once it has begun. -/
theorem step_sound {begun : Bool} (sound : l.Sound header begun) (h : l.step header left right act = some l')
    (allowed : act.opens true = true ∨ begun = true) : l'.Sound header begun := by
  unfold step at h
  split at h
  case h_1 bytes =>
    split at h
    · cases h
    · rename_i opened
      obtain ⟨first, stepped, rfl⟩ := Option.map_eq_some_iff.mp h
      refine sound.advance stepped (sound.first.arrive stepped) fun eof => ?_
      exact absurd (sound.firstEof eof).1 opened
  case h_2 =>
    cases h
    exact sound.close
  case h_3 => cases h
  case h_4 =>
    split at h
    · rename_i closed
      obtain ⟨first, stepped, rfl⟩ := Option.map_eq_some_iff.mp h
      obtain ⟨phase, all⟩ := sound.first.eof stepped
      exact sound.advance stepped (sound.first.step (by simp) stepped) fun _ => ⟨closed, phase, all⟩
    · cases h
  case h_5 act noArrival noEof =>
    obtain ⟨first, stepped, rfl⟩ := Option.map_eq_some_iff.mp h
    have inside : ∀ bytes, act ≠ .arrive bytes := fun bytes same => noArrival bytes (by rw [same])
    refine sound.advance stepped (sound.first.step inside stepped) fun eof => ?_
    obtain ⟨closed, phase, all⟩ := sound.firstEof eof
    obtain ⟨still, unchanged⟩ := Half.step_after_end phase stepped
    exact ⟨closed, still, unchanged.trans all⟩
  case h_6 count =>
    split at h
    · rename_i guard
      obtain ⟨second, stepped, rfl⟩ := Option.map_eq_some_iff.mp h
      have started : begun = true := allowed.resolve_left (by simp [LaneAction.opens])
      exact sound.carry started guard.1 guard.2 stepped
    · cases h
  case h_7 => cases h
  case h_8 =>
    split at h
    · rename_i guard
      obtain ⟨second, stepped, rfl⟩ := Option.map_eq_some_iff.mp h
      obtain ⟨phase, all⟩ := sound.second.eof stepped
      have whole : l.carried = header.length + l.first.relayed.length := guard.2.trans (length_wire header l)
      have started : begun = true := allowed.resolve_left (by simp [LaneAction.opens])
      refine sound.deliver started (by simp) stepped fun _ => ⟨guard.1, phase, whole, ?_⟩
      rw [all, List.take_of_length_le (by omega)]
    · cases h
  case h_9 act noArrival noEof =>
    obtain ⟨second, stepped, rfl⟩ := Option.map_eq_some_iff.mp h
    have inside : ∀ bytes, act ≠ .arrive bytes := fun bytes same => noArrival bytes (by rw [same])
    have started : begun = true := allowed.resolve_left (by simp [LaneAction.opens])
    refine sound.deliver started inside stepped fun eof => ?_
    obtain ⟨phase, last, whole, all⟩ := sound.secondEof eof
    obtain ⟨still, unchanged⟩ := Half.step_after_end last stepped
    exact ⟨phase, still, whole, unchanged.trans all⟩

/-- What arrives is what was sent, as far as it goes. -/
theorem Sound.delivered {begun : Bool} (sound : l.Sound header begun) : l.second.relayed <+: l.sent :=
  sound.second.relayed.trans ((List.take_prefix ..).trans sound.first.relayed)

theorem Sound.complete {begun : Bool} (sound : l.Sound header begun) (first : l.firstEof = true)
    (second : l.secondEof = true) : l.closed = true ∧ l.second.relayed = l.sent :=
  ⟨(sound.firstEof first).1, (sound.secondEof second).2.2.2.trans (sound.firstEof first).2.2⟩

/-- As long as both tasks are relaying and nothing can go on, nothing is missing. -/
theorem Sound.quiet (sound : l.Sound header true) (first : l.first.relaying = true)
    (second : l.second.relaying = true)
    (stuck : ∀ act : LaneAction, act.moves = true → l.step header left right act = none) :
    l.second.relayed = l.sent := by
  have read : ∀ count, l.first.step left (.read count) = none := fun count =>
    Option.map_eq_none_iff.mp (stuck (.first (.read count)) rfl)
  have write : l.first.step left .write = none := Option.map_eq_none_iff.mp (stuck (.first .write) rfl)
  have sent : l.first.relayed = l.sent := sound.first.quiet first read write
  have whole : l.carried = header.length + l.first.relayed.length := by
    by_contra short
    have within := sound.within
    have carried := stuck (.carry 1) rfl
    rw [step, if_pos ⟨Nat.one_pos, by rw [length_wire]; omega⟩] at carried
    simp [Half.step] at carried
  have read' : ∀ count, l.second.step right (.read count) = none := fun count =>
    Option.map_eq_none_iff.mp (stuck (.second (.read count)) rfl)
  have write' : l.second.step right .write = none := Option.map_eq_none_iff.mp (stuck (.second .write) rfl)
  rw [sound.second.quiet second read' write', List.take_of_length_le (by omega), sent]

/-- Before it has accepted the stream, an end does nothing on its way to the other. -/
theorem step_first (h : l.step header left right act = some l') (elsewhere : act.opens false = true) :
    l'.first = l.first ∧ l'.sent = l.sent := by
  cases act with
  | send _ | close | first _ => cases elsewhere
  | carry count =>
    simp only [step] at h
    split at h
    · obtain ⟨_, _, rfl⟩ := Option.map_eq_some_iff.mp h
      exact ⟨rfl, rfl⟩
    · cases h
  | second act =>
    cases act with
    | arrive bytes => cases h
    | eof =>
      simp only [step] at h
      split at h
      · obtain ⟨_, _, rfl⟩ := Option.map_eq_some_iff.mp h
        exact ⟨rfl, rfl⟩
      · cases h
    | _ =>
      obtain ⟨_, _, rfl⟩ := Option.map_eq_some_iff.mp h
      exact ⟨rfl, rfl⟩

end Lane

namespace Link

variable {config : ServerConfig} {tunnel : TunnelLogin} {target : Option TunnelTarget}
  {accept : Incoming → Except AcceptError Accepted} {header : Option Bytes} {s t : Link} {act : LinkAction}

structure Sound (target : Option TunnelTarget) (header : Bytes) (s : Link) : Prop where
  up : s.up.Sound header s.accepted.isSome
  down : s.down.Sound [] true
  fresh : s.accepted = none → s.refused = false → s.down.first = .new ∧ s.down.sent = []
  requested : ∀ accepted ∈ s.accepted, accepted.requestedDst = target

theorem sound_new (target : Option TunnelTarget) (header : Bytes) : new.Sound target header where
  up := Lane.sound_new (by simp [new])
  down := Lane.sound_new fun _ => rfl
  fresh _ _ := ⟨rfl, rfl⟩
  requested := by simp [new]

theorem refuse_sound {header : Bytes} (sound : s.Sound target header) (waiting : s.accepted = none)
    (pending : s.refused = false) : s.refuse.Sound target header := by
  obtain ⟨untouched, nothing⟩ := sound.fresh waiting pending
  have down := sound.down
  refine ⟨sound.up, ?_, fun _ impossible => (by cases impossible), sound.requested⟩
  refine ⟨?_, ?_, ?_, down.beyond, down.waits, ?_, ?_⟩
  · rw [refuse, untouched, nothing]
    exact Half.carries_of_whole rfl
  · exact down.second
  · exact down.within
  · intro eof
    have ended := (down.firstEof eof).2.1
    rw [untouched] at ended
    cases ended
  · intro eof
    have ended := (down.secondEof eof).1
    rw [untouched] at ended
    cases ended

/-- The accepting end reads the header and nothing of what follows. -/
theorem accept_sound (login : acceptor config tunnel = .ok accept)
    (written : encodeTunnelTarget target false = .ok header) (expects : tunnel.Expects target)
    (sound : s.Sound target (header.getD [])) (h : step accept (header.getD []) s .accept = some t) :
    t.Sound target (header.getD []) := by
  simp only [step] at h
  split at h
  · cases h
  rename_i free
  have waiting : s.accepted = none := by
    by_contra some
    exact free (.inl (Option.isSome_iff_ne_none.mpr some))
  obtain ⟨upstream, accepted⟩ :=
    (accepts_iff ⟨s.up.first.relayed, s.up.first.phase = .ended⟩ login written).mpr expects
  rw [Lane.wire, accepted] at h
  cases h
  have up := sound.up
  rw [waiting] at up
  obtain ⟨none, pending⟩ := up.waits rfl
  have exactly :
      (header.getD [] ++ s.up.first.relayed).length - s.up.first.relayed.length = (header.getD []).length := by
    rw [List.length_append, Nat.add_sub_cancel]
  refine ⟨?_, sound.down, fun impossible => (by cases impossible), ?_⟩
  · refine ⟨up.first, ?_, ?_, ?_, fun impossible => (by cases impossible), up.firstEof, ?_⟩
    · have second := up.second
      rw [none, Nat.zero_sub] at second
      rw [exactly, Nat.sub_self]
      exact second
    · show _ ≤ _
      rw [exactly]
      exact Nat.le_add_right ..
    · intro _
      show _ ≤ _
      rw [exactly]
    · intro eof
      rw [pending] at eof
      cases eof
  · rintro a ⟨⟩
    rfl

theorem step_sound (login : acceptor config tunnel = .ok accept)
    (written : encodeTunnelTarget target false = .ok header) (expects : tunnel.Expects target)
    (sound : s.Sound target (header.getD [])) (h : step accept (header.getD []) s act = some t) :
    t.Sound target (header.getD []) := by
  cases act with
  | up act =>
    simp only [step] at h
    split at h
    · rename_i allowed
      obtain ⟨up, stepped, rfl⟩ := Option.map_eq_some_iff.mp h
      exact { sound with up := Lane.step_sound sound.up stepped allowed }
    · cases h
  | down act =>
    simp only [step] at h
    split at h
    · rename_i allowed
      obtain ⟨down, stepped, rfl⟩ := Option.map_eq_some_iff.mp h
      refine { sound with down := Lane.step_sound sound.down stepped (.inr rfl), fresh := fun waiting pending => ?_ }
      have elsewhere : act.opens false = true := allowed.resolve_right (by rw [waiting]; decide)
      obtain ⟨first, sent⟩ := Lane.step_first stepped elsewhere
      obtain ⟨untouched, nothing⟩ := sound.fresh waiting pending
      exact ⟨first.trans untouched, sent.trans nothing⟩
    · cases h
  | accept => exact accept_sound login written expects sound h
  | refuse =>
    simp only [step] at h
    split at h <;> cases h
    rename_i free
    refine refuse_sound sound ?_ ?_
    · by_contra some
      exact free (.inl (Option.isSome_iff_ne_none.mpr some))
    · by_contra refused
      exact free (.inr (by simpa using refused))

/-- What an application receives is the beginning of what the other one has sent, in both directions and
whatever fails or times out. It is all of it if both tasks have come to the end of their inputs, or if both
are relaying and there is nothing left to do. The accepting end connects to the target that was asked for. -/
theorem relay_transparent (login : acceptor config tunnel = .ok accept)
    (written : encodeTunnelTarget target false = .ok header) (expects : tunnel.Expects target)
    {acts : List LinkAction} (ran : run (step accept (header.getD [])) new acts = some s) :
    (∀ accepted ∈ s.accepted, accepted.requestedDst = target) ∧
    (∀ lane ∈ [s.up, s.down], lane.second.relayed <+: lane.sent ∧
      (lane.firstEof = true → lane.secondEof = true → lane.closed = true ∧ lane.second.relayed = lane.sent)) ∧
    (s.accepted.isSome = true → ∀ way ∈ [(s.up, LinkAction.up), (s.down, LinkAction.down)],
      way.1.first.relaying = true → way.1.second.relaying = true →
      (∀ act : LaneAction, act.moves = true → step accept (header.getD []) s (way.2 act) = none) →
      way.1.second.relayed = way.1.sent) := by
  have sound : s.Sound target (header.getD []) :=
    run_invariant (fun _ _ _ => step_sound login written expects) (sound_new target _) ran
  refine ⟨sound.requested, ?_, ?_⟩
  · simp only [List.mem_cons, List.not_mem_nil, or_false]
    rintro lane (rfl | rfl)
    · exact ⟨sound.up.delivered, sound.up.complete⟩
    · exact ⟨sound.down.delivered, sound.down.complete⟩
  · intro accepted
    simp only [List.mem_cons, List.not_mem_nil, or_false]
    rintro way (rfl | rfl) first second stuck
    · have up := sound.up
      rw [accepted] at up
      have quiet : ∀ act : LaneAction, act.moves = true →
          s.up.step (header.getD []) s.down.second.signalled s.down.first.signalled act = none :=
        fun act moves => by simpa [step, accepted] using stuck act moves
      exact up.quiet first second quiet
    · have quiet : ∀ act : LaneAction, act.moves = true →
          s.down.step [] s.up.second.signalled s.up.first.signalled act = none :=
        fun act moves => by simpa [step, accepted] using stuck act moves
      exact sound.down.quiet first second quiet

/-- A request goes up and an answer comes down, over a stream that begins with a target. -/
def pingPong : List LinkAction :=
  [.up (.send [1, 2, 3]), .up (.first (.read 2)), .accept, .up (.first .write), .up (.carry 2), .up (.second (.read 1)),
    .up (.second .write), .up (.first (.read 1)), .up (.first .write), .up .close, .up (.first .eof), .up (.carry 1),
    .up (.second (.read 2)), .up (.second .write), .up (.second .eof), .down (.send [9]), .down (.first (.read 1)),
    .down (.first .write), .down (.carry 1), .down (.second (.read 1)), .down (.second .write)]

def webTarget : TunnelTarget := .addr (.v4 0x0A000001 80)

theorem relay_transparent_pingPong : ∃ accept header s,
    acceptor ⟨none, false⟩ .channelBased = .ok accept ∧
    encodeTunnelTarget (some webTarget) false = .ok (some header) ∧
    run (step accept header) new pingPong = some s ∧ s.up.firstEof = true ∧ s.up.secondEof = true ∧
    s.up.second.relayed = [1, 2, 3] ∧ s.down.second.relayed = [9] ∧
    ∀ accepted ∈ s.accepted, accepted.requestedDst = some webTarget := by
  obtain ⟨s, ran, first, second, up, down⟩ := run_reaches
    (P := fun s : Link => s.up.firstEof = true ∧ s.up.secondEof = true ∧ s.up.second.relayed = [1, 2, 3] ∧
      s.down.second.relayed = [9])
    (show (run (step (startDynamicAccepting none false) [4, 10, 0, 0, 1, 0, 80]) new pingPong).any _ = true by
      decide +kernel)
  have expects : TunnelLogin.channelBased.Expects (some webTarget) := ⟨webTarget, rfl, rfl⟩
  have written : encodeTunnelTarget (some webTarget) false = .ok (some [4, 10, 0, 0, 1, 0, 80]) := by decide +kernel
  have login : acceptor ⟨none, false⟩ .channelBased = .ok (startDynamicAccepting none false) := rfl
  exact ⟨_, _, s, login, written, ran, first, second, up, down, (relay_transparent login written expects ran).1⟩

end Link

end Rstun.Tunnel
