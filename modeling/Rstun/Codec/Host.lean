import Rstun.Base.Exclusive
import Rstun.Base.Run
import Rstun.Codec.Tasks

/-!
# The streams of one process over its table

Every stream of a process follows `start_flowing_with_codec`: `exchange_pair_id`, then the two tasks,
each of which settles its pair once it has returned. The steps of any number of streams interleave,
with the scan and the removal of `checkout` apart from each other, and the table may lose entries at
any time. What the other process says is arbitrary here.
-/

namespace Rstun.Codec
open Streaming Transition Slots

structure HandshakeResult where
  s2qPair : Ref
  q2sPair : Ref
  s2qId : PairId
  s2qAck : PairId
  q2sId : PairId
  q2sAck : PairId
  deriving DecidableEq

inductive TaskState where
  | running
  | returned (result : TaskResult)
  | settled

namespace TaskState

def after : Option TaskResult → TaskState
  | none => running
  | some result => returned result

/-- A task lets go of what it holds when it settles. -/
def holding {α : Type} (held : α) : TaskState → Option α
  | running | returned _ => some held
  | settled => none

@[simp] theorem holding_running {α : Type} (held : α) : running.holding held = some held := rfl

@[simp] theorem holding_returned {α : Type} (held : α) (result : TaskResult) :
    (returned result).holding held = some held := rfl

@[simp] theorem holding_settled {α : Type} (held : α) : settled.holding held = none := rfl

@[simp] theorem holding_after {α : Type} (held : α) (result : Option TaskResult) :
    (after result).holding held = some held := by
  cases result <;> rfl

end TaskState

/-- How far a stream is. In `offered` and `acked` it awaits the id and the ack of the other side. -/
inductive Phase where
  | idle
  | scanned (reuse : Option PairId)
  | offered (id : PairId) (pair : Ref)
  | acked (id : PairId) (pair : Ref) (remoteId : PairId) (remotePair : Ref) (ack : PairId)
  | flowing (res : HandshakeResult) (s2q q2s : TaskState)
  | failed

namespace Phase

def s2q : Phase → Option (PairId × Ref)
  | offered id pair | acked id pair _ _ _ => some (id, pair)
  | flowing res task _ => task.holding (res.s2qId, res.s2qPair)
  | idle | scanned _ | failed => none

def q2s : Phase → Option (PairId × Ref)
  | acked _ _ remoteId remotePair _ => some (remoteId, remotePair)
  | flowing res _ task => task.holding (res.q2sId, res.q2sPair)
  | idle | scanned _ | offered _ _ | failed => none

end Phase

structure Host where
  lru : CodecLru
  sides : Nat → Phase

inductive Slot where
  | cached (id : PairId)
  | s2q (stream : Nat)
  | q2s (stream : Nat)
  deriving DecidableEq

namespace Host

def new : Host := ⟨.new, fun _ => .idle⟩

def slot (h : Host) : Slot → Option (PairId × Ref)
  | .cached id => (h.lru.cache.lookup id).map (id, ·)
  | .s2q s => (h.sides s).s2q
  | .q2s s => (h.sides s).q2s

def set (h : Host) (lru : CodecLru) (s : Nat) (phase : Phase) : Host :=
  ⟨lru, Function.update h.sides s phase⟩

def scan (h : Host) (s : Nat) (iter : List (Σ _ : PairId, Ref)) : Option Host :=
  match h.sides s with
  | .idle =>
    if iter.Perm h.lru.cache.entries then some (h.set h.lru s (.scanned (h.lru.scan iter))) else none
  | _ => none

def take (h : Host) (s : Nat) (now tidHash : BitVec 128) : Option Host :=
  match h.sides s with
  | .scanned reuse =>
    let ((id, pair), lru) := h.lru.takeOut reuse (randId now tidHash)
    some (h.set lru s (.offered id pair))
  | _ => none

def lookup (h : Host) (s : Nat) (remoteId : PairId) : Option Host :=
  match h.sides s with
  | .offered id pair =>
    let (found, lru) := h.lru.lookup remoteId
    let (remotePair, ack) := match found with
      | .hit id pair => (pair, id)
      | .miss _ pair => (pair, 0)
    let lru := if ack = 0 then lru.modify remotePair .resetDecoder else lru
    some (h.set lru s (.acked id pair remoteId remotePair ack))
  | _ => none

def complete (h : Host) (s : Nat) (remoteAck : PairId) : Option Host :=
  match h.sides s with
  | .acked id pair remoteId remotePair ack =>
    let lru := if remoteAck = 0 ∧ id ≠ 0 then h.lru.modify pair .resetEncoder else h.lru
    some (h.set lru s (.flowing ⟨pair, remotePair, id, remoteAck, remoteId, ack⟩ .running .running))
  | _ => none

/-- `exchange_pair_id` returns an error, and the pairs it holds are dropped. -/
def fail (h : Host) (s : Nat) : Option Host :=
  match h.sides s with
  | .scanned _ | .offered .. | .acked .. => some (h.set h.lru s .failed)
  | _ => none

def encode (z : HistoryCodec UInt8) (h : Host) (s : Nat) (ev : EncEvent) : Option (EncoderTurn × Host) :=
  match h.sides s with
  | .flowing res .running task =>
    let t := encoderTurn z (h.lru.pairs res.s2qPair).encoder ev
    let lru := h.lru.modify res.s2qPair fun p => { p with encoder := t.encoder }
    some (t, h.set lru s (.flowing res (.after t.result) task))
  | _ => none

def decode (z : HistoryCodec UInt8) (h : Host) (s : Nat) (r : WireRead) : Option (DecoderTurn × Host) :=
  match h.sides s with
  | .flowing res task .running =>
    let t := decoderTurn z (h.lru.pairs res.q2sPair).decoder r
    let lru := h.lru.modify res.q2sPair fun p => { p with decoder := t.decoder }
    some (t, h.set lru s (.flowing res task (.after t.result)))
  | _ => none

def settleS2q (h : Host) (s : Nat) : Option Host :=
  match h.sides s with
  | .flowing res (.returned result) task =>
    some (h.set (h.lru.settle res.s2qId res.s2qPair result) s (.flowing res .settled task))
  | _ => none

def settleQ2s (h : Host) (s : Nat) : Option Host :=
  match h.sides s with
  | .flowing res task (.returned result) =>
    some (h.set (h.lru.settle res.q2sId res.q2sPair result) s (.flowing res task .settled))
  | _ => none

def evict (h : Host) (id : PairId) : Host := { h with lru := h.lru.evict id }

/-! ### What the steps do to the slots -/

variable {z : HistoryCodec UInt8} {h h' : Host} {s : Nat}

@[simp] theorem slot_s2q (s : Nat) : h.slot (.s2q s) = (h.sides s).s2q := rfl

@[simp] theorem slot_q2s (s : Nat) : h.slot (.q2s s) = (h.sides s).q2s := rfl

theorem slot_cached {id : PairId} {r : Ref} (present : h.lru.cache.lookup id = some r) :
    h.slot (.cached id) = some (id, r) := by
  simp [slot, present]

theorem slot_set (lru : CodecLru) (phase : Phase) : (h.set lru s phase).slot =
    Function.update (Function.update { h with lru := lru }.slot (.s2q s) phase.s2q) (.q2s s) phase.q2s := by
  funext k
  cases k with
  | cached id => simp [slot, set]
  | s2q t => by_cases same : t = s <;> simp [set, same]
  | q2s t => by_cases same : t = s <;> simp [set, same]

theorem slot_evict (id : PairId) :
    (h.evict id).slot = Function.update h.slot (.cached id) none := by
  funext k
  cases k with
  | cached id' =>
    by_cases same : id' = id
    · subst same
      simp [slot, evict, CodecLru.evict, CodecLru.remove]
    · simp [slot, evict, CodecLru.evict, CodecLru.remove, same, AList.lookup_erase_ne same]
  | s2q t => rfl
  | q2s t => rfl

theorem slot_insert (lru : CodecLru) (id : PairId) (r : Ref) (cache : lru.cache = h.lru.cache.insert id r) :
    { h with lru := lru }.slot = Function.update h.slot (.cached id) (some (id, r)) := by
  funext k
  cases k with
  | cached id' =>
    by_cases same : id' = id
    · subst same
      simp [slot, cache]
    · simp [slot, cache, same, AList.lookup_insert_ne same]
  | s2q t => rfl
  | q2s t => rfl

theorem slot_set_s2q (lru : CodecLru) {phase : Phase} (same : phase.q2s = (h.sides s).q2s) :
    (h.set lru s phase).slot = Function.update { h with lru := lru }.slot (.s2q s) phase.s2q := by
  rw [slot_set, same, Function.update_eq_self_iff]
  simp

theorem slot_set_q2s (lru : CodecLru) {phase : Phase} (same : phase.s2q = (h.sides s).s2q) :
    (h.set lru s phase).slot = Function.update { h with lru := lru }.slot (.q2s s) phase.q2s := by
  have unmoved : Function.update { h with lru := lru }.slot (.s2q s) phase.s2q =
      { h with lru := lru }.slot := by
    rw [same]
    exact Function.update_eq_self _ _
  rw [slot_set, unmoved]

theorem slot_set_same (lru : CodecLru) {phase : Phase} (cache : lru.cache = h.lru.cache)
    (s2q : phase.s2q = (h.sides s).s2q) (q2s : phase.q2s = (h.sides s).q2s) :
    (h.set lru s phase).slot = h.slot := by
  have unmoved : { h with lru := lru }.slot = h.slot := by
    funext k
    cases k <;> simp [slot, cache]
  rw [slot_set_s2q lru q2s, unmoved, s2q]
  exact Function.update_eq_self _ _

/-- The slot `k` gets the pair that was cached under `id`. -/
structure Reuses (h h' : Host) (k : Slot) (id : PairId) (r : Ref) : Prop where
  held : h.slot (.cached id) = some (id, r)
  slot : h'.slot = Function.update (Function.update h.slot (.cached id) none) k (some (id, r))
  pairs : h'.lru.pairs = h.lru.pairs
  next : h'.lru.next = h.lru.next

/-- The slot `k` gets a new pair. -/
structure Creates (h h' : Host) (k : Slot) (id : PairId) (r : Ref) : Prop where
  ref : r = h.lru.next
  slot : h'.slot = Function.update h.slot k (some (id, r))
  pairs : h'.lru.pairs = Function.update h.lru.pairs r .new
  next : h'.lru.next = h.lru.next + 1

/-- The pair `r` becomes `p` and nothing moves. -/
structure Touches (h h' : Host) (r : Ref) (p : CodecPair) : Prop where
  slot : h'.slot = h.slot
  pairs : h'.lru.pairs = Function.update h.lru.pairs r p
  next : h'.lru.next = h.lru.next

/-- The pair in the slot `k` goes back into the table. -/
structure Returns (h h' : Host) (k : Slot) (id : PairId) (r : Ref) : Prop where
  slot : h'.slot = Function.update (Function.update h.slot k none) (.cached id) (some (id, r))
  pairs : h'.lru.pairs = h.lru.pairs
  next : h'.lru.next = h.lru.next

/-- The pair in the slot `k` is let go of. -/
structure Drops (h h' : Host) (k : Slot) (r : Ref) : Prop where
  slot : h'.slot = Function.update h.slot k none
  pairs : ∃ p, h'.lru.pairs = Function.update h.lru.pairs r p
  next : h'.lru.next = h.lru.next

end Host

/-- What a pair is like as long as something holds it: usable, with both output buffers taken. -/
structure CodecPair.Ready (p : CodecPair) : Prop where
  healthy : p.errored = false
  encoder : p.encoder.buf = []
  decoder : p.decoder.buf = []

/-- Every pair is held in one place only, and is ready. -/
structure Owned (slot : Slot → Option (PairId × Ref)) (next : Ref) (pairs : Ref → CodecPair) : Prop where
  exclusive : Exclusive (Option.map Prod.snd ∘ slot)
  allocated : ∀ k id r, slot k = some (id, r) → r < next
  ready : ∀ k id r, slot k = some (id, r) → (pairs r).Ready
  nonzero : slot (.cached 0) = none

namespace Owned
variable {slot : Slot → Option (PairId × Ref)} {next : Ref} {pairs : Ref → CodecPair}
  {k k' : Slot} {id id' : PairId} {r : Ref}

theorem same_slot (own : Owned slot next pairs) (h : slot k = some (id, r))
    (h' : slot k' = some (id', r)) : k = k' :=
  own.exclusive (v := r) (by simp [h]) (by simp [h'])

theorem touch (own : Owned slot next pairs) (r : Ref) {p : CodecPair} (ready : (pairs r).Ready → p.Ready) :
    Owned slot next (Function.update pairs r p) := by
  refine ⟨own.exclusive, own.allocated, fun k id a held => ?_, own.nonzero⟩
  by_cases same : a = r
  · subst same
    simpa using ready (own.ready k id a held)
  · simpa [same] using own.ready k id a held

theorem clear (own : Owned slot next pairs) (k : Slot) : Owned (Function.update slot k none) next pairs := by
  refine ⟨?_, fun j id a held => own.allocated j id a (of_update_none held).2,
    fun j id a held => own.ready j id a (of_update_none held).2, ?_⟩
  · rw [Function.comp_update]
    exact own.exclusive.clear k
  · by_cases same : (.cached 0 : Slot) = k
    · simp [← same]
    · rw [Function.update_of_ne same]
      exact own.nonzero

theorem drop (own : Owned slot next pairs) (held : slot k = some (id, r)) (p : CodecPair) :
    Owned (Function.update slot k none) next (Function.update pairs r p) := by
  have cleared := own.clear k
  refine ⟨cleared.exclusive, cleared.allocated, fun j id' a other => ?_, cleared.nonzero⟩
  have elsewhere : a ≠ r := by
    rintro rfl
    obtain ⟨different, other⟩ := of_update_none other
    exact different (own.same_slot other held)
  rw [Function.update_of_ne elsewhere]
  exact cleared.ready j id' a other

theorem move (own : Owned slot next pairs) (held : slot k = some (id, r)) (target : k' ≠ .cached 0) :
    Owned (Function.update (Function.update slot k none) k' (some (id, r))) next pairs := by
  have cleared := own.clear k
  refine ⟨?_, fun j id' a there => ?_, fun j id' a there => ?_, ?_⟩
  · rw [Function.comp_update, Function.comp_update]
    exact own.exclusive.move (by simp [held])
  · rcases of_update_some there with ⟨_, ⟨⟩⟩ | ⟨_, old⟩
    · exact own.allocated k id r held
    · exact cleared.allocated j id' a old
  · rcases of_update_some there with ⟨_, ⟨⟩⟩ | ⟨_, old⟩
    · exact own.ready k id r held
    · exact cleared.ready j id' a old
  · rw [Function.update_of_ne target.symm]
    exact cleared.nonzero

theorem create (own : Owned slot next pairs) (target : k ≠ .cached 0) :
    Owned (Function.update slot k (some (id, next))) (next + 1) (Function.update pairs next .new) := by
  refine ⟨?_, fun j id' a there => ?_, fun j id' a there => ?_, ?_⟩
  · rw [Function.comp_update]
    refine own.exclusive.put fun j there => ?_
    obtain ⟨⟨id', a⟩, old, rfl⟩ := Option.map_eq_some_iff.mp there
    exact absurd (own.allocated j id' _ old) (lt_irrefl _)
  · rcases of_update_some there with ⟨_, ⟨⟩⟩ | ⟨_, old⟩
    · exact Nat.lt_succ_self _
    · exact Nat.lt_succ_of_lt (own.allocated j id' a old)
  · rcases of_update_some there with ⟨_, ⟨⟩⟩ | ⟨_, old⟩
    · simpa using ⟨rfl, rfl, rfl⟩
    · simpa [(own.allocated j id' a old).ne] using own.ready j id' a old
  · rw [Function.update_of_ne target.symm]
    exact own.nonzero

end Owned

namespace Host
variable {z : HistoryCodec UInt8} {h h' : Host} {s : Nat}

abbrev Owned (h : Host) : Prop := Codec.Owned h.slot h.lru.next h.lru.pairs

theorem Owned.healthy (own : h.Owned) : h.lru.Healthy :=
  fun id r present => (own.ready (.cached id) id r (slot_cached present)).healthy

theorem Owned.cached_zero (own : h.Owned) : h.lru.cache.lookup 0 = none := by
  simpa [slot] using own.nonzero

theorem reuses_of_evict {id : PairId} {r : Ref} {k : Slot} (present : h.lru.cache.lookup id = some r)
    (slot : h'.slot = Function.update { h with lru := h.lru.evict id }.slot k (some (id, r)))
    (lru : h'.lru = h.lru.evict id) : Reuses h h' k id r := by
  refine ⟨slot_cached present, ?_, by rw [lru]; rfl, by rw [lru]; rfl⟩
  rw [slot]
  exact congrArg (Function.update · k _) (slot_evict id)

theorem scan_spec {iter : List (Σ _ : PairId, Ref)} (hs : h.scan s iter = some h') :
    h.sides s = .idle ∧ h'.slot = h.slot ∧ h'.lru = h.lru ∧
      h'.sides = Function.update h.sides s (.scanned (h.lru.scan iter)) := by
  unfold scan at hs
  split at hs
  · rename_i idle
    simp only [Option.ite_none_right_eq_some, Option.some.injEq] at hs
    obtain ⟨_, rfl⟩ := hs
    exact ⟨idle, slot_set_same _ rfl (by rw [idle]; rfl) (by rw [idle]; rfl), rfl, rfl⟩
  · cases hs

theorem take_spec (own : h.Owned) {now tidHash : BitVec 128} (hs : h.take s now tidHash = some h') :
    ∃ reuse id r, h.sides s = .scanned reuse ∧ h'.sides = Function.update h.sides s (.offered id r) ∧
      (Reuses h h' (.s2q s) id r ∨ (id = randId now tidHash ∧ Creates h h' (.s2q s) id r)) := by
  unfold take at hs
  split at hs
  · rename_i reuse scanned
    rcases out : h.lru.takeOut reuse (randId now tidHash) with ⟨⟨id, r⟩, lru⟩
    rw [out] at hs
    obtain rfl := Option.some.inj hs
    have slot := slot_set_s2q (s := s) (h := h) lru (show (Phase.offered id r).q2s = _ by rw [scanned]; rfl)
    refine ⟨reuse, id, r, scanned, rfl, ?_⟩
    rcases CodecLru.takeOut_cases own.healthy out with ⟨present, rfl⟩ | ⟨rfl, rfl, rfl⟩
    · exact Or.inl (reuses_of_evict present slot rfl)
    · exact Or.inr ⟨rfl, rfl, slot, rfl, rfl⟩
  · cases hs

theorem lookup_spec (own : h.Owned) {remoteId : PairId} (hs : h.lookup s remoteId = some h') :
    ∃ id r r' ack, h.sides s = .offered id r ∧
      h'.sides = Function.update h.sides s (.acked id r remoteId r' ack) ∧
      ((ack = remoteId ∧ remoteId ≠ 0 ∧ Reuses h h' (.q2s s) remoteId r') ∨
        (ack = 0 ∧ h.slot (.cached remoteId) = none ∧ Creates h h' (.q2s s) remoteId r')) := by
  unfold lookup at hs
  split at hs
  · rename_i id r offered
    rcases out : h.lru.lookup remoteId with ⟨found, lru⟩
    rw [out] at hs
    have same : ∀ r' ack, (Phase.acked id r remoteId r' ack).s2q = (h.sides s).s2q := by
      simp [offered, Phase.s2q]
    rcases CodecLru.lookup_cases own.healthy own.cached_zero out with
      ⟨r', nonzero, present, rfl, rfl⟩ | ⟨absent, rfl, rfl⟩
    · simp only [nonzero, if_false, Option.some.injEq] at hs
      obtain rfl := hs
      refine ⟨id, r, r', remoteId, offered, rfl, Or.inl ⟨rfl, nonzero, ?_⟩⟩
      exact reuses_of_evict present (slot_set_q2s _ (same r' remoteId)) rfl
    · simp only [if_true, Option.some.injEq] at hs
      obtain rfl := hs
      refine ⟨id, r, h.lru.next, 0, offered, rfl, Or.inr ⟨rfl, by simp [slot, absent], rfl, ?_, ?_, rfl⟩⟩
      · exact slot_set_q2s _ (same h.lru.next 0)
      · simp [set, CodecLru.modify, CodecLru.alloc, CodecPair.resetDecoder, CodecPair.new]
  · cases hs

theorem complete_spec {remoteAck : PairId} (hs : h.complete s remoteAck = some h') :
    ∃ id r remoteId r' ack, h.sides s = .acked id r remoteId r' ack ∧
      h'.sides = Function.update h.sides s
        (.flowing ⟨r, r', id, remoteAck, remoteId, ack⟩ .running .running) ∧
      Touches h h' r (if remoteAck = 0 ∧ id ≠ 0 then (h.lru.pairs r).resetEncoder else h.lru.pairs r) := by
  unfold complete at hs
  split at hs
  · rename_i id r remoteId r' ack acked
    obtain rfl := Option.some.inj hs
    refine ⟨id, r, remoteId, r', ack, acked, rfl, ?_, ?_, ?_⟩
    · refine slot_set_same _ ?_ (by rw [acked]; rfl) (by rw [acked]; rfl)
      split <;> rfl
    · split
      · simp [set, *, CodecLru.modify]
      · simp [set, *]
    · split
      · simp [set, *, CodecLru.modify]
      · simp [set, *]
  · cases hs

theorem fail_spec (hs : h.fail s = some h') :
    h'.slot = Function.update (Function.update h.slot (.s2q s) none) (.q2s s) none ∧ h'.lru = h.lru ∧
      h'.sides = Function.update h.sides s .failed ∧
      ((∃ reuse, h.sides s = .scanned reuse) ∨ (∃ id r, h.sides s = .offered id r) ∨
        ∃ id r remoteId r' ack, h.sides s = .acked id r remoteId r' ack) := by
  unfold fail at hs
  split at hs
  all_goals
    try cases hs
    try exact ⟨slot_set _ _, rfl, rfl, by simp [*]⟩

theorem encode_spec {ev : EncEvent} {t : EncoderTurn} (hs : h.encode z s ev = some (t, h')) :
    ∃ res task, h.sides s = .flowing res .running task ∧
      t = encoderTurn z (h.lru.pairs res.s2qPair).encoder ev ∧
      h'.sides = Function.update h.sides s (.flowing res (.after t.result) task) ∧
      Touches h h' res.s2qPair { h.lru.pairs res.s2qPair with encoder := t.encoder } := by
  unfold encode at hs
  split at hs
  · rename_i res task flowing
    simp only [Option.some.injEq, Prod.mk.injEq] at hs
    obtain ⟨rfl, rfl⟩ := hs
    refine ⟨res, task, flowing, rfl, rfl, slot_set_same _ rfl ?_ ?_, rfl, rfl⟩
    · simp [flowing, Phase.s2q]
    · simp [flowing, Phase.q2s]
  · cases hs

theorem decode_spec {r : WireRead} {t : DecoderTurn} (hs : h.decode z s r = some (t, h')) :
    ∃ res task, h.sides s = .flowing res task .running ∧
      t = decoderTurn z (h.lru.pairs res.q2sPair).decoder r ∧
      h'.sides = Function.update h.sides s (.flowing res task (.after t.result)) ∧
      Touches h h' res.q2sPair { h.lru.pairs res.q2sPair with decoder := t.decoder } := by
  unfold decode at hs
  split at hs
  · rename_i res task flowing
    simp only [Option.some.injEq, Prod.mk.injEq] at hs
    obtain ⟨rfl, rfl⟩ := hs
    refine ⟨res, task, flowing, rfl, rfl, slot_set_same _ rfl ?_ ?_, rfl, rfl⟩
    · simp [flowing, Phase.s2q]
    · simp [flowing, Phase.q2s]
  · cases hs

theorem settle_effect (own : h.Owned) {k : Slot} {id : PairId} {r : Ref} {result : TaskResult}
    (held : h.slot k = some (id, r)) (stream : ∀ id', k ≠ .cached id')
    (slot : h'.slot = Function.update { h with lru := h.lru.settle id r result }.slot k none)
    (lru : h'.lru = h.lru.settle id r result) :
    (id ≠ 0 ∧ (result = .ok .cleanEof ∨ result = .ok .ioError) ∧ Returns h h' k id r) ∨ Drops h h' k r := by
  have checkin (settled : h.lru.settle id r result = h.lru.checkin id r) :
      (id ≠ 0 ∧ Returns h h' k id r) ∨ Drops h h' k r := by
    rw [settled] at slot lru
    by_cases zero : id = 0
    · have same : h.lru.checkin id r = h.lru := by simp [CodecLru.checkin, zero]
      rw [same] at slot lru
      exact Or.inr ⟨slot, ⟨h.lru.pairs r, by simp [lru]⟩, by rw [lru]⟩
    · have inserted : h.lru.checkin id r = { h.lru with cache := h.lru.cache.insert id r } := by
        rw [CodecLru.checkin, if_neg (not_or.mpr ⟨zero, by simp [(own.ready k id r held).healthy]⟩)]
      rw [inserted] at slot lru
      refine Or.inl ⟨zero, ?_, by rw [lru], by rw [lru]⟩
      rw [slot, slot_insert _ id r rfl, Function.update_comm (stream id)]
  have marked (settled : h.lru.settle id r result = h.lru.modify r .markErrored) : Drops h h' k r := by
    rw [settled] at slot lru
    exact ⟨slot, ⟨(h.lru.pairs r).markErrored, by rw [lru]; rfl⟩, by rw [lru]; rfl⟩
  match result with
  | .ok .cleanEof => exact (checkin rfl).imp_left fun ⟨nonzero, back⟩ => ⟨nonzero, Or.inl rfl, back⟩
  | .ok .ioError => exact (checkin rfl).imp_left fun ⟨nonzero, back⟩ => ⟨nonzero, Or.inr rfl, back⟩
  | .ok .timeout => exact Or.inr (marked rfl)
  | .error _ => exact Or.inr (marked rfl)

theorem settleS2q_spec (own : h.Owned) (hs : h.settleS2q s = some h') :
    ∃ res result task, h.sides s = .flowing res (.returned result) task ∧
      h'.sides = Function.update h.sides s (.flowing res .settled task) ∧
      ((res.s2qId ≠ 0 ∧ (result = .ok .cleanEof ∨ result = .ok .ioError) ∧
          Returns h h' (.s2q s) res.s2qId res.s2qPair) ∨ Drops h h' (.s2q s) res.s2qPair) := by
  unfold settleS2q at hs
  split at hs
  · rename_i res result task flowing
    obtain rfl := Option.some.inj hs
    have held : h.slot (.s2q s) = some (res.s2qId, res.s2qPair) := by simp [flowing, Phase.s2q]
    refine ⟨res, result, task, flowing, rfl, settle_effect own held (by simp) ?_ rfl⟩
    exact slot_set_s2q _ (by simp [flowing, Phase.q2s])
  · cases hs

theorem settleQ2s_spec (own : h.Owned) (hs : h.settleQ2s s = some h') :
    ∃ res task result, h.sides s = .flowing res task (.returned result) ∧
      h'.sides = Function.update h.sides s (.flowing res task .settled) ∧
      ((res.q2sId ≠ 0 ∧ (result = .ok .cleanEof ∨ result = .ok .ioError) ∧
          Returns h h' (.q2s s) res.q2sId res.q2sPair) ∨ Drops h h' (.q2s s) res.q2sPair) := by
  unfold settleQ2s at hs
  split at hs
  · rename_i res task result flowing
    obtain rfl := Option.some.inj hs
    have held : h.slot (.q2s s) = some (res.q2sId, res.q2sPair) := by simp [flowing, Phase.q2s]
    refine ⟨res, task, result, flowing, rfl, settle_effect own held (by simp) ?_ rfl⟩
    exact slot_set_q2s _ (by simp [flowing, Phase.s2q])
  · cases hs

/-! ### Ownership -/

theorem Reuses.owned {k : Slot} {id : PairId} {r : Ref} (e : Reuses h h' k id r) (own : h.Owned)
    (stream : ∀ id', k ≠ .cached id') : h'.Owned := by
  rw [Owned, e.slot, e.pairs, e.next]
  exact own.move e.held (stream 0)

theorem Creates.owned {k : Slot} {id : PairId} {r : Ref} (e : Creates h h' k id r) (own : h.Owned)
    (stream : ∀ id', k ≠ .cached id') : h'.Owned := by
  rw [Owned, e.slot, e.pairs, e.next, e.ref]
  exact own.create (stream 0)

theorem Touches.owned {r : Ref} {p : CodecPair} (e : Touches h h' r p) (own : h.Owned)
    (ready : (h.lru.pairs r).Ready → p.Ready) : h'.Owned := by
  rw [Owned, e.slot, e.pairs, e.next]
  exact own.touch r ready

theorem Returns.owned {k : Slot} {id : PairId} {r : Ref} (e : Returns h h' k id r) (own : h.Owned)
    (held : h.slot k = some (id, r)) (nonzero : id ≠ 0) : h'.Owned := by
  rw [Owned, e.slot, e.pairs, e.next]
  exact own.move held (by simpa using nonzero)

theorem Drops.owned {k : Slot} {id : PairId} {r : Ref} (e : Drops h h' k r) (own : h.Owned)
    (held : h.slot k = some (id, r)) : h'.Owned := by
  obtain ⟨p, pairs⟩ := e.pairs
  rw [Owned, e.slot, pairs, e.next]
  exact own.drop held p

/-! What a slot holds after such a step it held before, or it is what the step is about. -/

section Old
variable {k j : Slot} {id x : PairId} {r₀ r : Ref}

theorem Reuses.old (e : Reuses h h' k id r₀) (held : h'.slot j = some (x, r)) :
    (j = k ∧ x = id ∧ r = r₀) ∨ (j ≠ k ∧ h.slot j = some (x, r)) := by
  rw [e.slot] at held
  rcases of_update_some held with ⟨same, ⟨⟩⟩ | ⟨different, old⟩
  · exact Or.inl ⟨same, rfl, rfl⟩
  · exact Or.inr ⟨different, (of_update_none old).2⟩

theorem Creates.old (e : Creates h h' k id r₀) (own : h.Owned) (held : h'.slot j = some (x, r)) :
    (j = k ∧ x = id ∧ r = r₀) ∨
      (j ≠ k ∧ h.slot j = some (x, r) ∧ h'.lru.pairs r = h.lru.pairs r) := by
  rw [e.slot] at held
  rcases of_update_some held with ⟨same, ⟨⟩⟩ | ⟨different, old⟩
  · exact Or.inl ⟨same, rfl, rfl⟩
  · have earlier : r ≠ r₀ := e.ref ▸ (own.allocated j x r old).ne
    exact Or.inr ⟨different, old, by rw [e.pairs, Function.update_of_ne earlier]⟩

theorem Returns.old (e : Returns h h' k id r₀) (held : h'.slot j = some (x, r)) :
    (j = .cached id ∧ x = id ∧ r = r₀) ∨ (j ≠ k ∧ h.slot j = some (x, r)) := by
  rw [e.slot] at held
  rcases of_update_some held with ⟨same, ⟨⟩⟩ | ⟨_, old⟩
  · exact Or.inl ⟨same, rfl, rfl⟩
  · exact Or.inr (of_update_none old)

theorem Drops.old (e : Drops h h' k r₀) (own : h.Owned) (held₀ : h.slot k = some (id, r₀))
    (held : h'.slot j = some (x, r)) :
    j ≠ k ∧ h.slot j = some (x, r) ∧ h'.lru.pairs r = h.lru.pairs r := by
  rw [e.slot] at held
  obtain ⟨different, old⟩ := of_update_none held
  obtain ⟨p, pairs⟩ := e.pairs
  have other : r ≠ r₀ := by
    rintro rfl
    exact different (own.same_slot old held₀)
  exact ⟨different, old, by rw [pairs, Function.update_of_ne other]⟩

theorem settled_old (own : h.Owned) (effect : Returns h h' k id r₀ ∨ Drops h h' k r₀)
    (held₀ : h.slot k = some (id, r₀)) (held : h'.slot j = some (x, r)) :
    (∃ i, h.slot i = some (x, r)) ∧ h'.lru.pairs r = h.lru.pairs r := by
  rcases effect with back | dropped
  · refine ⟨?_, by rw [back.pairs]⟩
    rcases back.old held with ⟨_, rfl, rfl⟩ | ⟨_, old⟩
    · exact ⟨k, held₀⟩
    · exact ⟨j, old⟩
  · obtain ⟨_, old, pairs⟩ := dropped.old own held₀ held
    exact ⟨⟨j, old⟩, pairs⟩

theorem Touches.encoder {p : CodecPair} (e : Touches h h' r₀ p) (same : p.encoder = (h.lru.pairs r₀).encoder)
    (r : Ref) : (h'.lru.pairs r).encoder = (h.lru.pairs r).encoder := by
  rw [e.pairs]
  by_cases its : r = r₀
  · rw [its, Function.update_self, same]
  · rw [Function.update_of_ne its]

theorem Touches.decoder {p : CodecPair} (e : Touches h h' r₀ p) (same : p.decoder = (h.lru.pairs r₀).decoder)
    (r : Ref) : (h'.lru.pairs r).decoder = (h.lru.pairs r).decoder := by
  rw [e.pairs]
  by_cases its : r = r₀
  · rw [its, Function.update_self, same]
  · rw [Function.update_of_ne its]

end Old

/-- A step of the stream `s` leaves the other streams alone, and every pair that `s` does not hold. -/
structure Frame (h h' : Host) (s : Nat) : Prop where
  sides : ∀ t, t ≠ s → h'.sides t = h.sides t
  pairs : ∀ k id r, k ≠ .s2q s → k ≠ .q2s s → h.slot k = some (id, r) → h'.lru.pairs r = h.lru.pairs r

theorem frame_of_pairs {phase : Phase} (sides : h'.sides = Function.update h.sides s phase)
    (pairs : h'.lru.pairs = h.lru.pairs) : Frame h h' s :=
  ⟨fun t different => by rw [sides, Function.update_of_ne different], fun _ _ r _ _ _ => by rw [pairs]⟩

theorem frame_of_update (own : h.Owned) {phase : Phase} {r : Ref} {p : CodecPair}
    (sides : h'.sides = Function.update h.sides s phase)
    (pairs : h'.lru.pairs = Function.update h.lru.pairs r p)
    (its : r = h.lru.next ∨ ∃ k id, (k = .s2q s ∨ k = .q2s s) ∧ h.slot k = some (id, r)) : Frame h h' s := by
  refine ⟨fun t different => by rw [sides, Function.update_of_ne different], ?_⟩
  intro k id a notS2q notQ2s held
  have different : a ≠ r := by
    rintro rfl
    rcases its with rfl | ⟨k', id', at_, held'⟩
    · exact lt_irrefl _ (own.allocated k id _ held)
    · obtain rfl := own.same_slot held held'
      rcases at_ with at_ | at_
      · exact notS2q at_
      · exact notQ2s at_
  rw [pairs, Function.update_of_ne different]

theorem scan_owned {iter : List (Σ _ : PairId, Ref)} (own : h.Owned) (hs : h.scan s iter = some h') :
    h'.Owned := by
  obtain ⟨_, slot, lru, _⟩ := scan_spec hs
  rwa [Owned, slot, lru]

theorem take_owned {now tidHash : BitVec 128} (own : h.Owned) (hs : h.take s now tidHash = some h') :
    h'.Owned := by
  obtain ⟨_, _, _, _, _, reused | ⟨_, created⟩⟩ := take_spec own hs
  · exact reused.owned own (by simp)
  · exact created.owned own (by simp)

theorem lookup_owned {remoteId : PairId} (own : h.Owned) (hs : h.lookup s remoteId = some h') :
    h'.Owned := by
  obtain ⟨_, _, _, _, _, _, ⟨_, _, reused⟩ | ⟨_, _, created⟩⟩ := lookup_spec own hs
  · exact reused.owned own (by simp)
  · exact created.owned own (by simp)

theorem complete_owned {remoteAck : PairId} (own : h.Owned) (hs : h.complete s remoteAck = some h') :
    h'.Owned := by
  obtain ⟨_, _, _, _, _, _, _, touched⟩ := complete_spec hs
  refine touched.owned own fun ready => ?_
  split
  · exact ⟨ready.healthy, rfl, ready.decoder⟩
  · exact ready

theorem fail_owned (own : h.Owned) (hs : h.fail s = some h') : h'.Owned := by
  obtain ⟨slot, lru, _⟩ := fail_spec hs
  rw [Owned, slot, lru]
  exact (own.clear _).clear _

theorem encode_owned {ev : EncEvent} {t : EncoderTurn} (own : h.Owned)
    (hs : h.encode z s ev = some (t, h')) : h'.Owned := by
  obtain ⟨_, _, _, rfl, _, touched⟩ := encode_spec hs
  refine touched.owned own fun ready => ⟨ready.healthy, ?_, ready.decoder⟩
  obtain ⟨_, turn⟩ := encoderTurn_transmits (z := z) ready.encoder ev
  exact turn.drained

theorem decode_owned {r : WireRead} {t : DecoderTurn} (own : h.Owned)
    (hs : h.decode z s r = some (t, h')) : h'.Owned := by
  obtain ⟨_, _, _, rfl, _, touched⟩ := decode_spec hs
  exact touched.owned own fun ready => ⟨ready.healthy, ready.encoder, decoderTurn_drained ready.decoder r⟩

theorem settleS2q_owned (own : h.Owned) (hs : h.settleS2q s = some h') : h'.Owned := by
  obtain ⟨res, _, _, flowing, _, ⟨nonzero, _, back⟩ | dropped⟩ := settleS2q_spec own hs
  · exact back.owned own (by simp [flowing, Phase.s2q]) nonzero
  · have held : h.slot (.s2q s) = some (res.s2qId, res.s2qPair) := by simp [flowing, Phase.s2q]
    exact dropped.owned own held

theorem settleQ2s_owned (own : h.Owned) (hs : h.settleQ2s s = some h') : h'.Owned := by
  obtain ⟨res, _, _, flowing, _, ⟨nonzero, _, back⟩ | dropped⟩ := settleQ2s_spec own hs
  · exact back.owned own (by simp [flowing, Phase.q2s]) nonzero
  · have held : h.slot (.q2s s) = some (res.q2sId, res.q2sPair) := by simp [flowing, Phase.q2s]
    exact dropped.owned own held

theorem evict_owned (own : h.Owned) (id : PairId) : (h.evict id).Owned := by
  rw [Owned, slot_evict]
  exact own.clear _

theorem new_owned : new.Owned := by
  have empty : new.slot = fun _ => none := by
    funext k
    cases k <;> rfl
  rw [Owned, empty]
  exact ⟨fun _ _ _ held => by simp at held, by simp, by simp, rfl⟩

theorem scan_frame {iter : List (Σ _ : PairId, Ref)} (hs : h.scan s iter = some h') : Frame h h' s := by
  obtain ⟨_, _, lru, sides⟩ := scan_spec hs
  exact frame_of_pairs sides (by rw [lru])

theorem take_frame {now tidHash : BitVec 128} (own : h.Owned) (hs : h.take s now tidHash = some h') :
    Frame h h' s := by
  obtain ⟨_, _, _, _, sides, reused | ⟨_, created⟩⟩ := take_spec own hs
  · exact frame_of_pairs sides reused.pairs
  · exact frame_of_update own sides created.pairs (Or.inl created.ref)

theorem lookup_frame {remoteId : PairId} (own : h.Owned) (hs : h.lookup s remoteId = some h') :
    Frame h h' s := by
  obtain ⟨_, _, _, _, _, sides, ⟨_, _, reused⟩ | ⟨_, _, created⟩⟩ := lookup_spec own hs
  · exact frame_of_pairs sides reused.pairs
  · exact frame_of_update own sides created.pairs (Or.inl created.ref)

theorem complete_frame {remoteAck : PairId} (own : h.Owned) (hs : h.complete s remoteAck = some h') :
    Frame h h' s := by
  obtain ⟨id, r, _, _, _, acked, sides, touched⟩ := complete_spec hs
  exact frame_of_update own sides touched.pairs
    (Or.inr ⟨.s2q s, id, Or.inl rfl, by simp [acked, Phase.s2q]⟩)

theorem fail_frame (hs : h.fail s = some h') : Frame h h' s := by
  obtain ⟨_, lru, sides, _⟩ := fail_spec hs
  exact frame_of_pairs sides (by rw [lru])

theorem encode_frame {ev : EncEvent} {t : EncoderTurn} (own : h.Owned)
    (hs : h.encode z s ev = some (t, h')) : Frame h h' s := by
  obtain ⟨res, _, flowing, _, sides, touched⟩ := encode_spec hs
  exact frame_of_update own sides touched.pairs
    (Or.inr ⟨.s2q s, res.s2qId, Or.inl rfl, by simp [flowing, Phase.s2q]⟩)

theorem decode_frame {r : WireRead} {t : DecoderTurn} (own : h.Owned)
    (hs : h.decode z s r = some (t, h')) : Frame h h' s := by
  obtain ⟨res, _, flowing, _, sides, touched⟩ := decode_spec hs
  exact frame_of_update own sides touched.pairs
    (Or.inr ⟨.q2s s, res.q2sId, Or.inr rfl, by simp [flowing, Phase.q2s]⟩)

theorem settleS2q_frame (own : h.Owned) (hs : h.settleS2q s = some h') : Frame h h' s := by
  obtain ⟨res, _, _, flowing, sides, ⟨_, _, back⟩ | dropped⟩ := settleS2q_spec own hs
  · exact frame_of_pairs sides back.pairs
  · obtain ⟨_, pairs⟩ := dropped.pairs
    exact frame_of_update own sides pairs
      (Or.inr ⟨.s2q s, res.s2qId, Or.inl rfl, by simp [flowing, Phase.s2q]⟩)

theorem settleQ2s_frame (own : h.Owned) (hs : h.settleQ2s s = some h') : Frame h h' s := by
  obtain ⟨res, _, _, flowing, sides, ⟨_, _, back⟩ | dropped⟩ := settleQ2s_spec own hs
  · exact frame_of_pairs sides back.pairs
  · obtain ⟨_, pairs⟩ := dropped.pairs
    exact frame_of_update own sides pairs
      (Or.inr ⟨.q2s s, res.q2sId, Or.inr rfl, by simp [flowing, Phase.q2s]⟩)

theorem evict_frame (id : PairId) (s : Nat) : Frame h (h.evict id) s :=
  ⟨fun _ _ => rfl, fun _ _ _ _ _ _ => rfl⟩

/-- A step of one of the streams, or an eviction. -/
inductive Op where
  | scan (s : Nat) (iter : List (Σ _ : PairId, Ref))
  | take (s : Nat) (now tidHash : BitVec 128)
  | lookup (s : Nat) (remoteId : PairId)
  | complete (s : Nat) (remoteAck : PairId)
  | fail (s : Nat)
  | encode (s : Nat) (ev : EncEvent)
  | decode (s : Nat) (r : WireRead)
  | settleS2q (s : Nat)
  | settleQ2s (s : Nat)
  | evict (id : PairId)

def step (z : HistoryCodec UInt8) (h : Host) : Op → Option Host
  | .scan s iter => h.scan s iter
  | .take s now tidHash => h.take s now tidHash
  | .lookup s remoteId => h.lookup s remoteId
  | .complete s remoteAck => h.complete s remoteAck
  | .fail s => h.fail s
  | .encode s ev => (h.encode z s ev).map Prod.snd
  | .decode s r => (h.decode z s r).map Prod.snd
  | .settleS2q s => h.settleS2q s
  | .settleQ2s s => h.settleQ2s s
  | .evict id => some (h.evict id)

theorem step_owned {op : Op} (own : h.Owned) (hs : h.step z op = some h') : h'.Owned := by
  cases op with
  | scan s iter => exact scan_owned own hs
  | take s now tidHash => exact take_owned own hs
  | lookup s remoteId => exact lookup_owned own hs
  | complete s remoteAck => exact complete_owned own hs
  | fail s => exact fail_owned own hs
  | encode s ev =>
    obtain ⟨⟨t, _⟩, turn, rfl⟩ := Option.map_eq_some_iff.mp hs
    exact encode_owned own turn
  | decode s r =>
    obtain ⟨⟨t, _⟩, turn, rfl⟩ := Option.map_eq_some_iff.mp hs
    exact decode_owned own turn
  | settleS2q s => exact settleS2q_owned own hs
  | settleQ2s s => exact settleQ2s_owned own hs
  | evict id =>
    obtain rfl := Option.some.inj hs
    exact evict_owned own id

def Op.stream : Op → Nat
  | scan s _ | take s _ _ | lookup s _ | complete s _ | fail s | encode s _ | decode s _ | settleS2q s
  | settleQ2s s => s
  | evict _ => 0

theorem step_frame {op : Op} (own : h.Owned) (hs : h.step z op = some h') : Frame h h' op.stream := by
  cases op with
  | scan s iter => exact scan_frame hs
  | take s now tidHash => exact take_frame own hs
  | lookup s remoteId => exact lookup_frame own hs
  | complete s remoteAck => exact complete_frame own hs
  | fail s => exact fail_frame hs
  | encode s ev =>
    obtain ⟨⟨t, _⟩, turn, rfl⟩ := Option.map_eq_some_iff.mp hs
    exact encode_frame own turn
  | decode s r =>
    obtain ⟨⟨t, _⟩, turn, rfl⟩ := Option.map_eq_some_iff.mp hs
    exact decode_frame own turn
  | settleS2q s => exact settleS2q_frame own hs
  | settleQ2s s => exact settleQ2s_frame own hs
  | evict id =>
    obtain rfl := Option.some.inj hs
    exact evict_frame id 0

/-- A pair is used by at most one stream at a time, whatever the streams and the table do. -/
theorem pair_held_once {ops : List Op} (h : run (step z) new ops = some h') :
    Exclusive (Option.map Prod.snd ∘ h'.slot) ∧ h'.lru.Healthy ∧ h'.lru.cache.lookup 0 = none ∧
      ∀ k id r, h'.slot k = some (id, r) → (h'.lru.pairs r).errored = false := by
  have own : h'.Owned := run_invariant (I := Owned) (fun _ _ _ => step_owned) new_owned h
  exact ⟨own.exclusive, own.healthy, own.cached_zero, fun k id r held => (own.ready k id r held).healthy⟩

/-- The first stream returns its pair, and two streams then find it in the same scan. -/
def contended : List Op :=
  [.scan 0 [], .take 0 0 0, .lookup 0 9, .complete 0 0, .encode 0 (.read [] .ok), .settleS2q 0,
    .scan 1 [⟨1, 0⟩], .scan 2 [⟨1, 0⟩], .take 1 5 0, .take 2 6 0]

theorem pair_held_once_contended : ∃ h, run (step (framed [])) new contended = some h ∧
    h.slot (.s2q 1) = some (1, 0) ∧ (∃ id, id ≠ 1 ∧ h.slot (.s2q 2) = some (id, 2)) ∧
    Exclusive (Option.map Prod.snd ∘ h.slot) := by
  have ran : run (step (framed [])) new contended = some _ := rfl
  refine ⟨_, ran, by decide +kernel, ⟨randId 6 0, by decide +kernel⟩, (pair_held_once ran).1⟩

end Host
end Rstun.Codec
