import Rstun.Codec.Conduct

/-!
# Encoders and decoders of one id

An id names an encoder and a decoder at each process, so two codec states of each process face two of
the other. In an orderly run in which every miss is clean, each decoder has consumed what the encoder
of the same id at the other process emitted, up to what is still on its way to it. A hit therefore
joins two states that are in step.
-/

namespace Rstun.Codec
open Streaming Transition Slots

def Phase.ack : Phase → Option PairId
  | acked _ _ _ _ ack => some ack
  | flowing res _ _ => some res.q2sAck
  | idle | scanned _ | offered _ _ | failed => none

/-- No encoder is running on the pair in this slot. -/
def Host.AtRest (h : Host) (k : Slot) : Prop :=
  ∀ s res task, k = .s2q s → h.sides s ≠ .flowing res .running task

namespace Net
variable {z : HistoryCodec UInt8} {tidy : Prop} {n n' : Net} {a : Action}

def emitted (z : HistoryCodec UInt8) (n : Net) (p : Party) (r : Ref) : Bytes :=
  z.emit ((n.host p).lru.pairs r).encoder.ops

def consumed (n : Net) (p : Party) (r : Ref) : Bytes := ((n.host p).lru.pairs r).decoder.consumed

/-- What `p` has sent to the decoder in this slot of the other process, and it has not yet read. -/
def lag (n : Net) (p : Party) : Slot → Bytes
  | .q2s s => (n.link s p).inflight
  | .cached _ | .s2q _ => []

/-- The decoder in this slot is new, and `p` does not yet know that it has to start afresh. -/
def Unreset (n : Net) (p : Party) : Slot → Prop
  | .q2s s => ((n.host p).sides s).result = none ∧ ((n.host p.other).sides s).ack = some 0
  | .cached _ | .s2q _ => False

/-- The decoder of the pair `b` in the slot `k` of the other process follows the encoder of `a`. -/
structure Follows (z : HistoryCodec UInt8) (n : Net) (p : Party) (k : Slot) (a b : Ref) : Prop where
  reset : n.Unreset p k → n.consumed p.other b = []
  kept : ¬ n.Unreset p k → n.consumed p.other b ++ n.lag p k = n.emitted z p a

/-- The data of `p` on the stream `s`, from its encoder to the decoder at the other end. Both may have
been handed on to other streams since. `held` was in the encoder before the stream. -/
def Carried (z : HistoryCodec UInt8) (n : Net) (p : Party) (s : Nat) (held : Bytes) : Prop :=
  ∃ ops d, Carries z ops d (n.link s p).inflight (held ++ (n.link s p).read) (n.link s p).written ∧
    (∀ id r, (n.host p).slot (.s2q s) = some (id, r) → ((n.host p).lru.pairs r).encoder.ops = ops) ∧
    ∀ id r, (n.host p.other).slot (.q2s s) = some (id, r) → n.consumed p.other r = d

/-- A lookup that finds nothing cached is for a pair that was offered with a fresh decoder. -/
def OfferedFresh (n : Net) (a : Action) : Prop :=
  ∀ ps ∈ a.lookingUp, (n.host ps.1).slot (.cached (n.remoteId ps.1 ps.2)) = none →
    ∀ v ∈ (n.host ps.1.other).slot (.s2q ps.2), n.consumed ps.1.other v.2 = []

instance (n : Net) (a : Action) : Decidable (OfferedFresh n a) :=
  inferInstanceAs (Decidable (∀ ps ∈ a.lookingUp, _ → ∀ v ∈ (n.host ps.1.other).slot (.s2q ps.2), _ = _))

/-- It is also for an id that nothing else has, so that the new pair and the one that was offered are
the only two of the id. -/
def CleanMiss (n : Net) (a : Action) : Prop := Unattached n a ∧ OfferedFresh n a

/-- Where `tidy` is asked for, no encoder that is not at work holds input back. -/
structure Synced (z : HistoryCodec UInt8) (tidy : Prop) (n : Net) : Prop where
  naming : n.Naming
  conducted : n.Conducted
  follows : ∀ p k k' x r r', (n.host p).slot k = some (x, r) → (n.host p.other).slot k' = some (x, r') →
    Follows z n p k' r r'
  carried : ∀ p s, ((n.host p).sides s).result ≠ none → ∃ held, Carried z n p s held ∧ (tidy → held = [])
  flushed : tidy → ∀ p k id r, (n.host p).slot k = some (id, r) →
    (n.host p).AtRest k → z.Flushed ((n.host p).lru.pairs r).encoder.ops

/-! ### What one side knows of the other -/

section Peers
variable {p : Party} {s : Nat}

theorem slot_s2q_name (wire : n.Wire) {x : PairId} {r : Ref} (held : (n.host p).slot (.s2q s) = some (x, r))
    (sent : pairIdSize ≤ (n.link s p).log.length) : x = n.remoteId p.other s := by
  have agrees := wire p s
  have prefixed {id : PairId} (first : idBytes id <+: (n.link s p).log) : id = n.remoteId p.other s := by
    obtain ⟨rest, log⟩ := first
    rw [remoteId, Party.other_other, ← log, List.take_append_of_le_length (length_idBytes id).ge,
      List.take_of_length_le (length_idBytes id).le, readId_idBytes]
  rw [Host.slot_s2q] at held
  cases phase : (n.host p).sides s with
  | idle | scanned _ | failed => simp [phase, Phase.s2q] at held
  | offered id r' =>
    rw [phase] at agrees held
    obtain ⟨rfl, _⟩ := Prod.mk.inj (Option.some.inj held)
    rcases agrees.2 with empty | first
    · simp [empty, pairIdSize] at sent
    · exact prefixed (by simp [first])
  | acked id r' remote r'' ack =>
    rw [phase] at agrees held
    obtain ⟨rfl, _⟩ := Prod.mk.inj (Option.some.inj held)
    rcases agrees.2.1 with first | both
    · exact prefixed (by simp [first])
    · exact prefixed (by simp [both])
  | flowing res t u =>
    rw [phase] at agrees held
    cases t with
    | settled => simp [Phase.s2q] at held
    | running | returned _ =>
      obtain ⟨rfl, _⟩ := Prod.mk.inj (Option.some.inj held)
      exact prefixed ((List.prefix_append _ _).trans agrees.2.1)

/-- The other side has given its ack and still holds the pair it looked up. -/
theorem replied (wire : n.Wire) (conducted : n.Conducted)
    (heard : 2 * pairIdSize ≤ (n.link s p.other).log.length) (unfinished : (n.link s p).fin = false) :
    ∃ r, (n.host p.other).slot (.q2s s) = some (n.remoteId p.other s, r) ∧
      ((n.host p.other).sides s).ack = some (n.remoteAck p s) := by
  have agrees := wire p.other s
  have conduct := conducted p.other s
  rw [Party.other_other] at agrees conduct
  cases phase : (n.host p.other).sides s with
  | idle | scanned _ =>
    rw [phase] at agrees
    simp [show (n.link s p.other).log = [] from agrees, pairIdSize] at heard
  | offered id r =>
    rw [phase] at agrees
    rcases agrees.2 with empty | first
    · simp [empty, pairIdSize] at heard
    · simp [first, pairIdSize] at heard
  | failed => exact absurd phase conduct.alive
  | acked id r remote r' ack =>
    rw [phase] at agrees
    obtain ⟨_, first | both, _, _, remote_⟩ := agrees
    · simp [first, pairIdSize] at heard
    · refine ⟨r', by simp [phase, Phase.q2s, remote_, remoteId], ?_⟩
      rw [remoteAck, (Observed.readId_messages (by rw [both])).2]
      rfl
  | flowing res t u =>
    have running : u = .running := by
      by_contra stopped
      exact absurd ((conduct.ended res t u phase stopped).1.symm.trans unfinished) (by simp)
    rw [phase] at agrees
    obtain ⟨_, sent, _, _, remote_, _⟩ := agrees
    refine ⟨res.q2sPair, by simp [phase, running, Phase.q2s, remote_, remoteId], ?_⟩
    rw [remoteAck, (Observed.readId_messages sent).2]
    rfl

theorem unanswered (wire : n.Wire) (short : (n.link s p).log.length = pairIdSize) :
    ((n.host p.other).sides s).result = none := by
  have agrees := wire p.other s
  rw [Party.other_other] at agrees
  cases phase : (n.host p.other).sides s with
  | flowing res t u =>
    rw [phase] at agrees
    have long := agrees.2.2.2.1
    simp [short, pairIdSize] at long
  | _ => rfl

/-- The other side is in the handshake and has sent the id of the pair it holds. -/
theorem offering (wire : n.Wire) (conducted : n.Conducted)
    (heard : pairIdSize ≤ (n.link s p.other).log.length)
    (pending : ((n.host p.other).sides s).result = none) :
    ∃ r, (n.host p.other).slot (.s2q s) = some (n.remoteId p s, r) := by
  have agrees := wire p.other s
  have named {id : PairId} {r : Ref} (held : (n.host p.other).slot (.s2q s) = some (id, r)) :
      (n.host p.other).slot (.s2q s) = some (n.remoteId p s, r) := by
    have name := slot_s2q_name wire held heard
    rw [Party.other_other] at name
    rw [held, name]
  cases phase : (n.host p.other).sides s with
  | idle | scanned _ =>
    rw [phase] at agrees
    simp [show (n.link s p.other).log = [] from agrees, pairIdSize] at heard
  | offered id r | acked id r _ _ _ =>
    have held : (n.host p.other).slot (.s2q s) = some (id, r) := by simp [phase, Phase.s2q]
    exact ⟨r, named held⟩
  | flowing res t u =>
    rw [phase] at pending
    cases pending
  | failed => exact absurd phase (conducted p.other s).alive

end Peers

/-! ### Views that a step leaves alone -/

theorem Local.sides {P : Party} {S : Nat} (moved : Local n n' P S) (p : Party) {t : Nat} (different : t ≠ S) :
    (n'.host p).sides t = (n.host p).sides t := by
  rcases P.eq_or_other p with rfl | rfl
  · exact moved.frame.sides t different
  · rw [moved.host]

theorem Local.lag {P : Party} {S : Nat} (moved : Local n n' P S) (p : Party) {k : Slot}
    (different : k ≠ .q2s S) : n'.lag p k = n.lag p k := by
  cases k with
  | cached _ | s2q _ => rfl
  | q2s t => simp only [Net.lag, moved.link t (by simpa using different)]

theorem Local.unreset {P : Party} {S : Nat} (moved : Local n n' P S) (p : Party) {k : Slot}
    (different : k ≠ .q2s S) : n'.Unreset p k ↔ n.Unreset p k := by
  cases k with
  | cached _ | s2q _ => rfl
  | q2s t =>
    have elsewhere : t ≠ S := by simpa using different
    simp only [Net.Unreset, moved.sides _ elsewhere]

theorem Follows.congr {p : Party} {k k' : Slot} {r r' : Ref} (h : Follows z n p k r r')
    (consumed : n'.consumed p.other r' = n.consumed p.other r') (emitted : n'.emitted z p r = n.emitted z p r)
    (lag : n'.lag p k' = n.lag p k) (unreset : n'.Unreset p k' ↔ n.Unreset p k) :
    Follows z n' p k' r r' := by
  refine ⟨fun pending => ?_, fun settled => ?_⟩
  · rw [consumed]
    exact h.reset (unreset.mp pending)
  · rw [consumed, lag, emitted]
    exact h.kept fun pending => settled (unreset.mpr pending)

theorem follows_from {P : Party} {S : Nat} (synced : n.Synced z tidy) (moved : Local n n' P S)
    (old : ∀ k x r, (n'.host P).slot k = some (x, r) →
      ((∃ j, (n.host P).slot j = some (x, r)) ∧ n'.emitted z P r = n.emitted z P r) ∨
        ∀ j r', (n.host P.other).slot j ≠ some (x, r'))
    (lag : n'.lag P (.q2s S) = n.lag P (.q2s S))
    (unreset : n'.Unreset P (.q2s S) ↔ n.Unreset P (.q2s S)) (k k' : Slot) (x : PairId) (r r' : Ref)
    (held : (n'.host P).slot k = some (x, r)) (held' : (n'.host P.other).slot k' = some (x, r')) :
    Follows z n' P k' r r' := by
  rw [moved.host] at held'
  rcases old k x r held with ⟨⟨j, before⟩, emitted⟩ | alone
  · have follows := synced.follows P j k' x r r' before held'
    have consumed : n'.consumed P.other r' = n.consumed P.other r' := by simp only [Net.consumed, moved.host]
    by_cases same : k' = .q2s S
    · subst same
      exact follows.congr consumed emitted lag unreset
    · exact follows.congr consumed emitted (moved.lag P same) (moved.unreset P same)
  · exact absurd held' (alone k' r')

theorem follows_to {P : Party} {S : Nat} (synced : n.Synced z tidy) (moved : Local n n' P S)
    (old : ∀ k x r, (n'.host P).slot k = some (x, r) →
      (∃ j, (n.host P).slot j = some (x, r) ∧ n'.consumed P r = n.consumed P r ∧
        n'.lag P.other k = n.lag P.other j ∧ (n'.Unreset P.other k ↔ n.Unreset P.other j)) ∨
        ∀ j r', (n.host P.other).slot j ≠ some (x, r')) (k k' : Slot) (x : PairId) (r r' : Ref)
    (held : (n'.host P.other).slot k = some (x, r)) (held' : (n'.host P).slot k' = some (x, r')) :
    Follows z n' P.other k' r r' := by
  rw [moved.host] at held
  rcases old k' x r' held' with ⟨j, before, consumed, lag, unreset⟩ | alone
  · have follows := synced.follows P.other k j x r r' held (by rwa [Party.other_other])
    have emitted : n'.emitted z P.other r = n.emitted z P.other r := by simp only [Net.emitted, moved.host]
    exact follows.congr (by rwa [Party.other_other]) emitted lag unreset
  · exact absurd held (alone k r)

/-! ### What a step does to the encoders of its process -/

theorem complete_follows_from {p : Party} {s : Nat} {id remote ack : PairId} {r₀ r₁ : Ref}
    (synced : n.Synced z tidy) (moved : Local n n' p s)
    (phase : (n.host p).sides s = .acked id r₀ remote r₁ ack)
    (sent : (n.link s p).log.length = 2 * pairIdSize)
    (heard : 2 * pairIdSize ≤ (n.link s p.other).log.length)
    (done : ((n'.host p).sides s).result ≠ none) (link : n'.link s p = n.link s p)
    (effect : (n.host p).Touches (n'.host p) r₀
      (if n.remoteAck p s = 0 ∧ id ≠ 0 then ((n.host p).lru.pairs r₀).resetEncoder
        else (n.host p).lru.pairs r₀))
    (k k' : Slot) (x : PairId) (r r' : Ref) (held : (n'.host p).slot k = some (x, r))
    (held' : (n'.host p.other).slot k' = some (x, r')) : Follows z n' p k' r r' := by
  have agrees := synced.naming.wire p s
  rw [phase] at agrees
  have conduct := synced.conducted p s
  have pending : ((n.host p).sides s).result = none := by rw [phase]; rfl
  obtain ⟨b, waits, acked⟩ := replied synced.naming.wire synced.conducted heard (conduct.blank pending).2.2
  have offered : (n.host p).slot (.s2q s) = some (id, r₀) := by simp [phase, Phase.s2q]
  have name := slot_s2q_name synced.naming.wire offered (by omega)
  rw [effect.slot] at held
  rw [moved.host] at held'
  by_cases its : k' = .q2s s
  · -- the decoder that this handshake has found or made
    subst its
    obtain ⟨rfl, _⟩ := Prod.mk.inj (Option.some.inj (held'.symm.trans waits))
    obtain rfl := (synced.naming.named p).same_slot held (name ▸ offered)
    obtain ⟨_, rfl⟩ := Prod.mk.inj (Option.some.inj (held.symm.trans offered))
    have follows := synced.follows p _ _ _ _ _ held held'
    have consumed : n'.consumed p.other r' = n.consumed p.other r' := by simp only [Net.consumed, moved.host]
    have lag : n'.lag p (.q2s s) = [] := by
      simp only [Net.lag, link]
      exact ((synced.naming.wire p s).no_data conduct.alive pending).2
    refine ⟨fun unreset => absurd unreset.1 done, fun _ => ?_⟩
    rw [consumed, lag, List.append_nil]
    -- an ack of 0 makes both halves fresh, any other leaves both alone
    by_cases zero : n.remoteAck p s = 0
    · rw [follows.reset ⟨pending, zero ▸ acked⟩, emitted, effect.pairs, Function.update_self,
        if_pos ⟨zero, agrees.1⟩]
      exact z.emit_nil.symm
    · have kept := follows.kept fun unreset => zero (Option.some.inj (acked.symm.trans unreset.2))
      simp only [Net.lag, ((synced.naming.wire p s).no_data conduct.alive pending).2, List.append_nil] at kept
      rw [kept, emitted, emitted, effect.pairs, Function.update_self, if_neg (fun reset => zero reset.1)]
  · have different : r ≠ r₀ := by
      rintro rfl
      obtain rfl := (synced.naming.owned p).same_slot held offered
      obtain ⟨rfl, _⟩ := Prod.mk.inj (Option.some.inj (held.symm.trans offered))
      exact its ((synced.naming.named p.other).same_slot held' (name ▸ waits))
    refine (synced.follows p k k' x r r' held held').congr ?_ ?_ (moved.lag p its) (moved.unreset p its)
    · simp only [Net.consumed, moved.host]
    · simp only [emitted, effect.pairs, Function.update_of_ne different]

/-- While an encoder is at work, the decoder at the other end is waiting for what it puts out. -/
theorem flowing_waits {p : Party} {s : Nat} {res : HandshakeResult} {task : TaskState}
    (synced : n.Synced z tidy) (phase : (n.host p).sides s = .flowing res .running task) :
    ∃ r, (n.host p.other).slot (.q2s s) = some (res.s2qId, r) := by
  have agrees := synced.naming.wire p s
  rw [phase] at agrees
  have conduct := synced.conducted p s
  obtain ⟨r, waits, _⟩ := replied synced.naming.wire synced.conducted agrees.2.2.2.1
    (conduct.running res task phase)
  have held : (n.host p).slot (.s2q s) = some (res.s2qId, res.s2qPair) := by simp [phase, Phase.s2q]
  have sent : pairIdSize ≤ (n.link s p).log.length := by
    have long := agrees.2.1.length_le
    simp only [List.length_append, length_idBytes] at long
    omega
  exact ⟨r, by rw [waits, ← slot_s2q_name synced.naming.wire held sent]⟩

theorem inflight_append {p : Party} {s : Nat} {res : HandshakeResult} {task : TaskState} {l : Link}
    {out : Bytes} (synced : n.Synced z tidy) (phase : (n.host p).sides s = .flowing res .running task)
    (log : l.log = (n.link s p).log ++ out) (pos : l.pos = (n.link s p).pos) :
    l.inflight = (n.link s p).inflight ++ out := by
  have agrees := synced.naming.wire p s
  rw [phase] at agrees
  have long := agrees.2.1.length_le
  simp only [List.length_append, length_idBytes] at long
  have conduct := synced.conducted p.other s
  rw [Party.other_other] at conduct
  have within : (n.link s p).pos ≤ (n.link s p).log.length := by
    by_cases pending : ((n.host p.other).sides s).result = none
    · have := conduct.early pending
      omega
    · exact (conduct.window pending).2
  rw [Link.inflight, Link.inflight, log, pos, List.drop_append_of_le_length (by omega)]

theorem orderly_transmits {p : Party} {s : Nat} {res : HandshakeResult} {task : TaskState} {ev : EncEvent}
    (own : n.Owned) (phase : (n.host p).sides s = .flowing res .running task) (orderly : ev.Orderly) :
    Transmits z ((n.host p).lru.pairs res.s2qPair).encoder
      (encoderTurn z ((n.host p).lru.pairs res.s2qPair).encoder ev) [] := by
  have ready := (own p).ready (.s2q s) res.s2qId res.s2qPair (by simp [phase, Phase.s2q])
  obtain ⟨lost, transmits⟩ := encoderTurn_transmits (z := z) ready.encoder ev
  obtain rfl : lost = [] := transmits.fails.resolve_right fun failed => by
    rcases orderly.result (z := z) (e := ((n.host p).lru.pairs res.s2qPair).encoder) with
      h | h | ⟨h, _⟩ <;> simp [h] at failed
  exact transmits

theorem encode_follows_from {p : Party} {s : Nat} {res : HandshakeResult} {task : TaskState} {t : EncoderTurn}
    (synced : n.Synced z tidy) (moved : Local n n' p s)
    (phase : (n.host p).sides s = .flowing res .running task)
    (turn : Transmits z ((n.host p).lru.pairs res.s2qPair).encoder t [])
    (flowing : ((n'.host p).sides s).result ≠ none)
    (log : (n'.link s p).log = (n.link s p).log ++ t.out) (pos : (n'.link s p).pos = (n.link s p).pos)
    (effect : (n.host p).Touches (n'.host p) res.s2qPair
      { (n.host p).lru.pairs res.s2qPair with encoder := t.encoder })
    (k k' : Slot) (x : PairId) (r r' : Ref) (held : (n'.host p).slot k = some (x, r))
    (held' : (n'.host p.other).slot k' = some (x, r')) : Follows z n' p k' r r' := by
  obtain ⟨b, waits⟩ := flowing_waits synced phase
  have works : (n.host p).slot (.s2q s) = some (res.s2qId, res.s2qPair) := by simp [phase, Phase.s2q]
  have consumed : n'.consumed p.other r' = n.consumed p.other r' := by simp only [Net.consumed, moved.host]
  rw [effect.slot] at held
  rw [moved.host] at held'
  by_cases its : k' = .q2s s
  · subst its
    obtain ⟨rfl, _⟩ := Prod.mk.inj (Option.some.inj (held'.symm.trans waits))
    obtain rfl := (synced.naming.named p).same_slot held works
    obtain ⟨_, rfl⟩ := Prod.mk.inj (Option.some.inj (held.symm.trans works))
    have kept := (synced.follows p _ _ _ _ _ held held').kept fun unreset => by
      simp [phase, Phase.result, Unreset] at unreset
    refine ⟨fun unreset => absurd unreset.1 flowing, fun _ => ?_⟩
    rw [consumed, Net.lag, inflight_append synced phase log pos, ← List.append_assoc]
    rw [Net.lag] at kept
    rw [kept, emitted, emitted, effect.pairs, Function.update_self, turn.emits, List.append_nil]
  · have different : r ≠ res.s2qPair := by
      rintro rfl
      obtain rfl := (synced.naming.owned p).same_slot held works
      obtain ⟨rfl, _⟩ := Prod.mk.inj (Option.some.inj (held.symm.trans works))
      exact its ((synced.naming.named p.other).same_slot held' waits)
    refine (synced.follows p k k' x r r' held held').congr consumed ?_ (moved.lag p its) (moved.unreset p its)
    simp only [emitted, effect.pairs, Function.update_of_ne different]

theorem miss_follows_from {p : Party} {s : Nat} {id : PairId} {r₀ r₁ : Ref}
    (synced : n.Synced z tidy) (clean : CleanMiss n (.lookup p s)) (moved : Local n n' p s)
    (phase : (n.host p).sides s = .offered id r₀) (sent : (n.link s p).log.length = pairIdSize)
    (heard : pairIdSize ≤ (n.link s p.other).log.length)
    (absent : (n.host p).slot (.cached (n.remoteId p s)) = none)
    (pending : ((n'.host p).sides s).result = none) (link : n'.link s p = n.link s p)
    (effect : (n.host p).Creates (n'.host p) (.q2s s) (n.remoteId p s) r₁)
    (k k' : Slot) (x : PairId) (r r' : Ref) (held : (n'.host p).slot k = some (x, r))
    (held' : (n'.host p.other).slot k' = some (x, r')) : Follows z n' p k' r r' := by
  have consumed : n'.consumed p.other r' = n.consumed p.other r' := by simp only [Net.consumed, moved.host]
  have before : ((n.host p).sides s).result = none := by rw [phase]; rfl
  rw [effect.slot] at held
  rw [moved.host] at held'
  rcases of_update_some held with ⟨rfl, new⟩ | ⟨_, old⟩
  · -- the pair made for this lookup faces the one that was offered
    obtain ⟨rfl, rfl⟩ := Prod.mk.inj new
    obtain ⟨b, offers⟩ := offering synced.naming.wire synced.conducted heard
      (unanswered synced.naming.wire sent)
    obtain rfl := (synced.naming.named p.other).same_slot held' offers
    have blank := clean.2 (p, s) rfl absent _ held'
    refine ⟨fun unreset => unreset.elim, fun _ => ?_⟩
    rw [consumed, blank, emitted, effect.pairs, Function.update_self]
    exact z.emit_nil.symm
  · have different : r ≠ r₁ := by
      rw [effect.ref]
      exact ((synced.naming.owned p).allocated k x r old).ne
    have emitted : n'.emitted z p r = n.emitted z p r := by
      simp only [emitted, effect.pairs, Function.update_of_ne different]
    by_cases its : k' = .q2s s
    · subst its
      refine (synced.follows p k _ x r r' old held').congr consumed emitted ?_ ?_
      · simp only [Net.lag, link]
      · simp only [Unreset, moved.host, pending, before]
    · exact (synced.follows p k k' x r r' old held').congr consumed emitted (moved.lag p its)
        (moved.unreset p its)

theorem step_follows_from (synced : n.Synced z tidy) (fresh : Fresh n a) (clean : CleanMiss n a)
    (orderly : a.Orderly) (moved : Local n n' a.party a.stream) (hs : Step z n a n') (k k' : Slot)
    (x : PairId) (r r' : Ref) (held : (n'.host a.party).slot k = some (x, r))
    (held' : (n'.host a.party.other).slot k' = some (x, r')) : Follows z n' a.party k' r r' := by
  cases hs with
    simp only [Action.party, Action.stream] at moved held held' ⊢
  | scan phase slot lru sides =>
    refine follows_from synced moved (fun k x r held => Or.inl ⟨⟨k, ?_⟩, ?_⟩) ?_ ?_ k k' x r r' held held'
    · rwa [put_host, slot] at held
    · simp [emitted, lru]
    · simp [Net.lag]
    · simp [Unreset, sides_self sides, phase, Phase.result]
  | reuse phase sides effect =>
    refine follows_from synced moved (fun k x r held => Or.inl ⟨?_, ?_⟩) ?_ ?_ k k' x r r' held held'
    · rw [put_host] at held
      rcases effect.old held with ⟨_, rfl, rfl⟩ | ⟨_, old⟩
      · exact ⟨_, effect.held⟩
      · exact ⟨k, old⟩
    · simp [emitted, effect.pairs]
    · simp [Net.lag]
    · simp [Unreset, sides_self sides, phase, Phase.result]
  | @create p s now tidHash _ id r₀ h phase sides drawn effect =>
    refine follows_from synced moved (fun k x r held => ?_) ?_ ?_ k k' x r r' held held'
    · simp only [put_host] at held
      rcases effect.old (synced.naming.owned p) held with ⟨_, rfl, rfl⟩ | ⟨_, old, pairs⟩
      · -- the other process has not heard of an id that has just been drawn
        refine Or.inr fun j r' known => fresh x (by simp [Action.drawn, drawn]) ?_
        exact (synced.naming.named p.other).known j x r' known
      · exact Or.inl ⟨⟨k, old⟩, by simp [emitted, pairs]⟩
    · simp [Net.lag]
    · simp [Unreset, sides_self sides, phase, Phase.result]
  | @sendId p s id r₀ phase empty =>
    refine follows_from synced moved (fun k x r held => Or.inl ⟨⟨k, ?_⟩, ?_⟩) ?_ ?_ k k' x r r' held held'
    · rwa [update_host] at held
    · simp [emitted]
    · simp [Net.lag, Link.inflight, empty, pairIdSize]
    · simp [Unreset]
  | @sendAck p s id r₀ remote r₁ ack phase short =>
    refine follows_from synced moved (fun k x r held => Or.inl ⟨⟨k, ?_⟩, ?_⟩) ?_ ?_ k k' x r r' held held'
    · rwa [update_host] at held
    · simp [emitted]
    · simp only [Net.lag, Link.inflight, update_out]
      rw [List.drop_eq_nil_of_le (by simp [short, pairIdSize]),
        List.drop_eq_nil_of_le (by simp [short, pairIdSize])]
    · simp [Unreset]
  | hit phase sent heard sides nonzero effect =>
    refine follows_from synced moved (fun k x r held => Or.inl ⟨?_, ?_⟩) ?_ ?_ k k' x r r' held held'
    · rw [update_host] at held
      rcases effect.old held with ⟨_, rfl, rfl⟩ | ⟨_, old⟩
      · exact ⟨_, effect.held⟩
      · exact ⟨k, old⟩
    · simp [emitted, effect.pairs]
    · simp [Net.lag]
    · simp [Unreset, sides_self sides, phase, Phase.result]
  | miss phase sent heard sides absent effect =>
    exact miss_follows_from synced clean moved phase sent heard absent
      (by simp [sides_self sides, Phase.result]) update_out (by simpa using effect) k k' x r r' held held'
  | complete phase sent heard sides effect =>
    exact complete_follows_from synced moved phase sent heard (by simp [sides_self sides, Phase.result])
      update_out (by simpa using effect) k k' x r r' held held'
  | fail => exact orderly.elim
  | @encode p s ev res task t h phase turn sides effect =>
    have transmits := turn ▸ orderly_transmits (z := z) synced.naming.owned phase orderly
    exact encode_follows_from synced moved phase transmits (by simp [sides_self sides, Phase.result])
      (by simp) (by simp) (by simpa using effect) k k' x r r' held held'
  | decode arrived phase turn sides effect =>
    refine follows_from synced moved (fun k x r held => Or.inl ⟨⟨k, ?_⟩, ?_⟩) ?_ ?_ k k' x r r' held held'
    · rwa [update_host, effect.slot] at held
    · simp only [emitted, update_host, effect.encoder rfl]
    · simp [Net.lag]
    · simp [Unreset, sides_self sides, phase, Phase.result]
  | @settleS2q p s res _ _ _ phase sides effect =>
    have had : (n.host p).slot (.s2q s) = some (res.s2qId, res.s2qPair) := by simp [phase, Phase.s2q]
    refine follows_from synced moved (fun k x r held => Or.inl ?_) ?_ ?_ k k' x r r' held held'
    · rw [put_host] at held
      obtain ⟨old, pairs⟩ :=
        Host.settled_old (synced.naming.owned p) (effect.imp_left fun e => e.2.2) had held
      exact ⟨old, by simp [emitted, pairs]⟩
    · simp [Net.lag]
    · simp [Unreset, sides_self sides, phase, Phase.result]
  | @settleQ2s p s res _ _ _ phase sides effect =>
    have had : (n.host p).slot (.q2s s) = some (res.q2sId, res.q2sPair) := by simp [phase, Phase.q2s]
    refine follows_from synced moved (fun k x r held => Or.inl ?_) ?_ ?_ k k' x r r' held held'
    · rw [put_host] at held
      obtain ⟨old, pairs⟩ :=
        Host.settled_old (synced.naming.owned p) (effect.imp_left fun e => e.2.2) had held
      exact ⟨old, by simp [emitted, pairs]⟩
    · simp [Net.lag]
    · simp [Unreset, sides_self sides, phase, Phase.result]
  | evict =>
    refine follows_from synced moved (fun k x r held => Or.inl ⟨⟨k, ?_⟩, ?_⟩) ?_ ?_ k k' x r r' held held'
    · rw [put_host, Host.slot_evict] at held
      exact (of_update_none held).2
    · simp only [emitted, put_host]
      rfl
    · simp [Net.lag]
    · simp only [Unreset, put_host, put_host_other]
      rfl

/-! ### What a step does to the decoders of its process -/

theorem miss_follows_to {p : Party} {s : Nat} {id : PairId} {r₀ r₁ : Ref} (synced : n.Synced z tidy)
    (moved : Local n n' p s) (sent : (n.link s p).log.length = pairIdSize)
    (phase : (n'.host p).sides s = .acked id r₀ (n.remoteId p s) r₁ 0)
    (effect : (n.host p).Creates (n'.host p) (.q2s s) (n.remoteId p s) r₁)
    (k k' : Slot) (x : PairId) (r r' : Ref) (held : (n'.host p.other).slot k = some (x, r))
    (held' : (n'.host p).slot k' = some (x, r')) : Follows z n' p.other k' r r' := by
  rcases effect.old (synced.naming.owned p) held' with ⟨rfl, rfl, rfl⟩ | ⟨different, old, pairs⟩
  · have unreset : n'.Unreset p.other (.q2s s) := by
      refine ⟨?_, by rw [Party.other_other, phase]; rfl⟩
      rw [moved.host]
      exact unanswered synced.naming.wire sent
    refine ⟨fun _ => ?_, fun kept => absurd unreset kept⟩
    rw [Party.other_other, consumed, effect.pairs, Function.update_self]
    rfl
  · rw [moved.host] at held
    refine (synced.follows p.other k k' x r r' held (by rwa [Party.other_other])).congr ?_ ?_
      (moved.lag _ different) (moved.unreset _ different)
    · simp only [Party.other_other, consumed, pairs]
    · simp only [emitted, moved.host]

theorem arrived_sender {p : Party} {s : Nat} {arrival : Arrival} {r : WireRead} {pos : Nat}
    (wire : n.Wire) (conducted : n.Conducted) (flowing : ((n.host p).sides s).result ≠ none)
    (orderly : arrival.Orderly) (arrived : (n.link s p.other).arrive arrival = some (r, pos)) :
    ((n.host p.other).sides s).result ≠ none := by
  intro pending
  have other := conducted p.other s
  have nothing := (conducted p s).nothing_arrives flowing ((wire p.other s).no_data other.alive pending).1
    (other.blank pending).2.2 orderly
  exact absurd (nothing.symm.trans arrived) (by simp)

theorem decode_follows_to {p : Party} {s : Nat} {arrival : Arrival} {w : WireRead} {pos : Nat}
    {res : HandshakeResult} {task : TaskState} (synced : n.Synced z tidy) (moved : Local n n' p s)
    (orderly : arrival.Orderly) (arrived : (n.link s p.other).arrive arrival = some (w, pos))
    (phase : (n.host p).sides s = .flowing res task .running)
    (log : (n'.link s p.other).log = (n.link s p.other).log) (read : (n'.link s p.other).pos = pos)
    (effect : (n.host p).Touches (n'.host p) res.q2sPair
      { (n.host p).lru.pairs res.q2sPair with
        decoder := (decoderTurn z ((n.host p).lru.pairs res.q2sPair).decoder w).decoder })
    (k k' : Slot) (x : PairId) (r r' : Ref) (held : (n'.host p.other).slot k = some (x, r))
    (held' : (n'.host p).slot k' = some (x, r')) : Follows z n' p.other k' r r' := by
  have flowing : ((n.host p).sides s).result ≠ none := by simp [phase, Phase.result]
  have sender := arrived_sender synced.naming.wire synced.conducted flowing orderly arrived
  have works : (n.host p).slot (.q2s s) = some (res.q2sId, res.q2sPair) := by simp [phase, Phase.q2s]
  have emitted : n'.emitted z p.other r = n.emitted z p.other r := by simp only [Net.emitted, moved.host]
  rw [effect.slot] at held'
  rw [moved.host] at held
  have follows := synced.follows p.other k k' x r r' held (by rwa [Party.other_other])
  by_cases its : k' = .q2s s
  · subst its
    obtain ⟨_, rfl⟩ := Prod.mk.inj (Option.some.inj (held'.symm.trans works))
    have kept := follows.kept fun unreset => sender unreset.1
    refine ⟨fun unreset => absurd (moved.host ▸ unreset.1) sender, fun _ => ?_⟩
    have drained := ((synced.naming.owned p).ready _ _ _ works).decoder
    rw [emitted, ← kept]
    simp only [Party.other_other, Net.lag, consumed, effect.pairs, Function.update_self]
    rcases Link.arrive_orderly orderly ((synced.conducted p s).window flowing).1 arrived with
      ⟨chunk, rfl, split, _⟩ | ⟨_, rfl, rfl, empty, _⟩
    · rw [decoderTurn_bytes_decoder chunk .ok drained, split, Link.inflight, log, read, List.append_assoc]
    · have same : (n'.link s p.other).inflight = (n.link s p.other).inflight := by
        rw [Link.inflight, Link.inflight, log, read]
      rw [same, decoderTurn, writeTurn_decoder]
  · have different : r' ≠ res.q2sPair := by
      rintro rfl
      exact its ((synced.naming.owned p).same_slot held' works)
    refine follows.congr ?_ emitted (moved.lag _ its) (moved.unreset _ its)
    simp only [Party.other_other, consumed, effect.pairs, Function.update_of_ne different]

theorem Local.lag_to {p : Party} {s : Nat} (moved : Local n n' p s)
    (same : (n'.link s p.other).inflight = (n.link s p.other).inflight) (k : Slot) :
    n'.lag p.other k = n.lag p.other k := by
  by_cases its : k = .q2s s
  · rw [its]
    exact same
  · exact moved.lag _ its

theorem Local.unreset_to {p : Party} {s : Nat} (moved : Local n n' p s)
    (same : ((n'.host p).sides s).ack = ((n.host p).sides s).ack) (k : Slot) :
    n'.Unreset p.other k ↔ n.Unreset p.other k := by
  by_cases its : k = .q2s s
  · simp only [its, Unreset, Party.other_other, moved.host, same]
  · exact moved.unreset _ its

theorem ended_to {p : Party} {s : Nat} {res : HandshakeResult} {t u : TaskState} (conducted : n.Conducted)
    (phase : (n.host p).sides s = .flowing res t u) (stopped : u ≠ .running) :
    n.lag p.other (.q2s s) = [] ∧ ¬ n.Unreset p.other (.q2s s) := by
  obtain ⟨finished, empty⟩ := (conducted p s).ended res t u phase stopped
  refine ⟨empty, fun unreset => ?_⟩
  exact absurd (((conducted p.other s).blank unreset.1).2.2.symm.trans finished) (by simp)

theorem step_follows_to (synced : n.Synced z tidy) (fresh : Fresh n a) (orderly : a.Orderly)
    (moved : Local n n' a.party a.stream) (hs : Step z n a n') (k k' : Slot) (x : PairId) (r r' : Ref)
    (held : (n'.host a.party.other).slot k = some (x, r))
    (held' : (n'.host a.party).slot k' = some (x, r')) : Follows z n' a.party.other k' r r' := by
  cases hs with
    simp only [Action.party, Action.stream] at moved held held' ⊢
  | scan phase slot lru sides =>
    refine follows_to synced moved (fun k x r held => Or.inl ⟨k, ?_, ?_, ?_, ?_⟩) k k' x r r' held held'
    · rwa [put_host, slot] at held
    · simp [consumed, lru]
    · exact moved.lag_to (by simp) k
    · exact moved.unreset_to (by simp [sides_self sides, phase, Phase.ack]) k
  | reuse phase sides effect =>
    have unreset := moved.unreset_to (by simp [sides_self sides, phase, Phase.ack])
    refine follows_to synced moved (fun k x r held => Or.inl ?_) k k' x r r' held held'
    rw [put_host] at held
    rcases effect.old held with ⟨rfl, rfl, rfl⟩ | ⟨_, old⟩
    · exact ⟨_, effect.held, by simp [consumed, effect.pairs], rfl, Iff.rfl⟩
    · exact ⟨k, old, by simp [consumed, effect.pairs], moved.lag_to (by simp) k, unreset k⟩
  | @create p s now tidHash _ id r₀ h phase sides drawn effect =>
    have unreset := moved.unreset_to (by simp [sides_self sides, phase, Phase.ack])
    refine follows_to synced moved (fun k x r held => ?_) k k' x r r' held held'
    simp only [put_host] at held
    rcases effect.old (synced.naming.owned p) held with ⟨_, rfl, rfl⟩ | ⟨_, old, pairs⟩
    · refine Or.inr fun j r' known => fresh x (by simp [Action.drawn, drawn]) ?_
      exact (synced.naming.named p.other).known j x r' known
    · exact Or.inl ⟨k, old, by simp [consumed, pairs], moved.lag_to (by simp) k, unreset k⟩
  | sendId phase empty | sendAck phase short =>
    refine follows_to synced moved (fun k x r held => Or.inl ⟨k, ?_, ?_, ?_, ?_⟩) k k' x r r' held held'
    · rwa [update_host] at held
    · simp [consumed]
    · exact moved.lag_to (by simp) k
    · exact moved.unreset_to (by simp) k
  | @hit p s id r₀ r₁ h phase sent heard sides nonzero effect =>
    refine follows_to synced moved (fun k x r held => Or.inl ?_) k k' x r r' held held'
    rw [update_host] at held
    rcases effect.old held with ⟨rfl, rfl, rfl⟩ | ⟨different, old⟩
    · -- the decoder leaves the cache while the other side still waits for the ack
      have silent := (synced.naming.wire p.other s).no_data (synced.conducted p.other s).alive
        (unanswered synced.naming.wire sent)
      refine ⟨_, effect.held, by simp [consumed, effect.pairs], ?_, ?_⟩
      · simp only [Net.lag, update_inc, Link.inflight]
        exact List.drop_eq_nil_of_le (by have := silent.1; omega)
      · simp only [Unreset, Party.other_other, update_host, sides_self sides, Phase.ack, Option.some.injEq]
        exact ⟨fun unreset => nonzero unreset.2, False.elim⟩
    · exact ⟨k, old, by simp [consumed, effect.pairs], moved.lag _ different, moved.unreset _ different⟩
  | miss phase sent heard sides absent effect =>
    exact miss_follows_to synced moved sent (by rw [update_host, sides_self sides]) (by simpa using effect)
      k k' x r r' held held'
  | @complete p s _ _ _ _ _ _ phase sent heard sides effect =>
    refine follows_to synced moved (fun k x r held => Or.inl ⟨k, ?_, ?_, ?_, ?_⟩) k k' x r r' held held'
    · rwa [update_host, effect.slot] at held
    · simp only [consumed, update_host]
      rw [effect.decoder (by split <;> rfl)]
    · refine moved.lag_to ?_ k
      have early := (synced.conducted p s).early (by rw [phase]; rfl)
      simp only [update_inc, Link.inflight, max_self, max_eq_right early]
    · exact moved.unreset_to (by simp [sides_self sides, phase, Phase.ack]) k
  | fail => exact orderly.elim
  | encode phase turn sides effect =>
    refine follows_to synced moved (fun k x r held => Or.inl ⟨k, ?_, ?_, ?_, ?_⟩) k k' x r r' held held'
    · rwa [update_host, effect.slot] at held
    · simp only [consumed, update_host, effect.decoder rfl]
    · exact moved.lag_to (by simp) k
    · exact moved.unreset_to (by simp [sides_self sides, phase, Phase.ack]) k
  | decode arrived phase turn sides effect =>
    subst turn
    exact decode_follows_to synced moved orderly arrived phase (by simp) (by simp) (by simpa using effect)
      k k' x r r' held held'
  | @settleS2q p s res _ _ _ phase sides effect =>
    have had : (n.host p).slot (.s2q s) = some (res.s2qId, res.s2qPair) := by simp [phase, Phase.s2q]
    have unreset := moved.unreset_to (by simp [sides_self sides, phase, Phase.ack])
    refine follows_to synced moved (fun k x r held => Or.inl ?_) k k' x r r' held held'
    rw [put_host] at held
    rcases effect with ⟨_, _, back⟩ | dropped
    · rcases back.old held with ⟨rfl, rfl, rfl⟩ | ⟨_, old⟩
      · exact ⟨_, had, by simp [consumed, back.pairs], rfl, Iff.rfl⟩
      · exact ⟨k, old, by simp [consumed, back.pairs], moved.lag_to (by simp) k, unreset k⟩
    · obtain ⟨_, old, pairs⟩ := dropped.old (synced.naming.owned p) had held
      exact ⟨k, old, by simp [consumed, pairs], moved.lag_to (by simp) k, unreset k⟩
  | @settleQ2s p s res _ _ _ phase sides effect =>
    have had : (n.host p).slot (.q2s s) = some (res.q2sId, res.q2sPair) := by simp [phase, Phase.q2s]
    refine follows_to synced moved (fun k x r held => Or.inl ?_) k k' x r r' held held'
    rw [put_host] at held
    rcases effect with ⟨_, _, back⟩ | dropped
    · rcases back.old held with ⟨rfl, rfl, rfl⟩ | ⟨different, old⟩
      · -- the task has ended, so its channel has run dry and the cached decoder lags behind in nothing
        obtain ⟨empty, answered⟩ := ended_to synced.conducted phase (by simp)
        exact ⟨_, had, by simp [consumed, back.pairs], empty.symm, iff_of_false (fun h => h) answered⟩
      · exact ⟨k, old, by simp [consumed, back.pairs], moved.lag _ different, moved.unreset _ different⟩
    · obtain ⟨different, old, pairs⟩ := dropped.old (synced.naming.owned p) had held
      exact ⟨k, old, by simp [consumed, pairs], moved.lag _ different, moved.unreset _ different⟩
  | evict =>
    refine follows_to synced moved (fun k x r held => Or.inl ⟨k, ?_, ?_, ?_, ?_⟩) k k' x r r' held held'
    · rw [put_host, Host.slot_evict] at held
      exact (of_update_none held).2
    · simp only [consumed, put_host]
      rfl
    · exact moved.lag_to (by simp) k
    · exact moved.unreset_to (by simp only [put_host]; rfl) k

end Net
end Rstun.Codec
