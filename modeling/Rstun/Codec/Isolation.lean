import Rstun.Codec.Sync

/-!
# What goes into a stream and what comes out of it

Each stream carries its own data from the encoder it was given to the decoder at the other end,
although both may have a history and are handed on to other streams afterwards. What an encoder held
back when its stream ended would come out in a later stream, so reads may fail only when there is
nothing held back.
-/

namespace Rstun.Codec
open Streaming Transition Slots

/-- The side and the stream of a turn of `run_encoder` that ends with a failed read. -/
def Action.readFailing : Action → Option (Party × Nat)
  | encode p s .readError | encode p s .httpError => some (p, s)
  | _ => none

/-- Both directions have ended and given their pair back. -/
def Phase.isOver : Phase → Bool
  | .flowing _ .settled .settled => true
  | _ => false

namespace Net
variable {z : HistoryCodec UInt8} {tidy : Prop} {n n' : Net} {a : Action}

/-- A read fails only when the encoder of its stream holds nothing back. -/
def Drained (z : HistoryCodec UInt8) (n : Net) (a : Action) : Prop :=
  ∀ ps ∈ a.readFailing, ∀ v ∈ (n.host ps.1).slot (.s2q ps.2),
    z.Flushed ((n.host ps.1).lru.pairs v.2).encoder.ops

instance (z : HistoryCodec UInt8) (n : Net) (a : Action) : Decidable (Drained z n a) :=
  inferInstanceAs (Decidable (∀ ps ∈ a.readFailing, ∀ v ∈ (n.host ps.1).slot (.s2q ps.2), z.Flushed _))

/-! ### Decoding -/

theorem Synced.receives (synced : n.Synced z tidy) {p : Party} {s : Nat} {res : HandshakeResult}
    {task : TaskState} (phase : (n.host p).sides s = .flowing res task .running)
    (sender : ((n.host p.other).sides s).result ≠ none) :
    ∃ held ops, Carries z ops (n.consumed p res.q2sPair) (n.link s p.other).inflight
      (held ++ (n.link s p.other).read) (n.link s p.other).written ∧ (tidy → held = []) ∧
      ∀ id r, (n.host p.other).slot (.s2q s) = some (id, r) →
        ((n.host p.other).lru.pairs r).encoder.ops = ops := by
  obtain ⟨held, ⟨ops, d, carries, encodes, decodes⟩, nothing⟩ := synced.carried p.other s sender
  rw [Party.other_other] at decodes
  have works : (n.host p).slot (.q2s s) = some (res.q2sId, res.q2sPair) := by simp [phase, Phase.q2s]
  rw [← decodes _ _ works] at carries
  exact ⟨held, ops, carries, nothing, encodes⟩

theorem Synced.decodes (synced : n.Synced z tidy) : n.Decodes z := by
  intro p s res task count w r pos phase arrived ok
  have orderly : (Arrival.bytes count w).Orderly := ok
  have flowing : ((n.host p).sides s).result ≠ none := by simp [phase, Phase.result]
  have sender := arrived_sender synced.naming.wire synced.conducted flowing orderly arrived
  obtain ⟨held, ops, carries, _⟩ := synced.receives phase sender
  have drained := ((synced.naming.owned p).ready (.q2s s) res.q2sId res.q2sPair
    (by simp [phase, Phase.q2s])).decoder
  rcases Link.arrive_orderly orderly ((synced.conducted p s).window flowing).1 arrived with
    ⟨chunk, rfl, split, _⟩ | ⟨_, rfl, _⟩
  · rw [split] at carries
    obtain ⟨_, _, ⟨_, going⟩ | ⟨bad, _⟩⟩ := decoderTurn_bytes .ok drained carries
    · exact going
    · exact absurd rfl bad
  · simp only [Link.arrive, Option.ite_none_right_eq_some, Option.some.injEq, Prod.mk.injEq] at arrived
    exact absurd arrived.2.1 (by simp)

/-! ### The data of one direction of a stream -/

theorem Carried.keep {p : Party} {s : Nat} {held : Bytes} (h : Carried z n p s held)
    (inflight : (n'.link s p).inflight = (n.link s p).inflight)
    (read : (n'.link s p).read = (n.link s p).read)
    (written : (n'.link s p).written = (n.link s p).written)
    (encodes : ∀ id r, (n'.host p).slot (.s2q s) = some (id, r) → (n.host p).slot (.s2q s) = some (id, r) ∧
      ((n'.host p).lru.pairs r).encoder = ((n.host p).lru.pairs r).encoder)
    (decodes : ∀ id r, (n'.host p.other).slot (.q2s s) = some (id, r) →
      (n.host p.other).slot (.q2s s) = some (id, r) ∧ n'.consumed p.other r = n.consumed p.other r) :
    Carried z n' p s held := by
  obtain ⟨ops, d, carries, encoder, decoder⟩ := h
  refine ⟨ops, d, by rwa [inflight, read, written], fun id r works => ?_, fun id r works => ?_⟩
  · obtain ⟨before, same⟩ := encodes id r works
    rw [same]
    exact encoder id r before
  · obtain ⟨before, same⟩ := decodes id r works
    rw [same]
    exact decoder id r before

theorem Carried.frame {p : Party} {s : Nat} {held : Bytes} {P : Party} {S : Nat} (h : Carried z n p s held)
    (moved : Local n n' P S) (different : s ≠ S) : Carried z n' p s held := by
  have kept (q : Party) (k : Slot) (its : k = .s2q s ∨ k = .q2s s) (id : PairId) (r : Ref)
      (works : (n'.host q).slot k = some (id, r)) :
      (n.host q).slot k = some (id, r) ∧ (n'.host q).lru.pairs r = (n.host q).lru.pairs r := by
    rcases P.eq_or_other q with rfl | rfl
    · have before : (n.host q).slot k = some (id, r) := by
        rcases its with rfl | rfl
        · rwa [Host.slot_s2q, moved.frame.sides s different] at works
        · rwa [Host.slot_q2s, moved.frame.sides s different] at works
      refine ⟨before, moved.frame.pairs k id r ?_ ?_ before⟩
      · rcases its with rfl | rfl <;> simp [different]
      · rcases its with rfl | rfl <;> simp [different]
    · rw [moved.host] at works ⊢
      exact ⟨works, rfl⟩
  have link := moved.link s different
  refine h.keep (by rw [link]) (by rw [link]) (by rw [link]) (fun id r works => ?_) (fun id r works => ?_)
  · obtain ⟨before, pairs⟩ := kept p _ (Or.inl rfl) id r works
    exact ⟨before, by rw [pairs]⟩
  · obtain ⟨before, pairs⟩ := kept p.other _ (Or.inr rfl) id r works
    exact ⟨before, by simp only [consumed, pairs]⟩

theorem flowing_in_step {p : Party} {s : Nat} {res : HandshakeResult} {task : TaskState}
    (wire : n.Wire) (conducted : n.Conducted)
    (follows : ∀ k k' x r r', (n.host p).slot k = some (x, r) → (n.host p.other).slot k' = some (x, r') →
      Follows z n p k' r r')
    (phase : (n.host p).sides s = .flowing res .running task) (arrived : (n.link s p).inflight = []) :
    ∃ r, (n.host p.other).slot (.q2s s) = some (res.s2qId, r) ∧
      n.consumed p.other r = n.emitted z p res.s2qPair := by
  have works : (n.host p).slot (.s2q s) = some (res.s2qId, res.s2qPair) := by simp [phase, Phase.s2q]
  have agrees := wire p s
  rw [phase] at agrees
  have long := agrees.2.1.length_le
  simp only [List.length_append, length_idBytes] at long
  have name := slot_s2q_name wire works (by omega)
  obtain ⟨r, waits, _⟩ := replied wire conducted agrees.2.2.2.1 ((conducted p s).running res task phase)
  rw [← name] at waits
  have kept := (follows _ _ _ _ _ works waits).kept fun unreset => by
    simp [Unreset, phase, Phase.result] at unreset
  rw [lag, arrived, List.append_nil] at kept
  exact ⟨r, waits, kept⟩

theorem complete_carried {p : Party} {s : Nat} {res : HandshakeResult} {task : TaskState}
    (wire : n'.Wire) (conducted : n'.Conducted)
    (follows : ∀ k k' x r r', (n'.host p).slot k = some (x, r) → (n'.host p.other).slot k' = some (x, r') →
      Follows z n' p k' r r')
    (phase : (n'.host p).sides s = .flowing res .running task)
    (blank : (n'.link s p).read = [] ∧ (n'.link s p).written = [] ∧ (n'.link s p).inflight = [])
    (flushed : tidy → z.Flushed ((n'.host p).lru.pairs res.s2qPair).encoder.ops) :
    ∃ held, Carried z n' p s held ∧ (tidy → held = []) := by
  have works : (n'.host p).slot (.s2q s) = some (res.s2qId, res.s2qPair) := by simp [phase, Phase.s2q]
  obtain ⟨b, waits, step⟩ := flowing_in_step wire conducted follows phase blank.2.2
  obtain ⟨held, carries, nothing⟩ := Carries.start step
  have carried : Carried z n' p s held := by
    refine ⟨((n'.host p).lru.pairs res.s2qPair).encoder.ops, n'.consumed p.other b, ?_, ?_, ?_⟩
    · rwa [blank.1, blank.2.1, blank.2.2, List.append_nil]
    · intro id r there
      obtain ⟨_, rfl⟩ := Prod.mk.inj (Option.some.inj (there.symm.trans works))
      rfl
    · intro id r there
      obtain ⟨_, rfl⟩ := Prod.mk.inj (Option.some.inj (there.symm.trans waits))
      rfl
  exact ⟨held, carried, fun clean => nothing (flushed clean)⟩

theorem encode_carried {p : Party} {s : Nat} {res : HandshakeResult} {task : TaskState} {t : EncoderTurn}
    {held : Bytes} (synced : n.Synced z tidy) (moved : Local n n' p s)
    (phase : (n.host p).sides s = .flowing res .running task)
    (turn : Transmits z ((n.host p).lru.pairs res.s2qPair).encoder t [])
    (log : (n'.link s p).log = (n.link s p).log ++ t.out) (pos : (n'.link s p).pos = (n.link s p).pos)
    (read : (n'.link s p).read = (n.link s p).read ++ t.read)
    (written : (n'.link s p).written = (n.link s p).written)
    (effect : (n.host p).Touches (n'.host p) res.s2qPair
      { (n.host p).lru.pairs res.s2qPair with encoder := t.encoder })
    (h : Carried z n p s held) : Carried z n' p s held := by
  obtain ⟨ops, d, carries, encodes, decodes⟩ := h
  have works : (n.host p).slot (.s2q s) = some (res.s2qId, res.s2qPair) := by simp [phase, Phase.s2q]
  obtain rfl := encodes _ _ works
  refine ⟨t.encoder.ops, d, ?_, fun id r there => ?_, fun id r there => ?_⟩
  · rw [inflight_append synced phase log pos, read, written, ← List.append_assoc]
    have emits := turn.emits
    rw [List.append_nil] at emits
    exact carries.extend emits turn.takes
  · rw [effect.slot] at there
    obtain ⟨_, rfl⟩ := Prod.mk.inj (Option.some.inj (there.symm.trans works))
    rw [effect.pairs, Function.update_self]
  · rw [moved.host] at there
    simp only [consumed, moved.host]
    exact decodes id r there

theorem decode_carried {p : Party} {s : Nat} {arrival : Arrival} {w : WireRead} {pos : Nat} {t : DecoderTurn}
    {res : HandshakeResult} {task : TaskState} (synced : n.Synced z tidy) (moved : Local n n' p s)
    (orderly : arrival.Orderly) (arrived : (n.link s p.other).arrive arrival = some (w, pos))
    (phase : (n.host p).sides s = .flowing res task .running)
    (turn : t = decoderTurn z ((n.host p).lru.pairs res.q2sPair).decoder w)
    (link : n'.link s p.other =
      { n.link s p.other with pos := pos, written := (n.link s p.other).written ++ t.written })
    (effect : (n.host p).Touches (n'.host p) res.q2sPair
      { (n.host p).lru.pairs res.q2sPair with decoder := t.decoder }) :
    ∃ held, Carried z n' p.other s held ∧ (tidy → held = []) := by
  have flowing : ((n.host p).sides s).result ≠ none := by simp [phase, Phase.result]
  have sender := arrived_sender synced.naming.wire synced.conducted flowing orderly arrived
  have works : (n.host p).slot (.q2s s) = some (res.q2sId, res.q2sPair) := by simp [phase, Phase.q2s]
  have drained := ((synced.naming.owned p).ready _ _ _ works).decoder
  obtain ⟨held, ops, carries, nothing, encodes⟩ := synced.receives phase sender
  refine ⟨held, ⟨ops, t.decoder.consumed, ?_, fun id r there => ?_, fun id r there => ?_⟩, nothing⟩
  · rw [link]
    -- a chunk in flight, or the end of the stream, which decodes to nothing
    rcases Link.arrive_orderly orderly ((synced.conducted p s).window flowing).1 arrived with
      ⟨chunk, rfl, split, _⟩ | ⟨_, rfl, rfl, empty, _⟩
    · rw [split] at carries
      obtain ⟨out, next, ⟨written, _⟩ | ⟨bad, _⟩⟩ := decoderTurn_bytes .ok drained carries
      · rw [turn, written, decoderTurn_bytes_decoder chunk .ok drained]
        exact next
      · exact absurd rfl bad
    · have silent : t.written = [] ∧ t.decoder.consumed = n.consumed p res.q2sPair := by
        rw [turn, decoderTurn]
        refine ⟨?_, by rw [writeTurn_decoder]; rfl⟩
        simp [writeTurn, Decoder.take, drained]
      rw [silent.1, silent.2, List.append_nil]
      exact carries
  · rw [moved.host] at there ⊢
    exact encodes id r there
  · rw [Party.other_other] at there ⊢
    rw [effect.slot] at there
    obtain ⟨_, rfl⟩ := Prod.mk.inj (Option.some.inj (there.symm.trans works))
    rw [consumed, effect.pairs, Function.update_self]

theorem step_carried_out (synced : n.Synced z tidy) (orderly : a.Orderly)
    (moved : Local n n' a.party a.stream) (wire : n'.Wire) (conducted : n'.Conducted)
    (follows : ∀ k k' x r r', (n'.host a.party).slot k = some (x, r) →
      (n'.host a.party.other).slot k' = some (x, r') → Follows z n' a.party k' r r')
    (hs : Step z n a n') (flowing : ((n'.host a.party).sides a.stream).result ≠ none) :
    ∃ held, Carried z n' a.party a.stream held ∧ (tidy → held = []) := by
  have same (id : PairId) (r : Ref) (there : (n'.host a.party.other).slot (.q2s a.stream) = some (id, r)) :
      (n.host a.party.other).slot (.q2s a.stream) = some (id, r) ∧
        n'.consumed a.party.other r = n.consumed a.party.other r := by
    simp only [consumed, moved.host] at there ⊢
    exact ⟨there, trivial⟩
  cases hs with
    simp only [Action.party, Action.stream] at moved follows flowing same ⊢
  | scan _ _ _ sides | reuse _ sides _ | create _ sides _ _ | hit _ _ _ sides _ _ | miss _ _ _ sides _ _ =>
    simp [sides_self sides, Phase.result] at flowing
  | sendId phase _ | sendAck phase _ => simp [phase, Phase.result] at flowing
  | @complete p s id r₀ _ _ _ h phase _ _ sides effect =>
    have conduct := synced.conducted p s
    have pending : ((n.host p).sides s).result = none := by rw [phase]; rfl
    have blank := conduct.blank pending
    refine complete_carried wire conducted follows (by rw [update_host, sides_self sides]) ?_ fun clean => ?_
    · simp only [update_out]
      exact ⟨blank.1, blank.2.1, ((synced.naming.wire p s).no_data conduct.alive pending).2⟩
    · rw [update_host, effect.pairs, Function.update_self]
      split
      · exact z.flushed_nil
      · refine synced.flushed clean p (.s2q s) id r₀ (by simp [phase, Phase.s2q]) ?_
        rintro _ _ _ ⟨⟩
        simp [phase]
  | fail => exact orderly.elim
  | @encode p s ev res task t h phase turn sides effect =>
    obtain ⟨held, carried, nothing⟩ := synced.carried p s (by simp [phase, Phase.result])
    have transmits := turn ▸ orderly_transmits (z := z) synced.naming.owned phase orderly
    exact ⟨held, encode_carried synced moved phase transmits (by simp) (by simp) (by simp) (by simp)
      (by simpa using effect) carried, nothing⟩
  | @decode p s _ _ _ res task _ _ arrived phase turn sides effect =>
    obtain ⟨held, carried, nothing⟩ := synced.carried p s (by simp [phase, Phase.result])
    refine ⟨held, carried.keep (by simp) (by simp) (by simp) (fun id r there => ?_) same, nothing⟩
    rw [update_host] at there ⊢
    exact ⟨effect.slot ▸ there, effect.encoder rfl r⟩
  | @settleS2q p s res _ _ _ phase sides _ =>
    obtain ⟨held, carried, nothing⟩ := synced.carried p s (by simp [phase, Phase.result])
    refine ⟨held, carried.keep (by simp) (by simp) (by simp) (fun id r there => ?_) same, nothing⟩
    simp [sides_self sides, Phase.s2q] at there
  | @settleQ2s p s res _ _ _ phase sides effect =>
    have had : (n.host p).slot (.q2s s) = some (res.q2sId, res.q2sPair) := by simp [phase, Phase.q2s]
    obtain ⟨held, carried, nothing⟩ := synced.carried p s (by simp [phase, Phase.result])
    refine ⟨held, carried.keep (by simp) (by simp) (by simp) (fun id r there => ?_) same, nothing⟩
    rw [put_host] at there ⊢
    obtain ⟨_, pairs⟩ := Host.settled_old (synced.naming.owned p) (effect.imp_left fun e => e.2.2) had there
    refine ⟨?_, by rw [pairs]⟩
    simpa [sides_self sides, phase, Phase.s2q] using there
  | @evict p id =>
    obtain ⟨held, carried, nothing⟩ := synced.carried p 0 (by simpa [Host.evict] using flowing)
    refine ⟨held, carried.keep (by simp) (by simp) (by simp) (fun id r there => ?_) same, nothing⟩
    rw [put_host] at there ⊢
    exact ⟨there, rfl⟩

theorem step_carried_inc (synced : n.Synced z tidy) (orderly : a.Orderly)
    (moved : Local n n' a.party a.stream) (hs : Step z n a n')
    (flowing : ((n.host a.party.other).sides a.stream).result ≠ none) :
    ∃ held, Carried z n' a.party.other a.stream held ∧ (tidy → held = []) := by
  obtain ⟨held, carried, nothing⟩ := synced.carried _ _ flowing
  have same (id : PairId) (r : Ref) (there : (n'.host a.party.other).slot (.s2q a.stream) = some (id, r)) :
      (n.host a.party.other).slot (.s2q a.stream) = some (id, r) ∧
        ((n'.host a.party.other).lru.pairs r).encoder = ((n.host a.party.other).lru.pairs r).encoder := by
    rw [moved.host] at there ⊢
    exact ⟨there, rfl⟩
  cases hs with
    simp only [Action.party, Action.stream] at moved carried flowing same ⊢
  | scan _ _ _ sides | reuse _ sides _ | create _ sides _ _ | settleQ2s _ sides _ =>
    refine ⟨held, carried.keep (by simp) (by simp) (by simp) same fun id r there => ?_, nothing⟩
    simp [sides_self sides, Phase.q2s] at there
  | sendId _ _ | sendAck _ _ =>
    refine ⟨held, carried.keep (by simp) (by simp) (by simp) same fun id r there => ?_, nothing⟩
    simp only [consumed, Party.other_other, update_host] at there ⊢
    exact ⟨there, trivial⟩
  | hit _ sent _ _ _ _ | miss _ sent _ _ _ _ => exact absurd (unanswered synced.naming.wire sent) flowing
  | @complete p s _ _ _ _ _ _ phase _ _ _ effect =>
    have early := (synced.conducted p s).early (by rw [phase]; rfl)
    refine ⟨held, carried.keep ?_ (by simp) (by simp) same fun id r there => ?_, nothing⟩
    · simp only [update_inc, Link.inflight, max_self, max_eq_right early]
    · simp only [consumed, Party.other_other, update_host] at there ⊢
      exact ⟨effect.slot ▸ there, by rw [effect.decoder (by split <;> rfl)]⟩
  | fail => exact orderly.elim
  | encode _ _ _ effect =>
    refine ⟨held, carried.keep (by simp) (by simp) (by simp) same fun id r there => ?_, nothing⟩
    simp only [consumed, Party.other_other, update_host] at there ⊢
    exact ⟨effect.slot ▸ there, by rw [effect.decoder rfl]⟩
  | decode arrived phase turn _ effect =>
    exact decode_carried synced moved orderly arrived phase turn update_inc (by simpa using effect)
  | @settleS2q p s res _ _ _ phase sides effect =>
    have had : (n.host p).slot (.s2q s) = some (res.s2qId, res.s2qPair) := by simp [phase, Phase.s2q]
    refine ⟨held, carried.keep (by simp) (by simp) (by simp) same fun id r there => ?_, nothing⟩
    simp only [consumed, Party.other_other, put_host] at there ⊢
    obtain ⟨_, pairs⟩ := Host.settled_old (synced.naming.owned p) (effect.imp_left fun e => e.2.2) had there
    refine ⟨?_, by rw [pairs]⟩
    simpa [sides_self sides, phase, Phase.q2s] using there
  | evict =>
    refine ⟨held, carried.keep (by simp) (by simp) (by simp) same fun id r there => ?_, nothing⟩
    simp only [consumed, Party.other_other, put_host] at there ⊢
    exact ⟨there, rfl⟩

/-! ### Encoders that are not at work hold nothing back -/

end Net

namespace Host
section Tidy
variable {z : HistoryCodec UInt8} {h h' : Host} {k₀ : Slot} {id₀ : PairId} {r₀ : Ref} {p : CodecPair}

def Tidy (z : HistoryCodec UInt8) (h : Host) : Prop :=
  ∀ k id r, h.slot k = some (id, r) → h.AtRest k → z.Flushed (h.lru.pairs r).encoder.ops

theorem atRest_cached {id : PairId} : h.AtRest (.cached id) := by
  rintro _ _ _ ⟨⟩

theorem atRest_q2s {s : Nat} : h.AtRest (.q2s s) := by
  rintro _ _ _ ⟨⟩

theorem atRest_s2q {s : Nat} (idle : ∀ res task, h.sides s ≠ .flowing res .running task) :
    h.AtRest (.s2q s) := by
  rintro _ res task ⟨⟩
  exact idle res task

theorem Reuses.tidy (effect : Reuses h h' k₀ id₀ r₀) (tidy : h.Tidy z)
    (rests : ∀ k, h'.AtRest k → h.AtRest k) : h'.Tidy z := by
  intro k id r held rest
  rw [effect.pairs]
  rcases effect.old held with ⟨_, rfl, rfl⟩ | ⟨_, old⟩
  · exact tidy _ _ _ effect.held atRest_cached
  · exact tidy k id r old (rests k rest)

theorem Creates.tidy (effect : Creates h h' k₀ id₀ r₀) (own : h.Owned) (tidy : h.Tidy z)
    (rests : ∀ k, h'.AtRest k → h.AtRest k) : h'.Tidy z := by
  intro k id r held rest
  rcases effect.old own held with ⟨_, rfl, rfl⟩ | ⟨_, old, pairs⟩
  · rw [effect.pairs, Function.update_self]
    exact z.flushed_nil
  · rw [pairs]
    exact tidy k id r old (rests k rest)

theorem settled_tidy (effect : Returns h h' k₀ id₀ r₀ ∨ Drops h h' k₀ r₀) (own : h.Owned)
    (held₀ : h.slot k₀ = some (id₀, r₀)) (rest₀ : h.AtRest k₀) (tidy : h.Tidy z)
    (rests : ∀ k, h'.AtRest k → h.AtRest k) : h'.Tidy z := by
  intro k id r held rest
  rcases effect with back | dropped
  · rw [back.pairs]
    rcases back.old held with ⟨_, rfl, rfl⟩ | ⟨_, old⟩
    · exact tidy _ _ _ held₀ rest₀
    · exact tidy k id r old (rests k rest)
  · obtain ⟨_, old, pairs⟩ := dropped.old own held₀ held
    rw [pairs]
    exact tidy k id r old (rests k rest)

/-- The encoder of the pair in `k₀` may change if it is at work afterwards or flushed. -/
theorem Touches.tidy (effect : Touches h h' r₀ p) (own : h.Owned) (held₀ : h.slot k₀ = some (id₀, r₀))
    (flushed : h'.AtRest k₀ → z.Flushed p.encoder.ops) (tidy : h.Tidy z)
    (rests : ∀ k, k ≠ k₀ → h'.AtRest k → h.AtRest k) : h'.Tidy z := by
  intro k id r held rest
  rw [effect.slot] at held
  by_cases its : k = k₀
  · subst its
    obtain ⟨_, rfl⟩ := Prod.mk.inj (Option.some.inj (held.symm.trans held₀))
    rw [effect.pairs, Function.update_self]
    exact flushed rest
  · have different : r ≠ r₀ := by
      rintro rfl
      exact its (own.same_slot held held₀)
    rw [effect.pairs, Function.update_of_ne different]
    exact tidy k id r held (rests k its rest)

end Tidy
end Host

namespace Net
variable {z : HistoryCodec UInt8} {tidy : Prop} {n n' : Net} {a : Action}

theorem Local.atRest {p : Party} {s : Nat} {k : Slot} (moved : Local n n' p s) (its : k ≠ .s2q s)
    (rest : (n'.host p).AtRest k) : (n.host p).AtRest k := by
  rintro t res task rfl
  rw [← moved.frame.sides t (by simpa using its)]
  exact rest t res task rfl

theorem Local.rests {p : Party} {s : Nat} (moved : Local n n' p s)
    (here : (n'.host p).AtRest (.s2q s) → (n.host p).AtRest (.s2q s)) (k : Slot)
    (rest : (n'.host p).AtRest k) : (n.host p).AtRest k := by
  by_cases its : k = .s2q s
  · subst its
    exact here rest
  · exact moved.atRest its rest

theorem encode_flushed {p : Party} {s : Nat} {ev : EncEvent} {res : HandshakeResult} {task : TaskState}
    (own : n.Owned) (phase : (n.host p).sides s = .flowing res .running task) (orderly : ev.Orderly)
    (drained : Drained z n (.encode p s ev))
    (stopped : (encoderTurn z ((n.host p).lru.pairs res.s2qPair).encoder ev).result ≠ none) :
    z.Flushed (encoderTurn z ((n.host p).lru.pairs res.s2qPair).encoder ev).encoder.ops := by
  rcases orderly.result (z := z) (e := ((n.host p).lru.pairs res.s2qPair).encoder) with
    running | clean | ⟨_, failing, same⟩
  · exact absurd running stopped
  · exact (orderly_transmits own phase orderly).flushed clean
  · rw [same]
    refine drained (p, s) ?_ (res.s2qId, res.s2qPair) (by simp [phase, Phase.s2q])
    rcases failing with rfl | rfl <;> rfl

theorem step_tidy (own : n.Owned) (tidy : (n.host a.party).Tidy z) (orderly : a.Orderly)
    (drained : Drained z n a) (moved : Local n n' a.party a.stream) (hs : Step z n a n') :
    (n'.host a.party).Tidy z := by
  cases hs with
    simp only [Action.party, Action.stream] at moved tidy ⊢
  | scan phase slot lru _ =>
    have rests := moved.rests fun _ => Host.atRest_s2q (by simp [phase])
    intro k id r held rest
    simp only [put_host, slot, lru] at held ⊢
    exact tidy k id r held (rests k rest)
  | reuse phase _ effect =>
    have rests := moved.rests fun _ => Host.atRest_s2q (by simp [phase])
    rw [put_host] at rests ⊢
    exact effect.tidy tidy rests
  | create phase _ _ effect =>
    have rests := moved.rests fun _ => Host.atRest_s2q (by simp [phase])
    rw [put_host] at rests ⊢
    exact effect.tidy (own _) tidy rests
  | sendId | sendAck => rwa [update_host]
  | hit phase _ _ _ _ effect =>
    have rests := moved.rests fun _ => Host.atRest_s2q (by simp [phase])
    rw [update_host] at rests ⊢
    exact effect.tidy tidy rests
  | miss phase _ _ _ _ effect =>
    have rests := moved.rests fun _ => Host.atRest_s2q (by simp [phase])
    rw [update_host] at rests ⊢
    exact effect.tidy (own _) tidy rests
  | @complete p s x r₀ _ _ _ _ phase _ _ sides effect =>
    have offered : (n.host p).slot (.s2q s) = some (x, r₀) := by simp [phase, Phase.s2q]
    have rests : ∀ k, k ≠ .s2q s → _ → (n.host p).AtRest k := fun k its => moved.atRest its
    rw [update_host] at rests ⊢
    exact effect.tidy (own p) offered (fun rest => absurd (sides_self sides) (rest s _ _ rfl)) tidy rests
  | fail => exact orderly.elim
  | @encode p s ev res task t h phase turn sides effect =>
    have works : (n.host p).slot (.s2q s) = some (res.s2qId, res.s2qPair) := by simp [phase, Phase.s2q]
    have rests : ∀ k, k ≠ .s2q s → _ → (n.host p).AtRest k := fun k its => moved.atRest its
    rw [update_host] at rests ⊢
    refine effect.tidy (own p) works (fun rest => ?_) tidy rests
    rw [turn]
    refine encode_flushed own phase orderly drained fun running => ?_
    exact rest s res task rfl (by rw [sides_self sides, turn, running]; rfl)
  | decode _ phase _ sides effect =>
    have rests := moved.rests fun rest => Host.atRest_s2q fun res task running => by
      obtain ⟨rfl, rfl, _⟩ := Phase.flowing.inj (phase.symm.trans running)
      exact rest _ _ _ rfl (by rw [update_host, sides_self sides])
    rw [update_host] at rests ⊢
    intro k id r held rest
    rw [effect.encoder rfl]
    exact tidy k id r (effect.slot ▸ held) (rests k rest)
  | @settleS2q p s res _ _ _ phase _ effect =>
    have had : (n.host p).slot (.s2q s) = some (res.s2qId, res.s2qPair) := by simp [phase, Phase.s2q]
    have resting : (n.host p).AtRest (.s2q s) := Host.atRest_s2q (by simp [phase])
    have rests := moved.rests fun _ => resting
    rw [put_host] at rests ⊢
    exact Host.settled_tidy (effect.imp_left fun e => e.2.2) (own p) had resting tidy rests
  | @settleQ2s p s res _ _ _ phase sides effect =>
    have had : (n.host p).slot (.q2s s) = some (res.q2sId, res.q2sPair) := by simp [phase, Phase.q2s]
    have rests := moved.rests fun rest => Host.atRest_s2q fun res task running => by
      obtain ⟨rfl, rfl, _⟩ := Phase.flowing.inj (phase.symm.trans running)
      exact rest _ _ _ rfl (by rw [put_host, sides_self sides])
    rw [put_host] at rests ⊢
    exact Host.settled_tidy (effect.imp_left fun e => e.2.2) (own p) had Host.atRest_q2s tidy rests
  | evict =>
    rw [put_host]
    intro k id r held rest
    rw [Host.slot_evict] at held
    exact tidy k id r (of_update_none held).2 rest

theorem step_synced (synced : n.Synced z tidy) (fresh : Fresh n a) (clean : CleanMiss n a)
    (orderly : a.Orderly) (drained : tidy → Drained z n a) (hs : n.step z a = some n') :
    n'.Synced z tidy := by
  have own := synced.naming.owned
  have spec := step_spec own hs
  have moved := step_local own hs
  have naming := step_naming synced.naming fresh clean.1 hs
  have conducted := step_conducted own synced.naming.wire synced.conducted synced.decodes orderly hs
  have follows_from := step_follows_from synced fresh clean orderly moved spec
  have follows_to := step_follows_to synced fresh orderly moved spec
  refine ⟨naming, conducted, fun p => ?_, fun p s flowing => ?_, fun neat p => ?_⟩
  · rcases a.party.eq_or_other p with rfl | rfl
    · exact follows_from
    · rw [Party.other_other]
      exact follows_to
  · by_cases same : s = a.stream
    · subst same
      rcases a.party.eq_or_other p with rfl | rfl
      · exact step_carried_out synced orderly moved naming.wire conducted follows_from spec flowing
      · rw [moved.host] at flowing
        exact step_carried_inc synced orderly moved spec flowing
    · rw [moved.sides p same] at flowing
      obtain ⟨held, carried, nothing⟩ := synced.carried p s flowing
      exact ⟨held, carried.frame moved same, nothing⟩
  · rcases a.party.eq_or_other p with rfl | rfl
    · exact step_tidy own (synced.flushed neat _) orderly (drained neat) moved spec
    · rw [moved.host]
      exact synced.flushed neat _

theorem new_synced : new.Synced z tidy := by
  have empty : Host.new.slot = fun _ => none := by
    funext k
    cases k <;> rfl
  refine ⟨new_naming, fun p s => .pending (by simp [new, Host.new]) rfl ⟨rfl, rfl, rfl⟩ (by simp [new]), ?_,
    fun p s flowing => absurd rfl flowing, fun _ p k id r held _ => ?_⟩
  · intro p k k' x r r' held
    simp [new, empty] at held
  · simp [new, empty] at held

/-! ### Results -/

def Sequential (n : Net) : Action → Prop
  | .scan _ s _ => ∀ t < s, ∀ p ∈ [Party.left, .right], ((n.host p).sides t).isOver
  | _ => True

instance (n : Net) : DecidablePred n.Sequential
  | .scan _ s _ => inferInstanceAs (Decidable (∀ t < s, ∀ p ∈ [Party.left, .right], _))
  | .take _ _ _ _ | .send _ _ | .lookup _ _ | .complete _ _ | .fail _ _ | .encode _ _ _ | .decode _ _ _
  | .settleS2q _ _ | .settleQ2s _ _ | .evict _ _ => isTrue trivial

theorem run_synced {acts : List Action} (h : run (step z) new acts = some n)
    (fresh : Along (step z) Fresh new acts) (orderly : Along (step z) (fun _ a => a.Orderly) new acts)
    (clean : Along (step z) CleanMiss new acts) (drained : tidy → Along (step z) (Drained z) new acts) :
    n.Synced z tidy := by
  by_cases neat : tidy
  · refine run_along_invariant (I := Synced z tidy) ?_ new_synced
      (along_and fresh (along_and orderly (along_and clean (drained neat)))) h
    rintro n a n' synced ⟨fresh, orderly, clean, drained⟩ hs
    exact step_synced synced fresh clean orderly (fun _ => drained) hs
  · refine run_along_invariant (I := Synced z tidy) ?_ new_synced
      (along_and fresh (along_and orderly clean)) h
    rintro n a n' synced ⟨fresh, orderly, clean⟩ hs
    exact step_synced synced fresh clean orderly (fun t => absurd t neat) hs

/-- Whenever a direction of a handshake completes, the encoder at one end and the decoder that the
other end took out for its id are in step, in particular when both are reused. -/
theorem handshake_in_step {acts : List Action} {p : Party} {s : Nat} {res : HandshakeResult}
    (h : run (step z) new acts = some n) (fresh : Along (step z) Fresh new acts)
    (orderly : Along (step z) (fun _ a => a.Orderly) new acts) (clean : Along (step z) CleanMiss new acts)
    (done : n.step z (.complete p s) = some n') (returned : ((n'.host p).sides s).result = some res) :
    ∃ r, (n'.host p.other).slot (.q2s s) = some (res.s2qId, r) ∧
      n'.consumed p.other r = n'.emitted z p res.s2qPair := by
  have before : n.Synced z False := run_synced h fresh orderly clean False.elim
  have synced : n'.Synced z False :=
    step_synced before (by simp [Fresh, Action.drawn])
      ⟨by simp [Unattached, Action.lookingUp], by simp [OfferedFresh, Action.lookingUp]⟩
      (by simp [Action.Orderly]) False.elim done
  cases step_spec before.naming.owned done with
  | @complete _ _ _ _ _ _ _ h acked _ _ sides _ =>
    rw [update_host, sides_self sides] at returned
    obtain rfl := Option.some.inj returned
    refine flowing_in_step synced.naming.wire synced.conducted (synced.follows p)
      (by rw [update_host, sides_self sides]) ?_
    rw [update_out]
    exact ((before.naming.wire p s).no_data (by simp [acked]) (by simp [acked, Phase.result])).2

theorem handshake_in_step_ownOffers : ∃ n n',
    run (step (framed [])) new ownOffers.dropLast = some n ∧
    n.step (framed []) (.complete .right 1) = some n' ∧
    ((n'.host .right).sides 1).result = some ⟨0, 1, randId 2 0, randId 2 0, randId 1 0, randId 1 0⟩ ∧
    ∃ r, (n'.host .left).slot (.q2s 1) = some (randId 2 0, r) ∧
      n'.consumed .left r = n'.emitted (framed []) .right 0 := by
  obtain ⟨n', ran, returned⟩ : ∃ n', run (step (framed [])) new (ownOffers.dropLast ++ [.complete .right 1]) =
      some n' ∧ ((n'.host .right).sides 1).result =
        some ⟨0, 1, randId 2 0, randId 2 0, randId 1 0, randId 1 0⟩ := run_reaches (by decide +kernel)
  obtain ⟨n, before, done⟩ := run_snoc ran
  have fresh : Along (step (framed [])) Fresh new ownOffers.dropLast := by decide +kernel
  have orderly : Along (step (framed [])) (fun _ a => a.Orderly) new ownOffers.dropLast := by decide +kernel
  have unattached := along_unattached 2
    (show Along (step (framed [])) _ new ownOffers.dropLast by decide +kernel)
  have offered : Along (step (framed [])) OfferedFresh new ownOffers.dropLast := by decide +kernel
  exact ⟨n, n', before, done, returned,
    handshake_in_step before fresh orderly (along_and unattached offered) done returned⟩

/-- The right process evicts the pair it made in the first stream, and the left one, which still has
it, offers it in the second. The right process misses, which makes the left encoder fresh but leaves
the left decoder alone. In the third stream the right process offers its new pair. -/
def staleDecoder : List Action :=
  handshake 0 [] [] 1 ++ transfer .left 0 [7] 1 ++ transfer .right 0 [8] 1 ++ [.evict .right (randId 2 0)] ++
    handshake 1 [⟨randId 2 0, 1⟩, ⟨randId 1 0, 0⟩] [⟨randId 1 0, 1⟩] 3 ++
    transfer .left 1 [9] 1 ++ transfer .right 1 [10] 1 ++
    (handshake 2 [⟨randId 1 0, 0⟩, ⟨randId 2 0, 1⟩] [⟨randId 2 0, 2⟩, ⟨randId 1 0, 1⟩] 5).dropLast

def farewell (s : Nat) : List Action :=
  [.encode .left s (.read [] .ok), .encode .right s (.read [] .ok), .decode .left s (.eof .ok true),
    .decode .right s (.eof .ok true), .settleS2q .left s, .settleQ2s .left s, .settleS2q .right s,
    .settleQ2s .right s]

theorem hit_out_of_step : ∃ n n' m, run (step (framed [])) new staleDecoder = some n ∧
    n.step (framed []) (.complete .right 2) = some n' ∧
    ((n'.host .right).sides 2).result = some ⟨2, 1, randId 2 0, randId 2 0, randId 1 0, randId 1 0⟩ ∧
    (n'.host .left).slot (.q2s 2) = some (randId 2 0, 1) ∧
    n'.emitted (framed []) .right 2 = [] ∧ n'.consumed .left 1 = [8] ∧
    run (step (framed [])) n' (farewell 2) = some m ∧
    Along (step (framed [])) Fresh new (staleDecoder ++ [.complete .right 2] ++ farewell 2) ∧
    Along (step (framed [])) (fun _ a => a.Orderly) new (staleDecoder ++ [.complete .right 2] ++ farewell 2) ∧
    ∀ s < 3, ∀ p ∈ [Party.left, .right], ((m.host p).sides s).isOver ∧ (m.link s p).inflight = [] := by
  obtain ⟨n', ran, held⟩ : ∃ n', run (step (framed [])) new (staleDecoder ++ [.complete .right 2]) = some n' ∧
      ((n'.host .right).sides 2).result = some ⟨2, 1, randId 2 0, randId 2 0, randId 1 0, randId 1 0⟩ ∧
      (n'.host .left).slot (.q2s 2) = some (randId 2 0, 1) ∧
      n'.emitted (framed []) .right 2 = [] ∧ n'.consumed .left 1 = [8] := run_reaches (by decide +kernel)
  obtain ⟨n, before, done⟩ := run_snoc ran
  obtain ⟨m, finished, ended⟩ : ∃ m, run (step (framed [])) new
      (staleDecoder ++ [.complete .right 2] ++ farewell 2) = some m ∧
      ∀ s < 3, ∀ p ∈ [Party.left, .right], ((m.host p).sides s).isOver ∧ (m.link s p).inflight = [] :=
    run_reaches (by decide +kernel)
  obtain ⟨u, first, rest⟩ := run_append.mp finished
  obtain rfl : n' = u := Option.some.inj (ran.symm.trans first)
  exact ⟨n, n', m, before, done, held.1, held.2.1, held.2.2.1, held.2.2.2, rest, by decide +kernel,
    by decide +kernel, ended⟩

/-- What comes out of a stream went into the same stream. -/
theorem stream_isolated {acts : List Action} (h : run (step z) new acts = some n)
    (fresh : Along (step z) Fresh new acts) (orderly : Along (step z) (fun _ a => a.Orderly) new acts)
    (clean : Along (step z) CleanMiss new acts) (drained : Along (step z) (Drained z) new acts)
    (p : Party) (s : Nat) : (n.link s p).written <+: (n.link s p).read := by
  have synced : n.Synced z True := run_synced h fresh orderly clean fun _ => drained
  by_cases pending : ((n.host p).sides s).result = none
  · obtain ⟨_, written, _⟩ := (synced.conducted p s).blank pending
    rw [written]
    exact List.nil_prefix
  · obtain ⟨held, ⟨ops, d, carries, _⟩, nothing⟩ := synced.carried p s pending
    obtain rfl := nothing trivial
    exact carries.prefix_read

theorem stream_isolated_ownOffers : ∃ n, run (step (framed [])) new (ownOffers ++ transfer .left 1 [9] 1) =
    some n ∧ (n.link 1 .left).written <+: (n.link 1 .left).read ∧ (n.link 1 .left).written = [9] := by
  obtain ⟨n, ran, written⟩ : ∃ n, run (step (framed [])) new (ownOffers ++ transfer .left 1 [9] 1) = some n ∧
      (n.link 1 .left).written = [9] := run_reaches (by decide +kernel)
  have fresh : Along (step (framed [])) Fresh new (ownOffers ++ transfer .left 1 [9] 1) := by decide +kernel
  have orderly : Along (step (framed [])) (fun _ a => a.Orderly) new
      (ownOffers ++ transfer .left 1 [9] 1) := by decide +kernel
  have unattached := along_unattached 2
    (show Along (step (framed [])) _ new (ownOffers ++ transfer .left 1 [9] 1) by decide +kernel)
  have offered : Along (step (framed [])) OfferedFresh new (ownOffers ++ transfer .left 1 [9] 1) := by
    decide +kernel
  have drained : Along (step (framed [])) (Drained (framed [])) new
      (ownOffers ++ transfer .left 1 [9] 1) := by decide +kernel
  exact ⟨n, ran, stream_isolated ran fresh orderly (along_and unattached offered) drained .left 1, written⟩

/-- The first stream's local reader fails after 42 was read and before it was flushed. The second
stream reuses the pair, and both processes offer the pair they made themselves. -/
def leftover : List Action :=
  handshake 0 [] [] 1 ++ [.encode .left 0 (.read [42] .ok), .encode .left 0 .readError,
    .encode .right 0 (.read [] .ok), .decode .right 0 (.eof .ok true), .decode .left 0 (.eof .ok true),
    .settleS2q .left 0, .settleQ2s .left 0, .settleS2q .right 0, .settleQ2s .right 0] ++
    handshake 1 [⟨randId 1 0, 0⟩, ⟨randId 2 0, 1⟩] [⟨randId 2 0, 0⟩, ⟨randId 1 0, 1⟩] 3 ++
    transfer .left 1 [7] 2

theorem stream_leaks : ∃ n, run (step (framed [])) new leftover = some n ∧
    Along (step (framed [])) Sequential new leftover ∧ Along (step (framed [])) Fresh new leftover ∧
    Along (step (framed [])) (fun _ a => a.Orderly) new leftover ∧
    (n.link 1 .left).read = [7] ∧ (n.link 1 .left).written = [42, 7] := by
  obtain ⟨n, ran, leaked⟩ : ∃ n, run (step (framed [])) new leftover = some n ∧
      (n.link 1 .left).read = [7] ∧ (n.link 1 .left).written = [42, 7] := run_reaches (by decide +kernel)
  exact ⟨n, ran, by decide +kernel, by decide +kernel, by decide +kernel, leaked⟩

end Net
end Rstun.Codec
