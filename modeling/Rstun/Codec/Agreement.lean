import Rstun.Codec.Net

/-!
# The pair-id handshake

What the two sides of a stream know of each other is what they read from the first bytes of the
channels. From any tables, and with any number of other streams at work on them, both sides of a
completed handshake hold the same ids and acks, and the two codec states of each direction are as the
ack says.
-/

namespace Rstun.Codec
open Streaming Transition

/-- What one side has sent and concluded, given all bytes it sent and all bytes sent to it. -/
def Phase.Agrees : Phase → Bytes → Bytes → Prop
  | idle, out, _ | scanned _, out, _ => out = []
  | offered id _, out, _ => id ≠ 0 ∧ (out = [] ∨ out = idBytes id)
  | acked id _ remoteId _ ack, out, inc =>
    id ≠ 0 ∧ (out = idBytes id ∨ out = idBytes id ++ idBytes ack) ∧ (ack = 0 ∨ ack = remoteId) ∧
      pairIdSize ≤ inc.length ∧ remoteId = readId (inc.take pairIdSize)
  | flowing res _ _, out, inc =>
    res.s2qId ≠ 0 ∧ idBytes res.s2qId ++ idBytes res.q2sAck <+: out ∧
      (res.q2sAck = 0 ∨ res.q2sAck = res.q2sId) ∧ 2 * pairIdSize ≤ inc.length ∧
      res.q2sId = readId (inc.take pairIdSize) ∧
      res.s2qAck = readId ((inc.drop pairIdSize).take pairIdSize)
  | failed, _, _ => True

theorem Phase.Agrees.mono {phase : Phase} {out inc inc' : Bytes} (h : phase.Agrees out inc)
    (more : inc <+: inc') : phase.Agrees out inc' := by
  obtain ⟨rest, rfl⟩ := more
  cases phase with
  | idle | scanned _ | offered _ _ | failed => exact h
  | acked id r remoteId r' ack =>
    obtain ⟨nonzero, sent, reply, long, heard⟩ := h
    refine ⟨nonzero, sent, reply, by simp; omega, ?_⟩
    rw [List.take_append_of_le_length long]
    exact heard
  | flowing res s2q q2s =>
    obtain ⟨nonzero, sent, reply, long, heard, heard'⟩ := h
    refine ⟨nonzero, sent, reply, by simp; omega, ?_, ?_⟩
    · rw [List.take_append_of_le_length (by omega)]
      exact heard
    · rw [List.drop_append_of_le_length (by omega), List.take_append_of_le_length (by simp; omega)]
      exact heard'

namespace Net
variable {z : HistoryCodec UInt8} {n n' : Net} {a : Action}

def Wire (n : Net) : Prop :=
  ∀ p s, ((n.host p).sides s).Agrees (n.link s p).log (n.link s p.other).log

theorem step_agrees (own : n.Owned) (wire : n.Wire) (hs : Step z n a n') :
    ((n'.host a.party).sides a.stream).Agrees (n'.link a.stream a.party).log
      (n.link a.stream a.party.other).log := by
  have before := wire a.party a.stream
  cases hs with
    simp only [Action.party, Action.stream, put_host, put_link, update_host, update_out] at before ⊢
  | scan phase _ _ sides =>
    rw [phase] at before
    rw [sides_self sides]
    exact before
  | reuse phase sides effect =>
    rw [phase] at before
    rw [sides_self sides]
    refine ⟨?_, Or.inl before⟩
    rintro rfl
    exact absurd ((own _).nonzero.symm.trans effect.held) (by simp)
  | create phase sides drawn _ =>
    rw [phase] at before
    rw [sides_self sides]
    exact ⟨drawn ▸ randId_ne_zero _ _, Or.inl before⟩
  | sendId phase _ =>
    rw [phase] at before ⊢
    exact ⟨before.1, Or.inr rfl⟩
  | sendAck phase short =>
    rw [phase] at before ⊢
    obtain ⟨nonzero, first | both, rest⟩ := before
    · exact ⟨nonzero, Or.inr (by rw [first]), rest⟩
    · simp [both, pairIdSize] at short
  | hit phase sent heard sides _ _ =>
    rw [phase] at before
    rw [sides_self sides]
    obtain ⟨nonzero, empty | first⟩ := before
    · simp [empty, pairIdSize] at sent
    · exact ⟨nonzero, Or.inl first, Or.inr rfl, heard, rfl⟩
  | miss phase sent heard sides _ _ =>
    rw [phase] at before
    rw [sides_self sides]
    obtain ⟨nonzero, empty | first⟩ := before
    · simp [empty, pairIdSize] at sent
    · exact ⟨nonzero, Or.inl first, Or.inl rfl, heard, rfl⟩
  | complete phase sent heard sides _ =>
    rw [phase] at before
    rw [sides_self sides]
    obtain ⟨nonzero, first | both, reply, _, remote⟩ := before
    · simp [first, pairIdSize] at sent
    · exact ⟨nonzero, by rw [both], reply, heard, remote, rfl⟩
  | fail _ _ _ sides =>
    rw [sides_self sides]
    trivial
  | encode phase _ sides _ =>
    rw [phase] at before
    rw [sides_self sides]
    exact ⟨before.1, before.2.1.trans (List.prefix_append _ _), before.2.2⟩
  | decode _ phase _ sides _ =>
    rw [phase] at before
    rw [sides_self sides]
    exact before
  | settleS2q phase sides _ | settleQ2s phase sides _ =>
    rw [phase] at before
    rw [sides_self sides]
    exact before
  | evict => exact before

theorem step_wire (own : n.Owned) (wire : n.Wire) (hs : n.step z a = some n') : n'.Wire := by
  have moved := step_local own hs
  apply moved.ends (I := fun phase out inc => phase.Agrees out.log inc.log) wire
  · rw [moved.inc]
    exact step_agrees own wire (step_spec own hs)
  · rw [moved.host, moved.inc]
    have before := wire a.party.other a.stream
    rw [Party.other_other] at before
    exact before.mono moved.out

end Net

/-- What can be seen of the handshake of one side: the pair it checked out; what the table held under
the remote id just before the lookup; and the two pairs as `exchange_pair_id` returned them. -/
structure Seen where
  offered : Option CodecPair := none
  cached : Option (PairId × Ref) := none
  found : Option CodecPair := none
  s2q : Option CodecPair := none
  q2s : Option CodecPair := none

def Host.held (h : Host) (k : Slot) : Option CodecPair := (h.slot k).map fun v => h.lru.pairs v.2

def Seen.record (seen : Seen) (before after : Host) : Action → Seen
  | .take _ s _ _ => { seen with offered := after.held (.s2q s) }
  | .lookup _ s =>
    let remoteId := (after.slot (.q2s s)).map Prod.fst
    { seen with
      cached := remoteId.bind fun id => before.slot (.cached id)
      found := remoteId.bind fun id => before.held (.cached id) }
  | .complete _ s => { seen with s2q := after.held (.s2q s), q2s := after.held (.q2s s) }
  | _ => seen

structure Observed where
  net : Net
  seen : Party → Nat → Seen

/-- The states that `seen` records at one side of a stream are the states of the pairs it holds. -/
def Phase.Witnessed (pairs : Ref → CodecPair) (seen : Seen) : Phase → Prop
  | offered _ r => seen.offered.map CodecPair.encoder = some (pairs r).encoder
  | acked _ r remoteId r' ack =>
    seen.offered.map CodecPair.encoder = some (pairs r).encoder ∧
      (ack = 0 → (pairs r').decoder = .fresh) ∧
      (ack ≠ 0 → seen.cached = some (remoteId, r') ∧
        seen.found.map CodecPair.decoder = some (pairs r').decoder)
  | flowing res _ _ =>
    (res.s2qAck = 0 → seen.s2q.map CodecPair.encoder = some .fresh) ∧
      (res.s2qAck ≠ 0 → ∃ e, seen.offered.map CodecPair.encoder = some e ∧
        seen.s2q.map CodecPair.encoder = some e) ∧
      (res.q2sAck = 0 → seen.q2s.map CodecPair.decoder = some .fresh) ∧
      (res.q2sAck ≠ 0 → seen.cached = some (res.q2sId, res.q2sPair) ∧
        ∃ d, seen.found.map CodecPair.decoder = some d ∧ seen.q2s.map CodecPair.decoder = some d)
  | _ => True

theorem Phase.Witnessed.of_pairs {phase : Phase} {seen : Seen} {pairs pairs' : Ref → CodecPair}
    (h : phase.Witnessed pairs seen) (s2q : ∀ id r, phase.s2q = some (id, r) → pairs' r = pairs r)
    (q2s : ∀ id r, phase.q2s = some (id, r) → pairs' r = pairs r) : phase.Witnessed pairs' seen := by
  cases phase with
  | idle | scanned _ | failed | flowing _ _ _ => exact h
  | offered id r => simpa only [Witnessed, s2q id r rfl] using h
  | acked id r remoteId r' ack => simpa only [Witnessed, s2q id r rfl, q2s remoteId r' rfl] using h

namespace Observed
variable {z : HistoryCodec UInt8} {o o' : Observed} {a : Action}

def step (z : HistoryCodec UInt8) (o : Observed) (a : Action) : Option Observed :=
  (o.net.step z a).map fun n =>
    { net := n
      seen := Function.update o.seen a.party <| Function.update (o.seen a.party) a.stream <|
        (o.seen a.party a.stream).record (o.net.host a.party) (n.host a.party) a }

structure Start (o : Observed) : Prop where
  owned : o.net.Owned
  idle : ∀ p s, (o.net.host p).sides s = .idle
  links : ∀ s p, (o.net.link s p).log = []

structure Sound (o : Observed) : Prop where
  owned : o.net.Owned
  wire : o.net.Wire
  witnessed : ∀ p s, ((o.net.host p).sides s).Witnessed (o.net.host p).lru.pairs (o.seen p s)

theorem Start.sound (start : o.Start) : o.Sound := by
  refine ⟨start.owned, fun p s => ?_, fun p s => ?_⟩
  · rw [start.idle p s]
    exact start.links s p
  · rw [start.idle p s]
    trivial

theorem complete_witnessed {h h' : Host} {s : Nat} {id remoteId remoteAck ack : PairId} {r r' : Ref}
    {seen : Seen} {p : Party} (own : h.Owned) (phase : h.sides s = .acked id r remoteId r' ack)
    (nonzero : id ≠ 0)
    (sides : h'.sides = Function.update h.sides s
      (.flowing ⟨r, r', id, remoteAck, remoteId, ack⟩ .running .running))
    (effect : h.Touches h' r
      (if remoteAck = 0 ∧ id ≠ 0 then (h.lru.pairs r).resetEncoder else h.lru.pairs r))
    (before : (h.sides s).Witnessed h.lru.pairs seen) :
    (h'.sides s).Witnessed h'.lru.pairs (seen.record h h' (.complete p s)) := by
  have different : r' ≠ r := by
    rintro rfl
    have heldS2q : h.slot (.s2q s) = some (id, r') := by simp [phase, Phase.s2q]
    have heldQ2s : h.slot (.q2s s) = some (remoteId, r') := by simp [phase, Phase.q2s]
    simpa using own.same_slot heldS2q heldQ2s
  have returned : h'.held (.s2q s) = some (h'.lru.pairs r) ∧ h'.held (.q2s s) = some (h.lru.pairs r') := by
    simp [Host.held, Net.sides_self sides, Phase.s2q, Phase.q2s, effect.pairs, different]
  rw [phase] at before
  obtain ⟨offered, fresh, cached⟩ := before
  rw [Net.sides_self sides]
  simp only [Phase.Witnessed, Seen.record, returned.1, returned.2, effect.pairs, Function.update_self,
    Option.map_some, Option.some.injEq]
  refine ⟨fun reset => ?_, fun kept => ?_, fresh, fun hit => ?_⟩
  · rw [if_pos ⟨reset, nonzero⟩]
    rfl
  · rw [if_neg (fun reset => kept reset.1)]
    exact ⟨_, offered, rfl⟩
  · exact ⟨(cached hit).1, _, (cached hit).2, rfl⟩

theorem step_witnessed {n n' : Net} {seen : Seen} (own : n.Owned) (wire : n.Wire)
    (before : ((n.host a.party).sides a.stream).Witnessed (n.host a.party).lru.pairs seen)
    (hs : Net.Step z n a n') :
    ((n'.host a.party).sides a.stream).Witnessed (n'.host a.party).lru.pairs
      (seen.record (n.host a.party) (n'.host a.party) a) := by
  cases hs with simp only [Action.party, Action.stream, Net.put_host, Net.update_host] at before ⊢
  | scan _ _ _ sides | fail _ _ _ sides =>
    rw [Net.sides_self sides]
    trivial
  | reuse _ sides _ | create _ sides _ _ =>
    simp [Net.sides_self sides, Phase.Witnessed, Seen.record, Host.held, Phase.s2q]
  | sendId _ _ | sendAck _ _ => exact before
  | hit phase _ _ sides nonzero effect =>
    rw [phase] at before
    simp only [Net.sides_self sides, Phase.Witnessed, Seen.record, Host.slot_q2s, Phase.q2s, Host.held,
      effect.held, effect.pairs, Option.map_some, Option.bind_some]
    exact ⟨before, fun zero => absurd zero nonzero, fun _ => by simp⟩
  | @miss p s id r r' h phase _ _ sides _ effect =>
    have different : r ≠ r' := by
      rw [effect.ref]
      exact ((own p).allocated (.s2q s) id r (by simp [phase, Phase.s2q])).ne
    rw [phase] at before
    simp only [Net.sides_self sides, Phase.Witnessed, Seen.record, effect.pairs, Function.update_self,
      Function.update_of_ne different]
    exact ⟨before, fun _ => rfl, fun nonzero => absurd rfl nonzero⟩
  | @complete p s _ _ _ _ _ _ phase _ _ sides effect =>
    have agrees := wire p s
    rw [phase] at agrees
    exact complete_witnessed (own p) phase agrees.1 sides effect before
  | encode phase _ sides _ | decode _ phase _ sides _ | settleS2q phase sides _ | settleQ2s phase sides _ =>
    rw [phase] at before
    rw [Net.sides_self sides]
    exact before
  | evict => exact before

theorem step_sound (sound : o.Sound) (hs : o.step z a = some o') : o'.Sound := by
  obtain ⟨n, ran, rfl⟩ := Option.map_eq_some_iff.mp hs
  refine ⟨Net.step_owned sound.owned ran, Net.step_wire sound.owned sound.wire ran, fun p s => ?_⟩
  have moved := Net.step_local sound.owned ran
  have before := sound.witnessed p s
  rcases a.party.eq_or_other p with rfl | rfl
  · by_cases same : s = a.stream
    · subst same
      simpa using step_witnessed sound.owned sound.wire before (Net.step_spec sound.owned ran)
    · simp only [moved.frame.sides s same, Function.update_self, Function.update_of_ne same]
      refine before.of_pairs (fun id r held => ?_) (fun id r held => ?_)
      · exact moved.frame.pairs (.s2q s) id r (by simpa using same) (by simp) held
      · exact moved.frame.pairs (.q2s s) id r (by simp) (by simpa using same) held
  · simpa [moved.host] using before

theorem readId_messages {id ack : PairId} {log : Bytes} (sent : idBytes id ++ idBytes ack <+: log) :
    readId (log.take pairIdSize) = id ∧ readId ((log.drop pairIdSize).take pairIdSize) = ack := by
  obtain ⟨rest, rfl⟩ := sent
  simp [pairIdSize]

/-- Whatever the tables hold and the other streams do: when both sides have completed the handshake,
they agree in each direction, and the two codec states are as the ack says. -/
theorem handshake_agreement {acts : List Action} (start : o.Start) (h : run (step z) o acts = some o')
    {p : Party} {s : Nat} {res res' : HandshakeResult}
    (left : ((o'.net.host p).sides s).result = some res)
    (right : ((o'.net.host p.other).sides s).result = some res') :
    res.s2qId = res'.q2sId ∧ res.s2qAck = res'.q2sAck ∧
      (res.s2qAck = 0 ∨ res.s2qAck = res.s2qId) ∧ res.s2qId ≠ 0 ∧
      (res.s2qAck = 0 → (o'.seen p s).s2q.map CodecPair.encoder = some .fresh ∧
        (o'.seen p.other s).q2s.map CodecPair.decoder = some .fresh) ∧
      (res.s2qAck ≠ 0 →
        (∃ e, (o'.seen p s).offered.map CodecPair.encoder = some e ∧
          (o'.seen p s).s2q.map CodecPair.encoder = some e) ∧
        (∃ d, (o'.seen p.other s).found.map CodecPair.decoder = some d ∧
          (o'.seen p.other s).q2s.map CodecPair.decoder = some d) ∧
        (o'.seen p.other s).cached = some (res'.q2sId, res'.q2sPair)) := by
  have sound : o'.Sound := run_invariant (I := Sound) (fun _ _ _ => step_sound) start.sound h
  have wire := sound.wire p s
  have wire' := sound.wire p.other s
  have seen := sound.witnessed p s
  have seen' := sound.witnessed p.other s
  obtain ⟨_, _, left⟩ := Phase.flowing_of_result left
  obtain ⟨_, _, right⟩ := Phase.flowing_of_result right
  rw [left] at wire seen
  rw [right] at wire' seen'
  rw [Party.other_other] at wire'
  obtain ⟨nonzero, sent, _, _, _, heardAck⟩ := wire
  obtain ⟨_, sent', reply', _, heardId', _⟩ := wire'
  obtain ⟨reset, kept, _, _⟩ := seen
  obtain ⟨_, _, reset', kept'⟩ := seen'
  have sameId : res.s2qId = res'.q2sId := by rw [heardId', (readId_messages sent).1]
  have sameAck : res.s2qAck = res'.q2sAck := by rw [heardAck, (readId_messages sent').2]
  refine ⟨sameId, sameAck, by rwa [sameAck, sameId], nonzero, ?_, ?_⟩
  · intro zero
    exact ⟨reset zero, reset' (sameAck ▸ zero)⟩
  · intro hit
    obtain ⟨cached, found⟩ := kept' (sameAck ▸ hit)
    exact ⟨kept hit, found, cached⟩

def new : Observed := ⟨.new, fun _ _ => {}⟩

theorem new_start : new.Start := ⟨fun _ => Host.new_owned, fun _ _ => rfl, fun _ _ => rfl⟩

/-- The left process offers its own pair again, and the right one a pair of the left. -/
def secondMeeting : List Action :=
  Net.handshake 0 [] [] 1 ++ Net.transfer .left 0 [7] 1 ++ Net.transfer .right 0 [8] 1 ++
    [.evict .left (randId 2 0)] ++ Net.handshake 1 [⟨randId 1 0, 0⟩] [⟨randId 2 0, 0⟩, ⟨randId 1 0, 1⟩] 3

theorem handshake_agreement_second : ∃ o, run (step (framed [])) new secondMeeting = some o ∧
    ∃ res res', ((o.net.host .left).sides 1).result = some res ∧
      ((o.net.host .right).sides 1).result = some res' ∧
      res.s2qAck = randId 1 0 ∧ (o.seen .right 1).cached = some (res'.q2sId, res'.q2sPair) ∧
      res'.s2qAck = 0 ∧ (o.seen .right 1).s2q.map CodecPair.encoder = some .fresh := by
  obtain ⟨o, ran, hit, miss⟩ : ∃ o, run (step (framed [])) new secondMeeting = some o ∧
      ((o.net.host .left).sides 1).result.map HandshakeResult.s2qAck = some (randId 1 0) ∧
      ((o.net.host .right).sides 1).result.map HandshakeResult.s2qAck = some 0 :=
    run_reaches (by decide +kernel)
  obtain ⟨res, left, ack⟩ := Option.map_eq_some_iff.mp hit
  obtain ⟨res', right, ack'⟩ := Option.map_eq_some_iff.mp miss
  obtain ⟨_, _, _, _, _, reused⟩ := handshake_agreement new_start ran left right
  obtain ⟨_, _, _, _, fresh, _⟩ := handshake_agreement new_start ran (p := .right) right left
  exact ⟨o, ran, res, res', left, right, ack, (reused (by rw [ack]; exact randId_ne_zero 1 0)).2.2,
    ack', (fresh ack').1⟩

end Observed
end Rstun.Codec
