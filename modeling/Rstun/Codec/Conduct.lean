import Rstun.Codec.Naming

/-!
# Streams that go well

In an orderly run every handshake completes, the transport delivers what was written and every local
writer takes what comes out. Local readers may end or fail at any time. The tasks at the two ends of a
stream then move in step: nothing is sent before the handshake is over at the sending side, and a
decoder that has ended has taken everything.
-/

namespace Rstun.Codec
open Streaming Transition

def EncEvent.Orderly : EncEvent → Prop
  | read _ w | tick w => w = .ok
  | message _ w w' => w = .ok ∧ w' = .ok
  | needMore | readError | httpError => True
  | readTimeout | codecError => False

instance : (ev : EncEvent) → Decidable ev.Orderly
  | .read _ w | .tick w => inferInstanceAs (Decidable (w = .ok))
  | .message _ w w' => inferInstanceAs (Decidable (w = .ok ∧ w' = .ok))
  | .needMore | .readError | .httpError => .isTrue trivial
  | .readTimeout | .codecError => .isFalse id

def Arrival.Orderly : Arrival → Prop
  | bytes _ w => w = .ok
  | eof _ shutdown => shutdown = true
  | error | timeout => False

instance : (a : Arrival) → Decidable a.Orderly
  | .bytes _ w => inferInstanceAs (Decidable (w = .ok))
  | .eof _ shutdown => inferInstanceAs (Decidable (shutdown = true))
  | .error | .timeout => .isFalse id

def Action.Orderly : Action → Prop
  | fail _ _ => False
  | encode _ _ ev => ev.Orderly
  | decode _ _ a => a.Orderly
  | scan _ _ _ | take _ _ _ _ | send _ _ | lookup _ _ | complete _ _ | settleS2q _ _ | settleQ2s _ _
  | evict _ _ => True

instance : (a : Action) → Decidable a.Orderly
  | .fail _ _ => .isFalse id
  | .encode _ _ ev => inferInstanceAs (Decidable ev.Orderly)
  | .decode _ _ a => inferInstanceAs (Decidable a.Orderly)
  | .scan _ _ _ | .take _ _ _ _ | .send _ _ | .lookup _ _ | .complete _ _ | .settleS2q _ _ | .settleQ2s _ _
  | .evict _ _ => .isTrue trivial

theorem EncEvent.Orderly.result {z : HistoryCodec UInt8} {e : Encoder UInt8} {ev : EncEvent}
    (orderly : ev.Orderly) :
    (encoderTurn z e ev).result = none ∨ (encoderTurn z e ev).result = some (.ok .cleanEof) ∨
      ((encoderTurn z e ev).result = some (.ok .ioError) ∧ (ev = .readError ∨ ev = .httpError) ∧
        (encoderTurn z e ev).encoder = e) := by
  have ok (e : Encoder UInt8) (op : Op UInt8) (read : Bytes) (done : Option TaskResult) :
      (emitTurn z e op read .ok done).result = done := by
    unfold emitTurn
    dsimp only
    split <;> rfl
  cases ev with
  | read data w =>
    obtain rfl : w = .ok := orderly
    cases data <;> simp [encoderTurn, ok]
  | tick w =>
    obtain rfl : w = .ok := orderly
    simp [encoderTurn, ok]
  | message data w w' =>
    obtain ⟨rfl, rfl⟩ := orderly
    cases data <;> simp [encoderTurn, ok]
  | needMore | readError | httpError => simp [encoderTurn]
  | readTimeout | codecError => exact orderly.elim

def Link.inflight (l : Link) : Bytes := l.log.drop (max l.pos (2 * pairIdSize))

theorem Link.arrive_orderly {l : Link} {arrival : Arrival} {r : WireRead} {pos : Nat}
    (orderly : arrival.Orderly) (past : 2 * pairIdSize ≤ l.pos) (h : l.arrive arrival = some (r, pos)) :
    (∃ chunk, r = .bytes chunk .ok ∧ l.inflight = chunk ++ l.log.drop (max pos (2 * pairIdSize)) ∧
        2 * pairIdSize ≤ pos ∧ pos ≤ l.log.length) ∨
      (∃ w, r = .eof w true ∧ pos = l.pos ∧ l.inflight = [] ∧ l.fin = true) := by
  cases arrival with
  | bytes count w =>
    obtain rfl : w = .ok := orderly
    simp only [arrive, Option.ite_none_right_eq_some, Option.some.injEq, Prod.mk.injEq] at h
    obtain ⟨enough, rfl, rfl⟩ := h
    refine Or.inl ⟨_, rfl, ?_, by omega, enough.2⟩
    rw [inflight, max_eq_left past, max_eq_left (by omega), ← List.drop_drop, List.take_append_drop]
  | eof w shutdown =>
    obtain rfl : shutdown = true := orderly
    simp only [arrive, Option.ite_none_right_eq_some, Option.some.injEq, Prod.mk.injEq] at h
    obtain ⟨⟨all, finished⟩, rfl, rfl⟩ := h
    exact Or.inr ⟨w, rfl, rfl, List.drop_eq_nil_of_le (by omega), finished⟩
  | error | timeout => exact orderly.elim

/-- How one side of a stream stands to the channel it writes and to the one it reads. -/
structure Conduct (phase : Phase) (out inc : Link) : Prop where
  alive : phase ≠ .failed
  blank : phase.result = none → out.read = [] ∧ out.written = [] ∧ out.fin = false
  running : ∀ res task, phase = .flowing res .running task → out.fin = false
  early : phase.result = none → inc.pos ≤ 2 * pairIdSize
  window : phase.result ≠ none → 2 * pairIdSize ≤ inc.pos ∧ inc.pos ≤ inc.log.length
  ended : ∀ res t u, phase = .flowing res t u → u ≠ .running → inc.fin = true ∧ inc.inflight = []

theorem Phase.Agrees.no_data {phase : Phase} {out : Link} {inc : Bytes} (h : phase.Agrees out.log inc)
    (alive : phase ≠ .failed) (pending : phase.result = none) :
    out.log.length ≤ 2 * pairIdSize ∧ out.inflight = [] := by
  have short : out.log.length ≤ 2 * pairIdSize := by
    cases phase with
    | idle | scanned _ => simp [show out.log = [] from h]
    | offered id r =>
      rcases h.2 with empty | first
      · simp [empty]
      · simp [first, pairIdSize]
    | acked id r remoteId r' ack =>
      rcases h.2.1 with first | both
      · simp [first, pairIdSize]
      · simp [both, pairIdSize]
    | flowing res s2q q2s => cases pending
    | failed => exact absurd rfl alive
  exact ⟨short, List.drop_eq_nil_of_le (by omega)⟩

namespace Conduct
variable {phase : Phase} {out inc inc' : Link}

theorem pending (alive : phase ≠ .failed) (none_ : phase.result = none)
    (blank : out.read = [] ∧ out.written = [] ∧ out.fin = false) (early : inc.pos ≤ 2 * pairIdSize) :
    Conduct phase out inc := by
  refine ⟨alive, fun _ => blank, ?_, fun _ => early, fun some_ => absurd none_ some_, ?_⟩
  · rintro res task rfl
    cases none_
  · rintro res t u rfl
    cases none_

theorem flowing {res : HandshakeResult} {t u : TaskState} (running : t = .running → out.fin = false)
    (window : 2 * pairIdSize ≤ inc.pos ∧ inc.pos ≤ inc.log.length)
    (ended : u ≠ .running → inc.fin = true ∧ inc.inflight = []) : Conduct (.flowing res t u) out inc := by
  refine ⟨by simp, by simp [Phase.result], ?_, by simp [Phase.result], fun _ => window, ?_⟩
  · rintro _ _ ⟨⟩
    exact running rfl
  · rintro _ _ _ ⟨⟩
    exact ended

theorem nothing_arrives (h : Conduct phase out inc) (flowing : phase.result ≠ none)
    (short : inc.log.length ≤ 2 * pairIdSize) (unfinished : inc.fin = false) {arrival : Arrival}
    (orderly : arrival.Orderly) : inc.arrive arrival = none := by
  have window := h.window flowing
  cases arrival with
  | bytes count w =>
    rw [Link.arrive, if_neg]
    omega
  | eof w shutdown => simp [Link.arrive, unfinished]
  | error | timeout => cases orderly

end Conduct

namespace Net
variable {z : HistoryCodec UInt8} {n n' : Net} {a : Action}

def Conducted (n : Net) : Prop :=
  ∀ p s, Conduct ((n.host p).sides s) (n.link s p) (n.link s p.other)

/-- No decoder fails on what has arrived for it. -/
def Decodes (z : HistoryCodec UInt8) (n : Net) : Prop :=
  ∀ p s res task count w r pos, (n.host p).sides s = .flowing res task .running →
    (n.link s p.other).arrive (.bytes count w) = some (r, pos) → w = .ok →
      (decoderTurn z ((n.host p).lru.pairs res.q2sPair).decoder r).result = none

theorem step_conduct (conducted : n.Conducted) (decodes : n.Decodes z) (orderly : a.Orderly)
    (hs : Step z n a n') :
    Conduct ((n'.host a.party).sides a.stream) (n'.link a.stream a.party)
      (n'.link a.stream a.party.other) := by
  have before := conducted a.party a.stream
  cases hs with
    simp only [Action.party, Action.stream, put_host, put_link, update_host, update_out,
      update_inc] at before ⊢
  | scan phase _ _ sides | reuse phase sides _ | create phase sides _ _ =>
    rw [phase] at before
    rw [sides_self sides]
    exact .pending (by simp) rfl (before.blank rfl) (before.early rfl)
  | hit phase _ _ sides _ _ | miss phase _ _ sides _ _ =>
    rw [phase] at before
    rw [sides_self sides]
    exact .pending (by simp) rfl (before.blank rfl) (by simp [pairIdSize])
  | sendId phase _ | sendAck phase _ =>
    rw [phase] at before ⊢
    exact .pending (by simp) rfl (before.blank rfl) (before.early rfl)
  | complete phase _ heard sides _ =>
    rw [phase] at before
    rw [sides_self sides]
    exact .flowing (fun _ => (before.blank rfl).2.2) ⟨le_rfl, heard⟩ fun stopped => absurd rfl stopped
  | fail => exact orderly.elim
  | encode phase _ sides _ =>
    rw [phase] at before
    rw [sides_self sides]
    refine .flowing (fun running => ?_) (before.window (by simp [Phase.result])) (before.ended _ _ _ rfl)
    -- the channel is finished in the turn that ends the task
    cases ended : EncoderTurn.result _ with
    | none => rfl
    | some result => rw [ended] at running; cases running
  | @decode p s arrival r pos res task t h arrived phase turn sides _ =>
    rw [phase] at before
    rw [sides_self sides]
    have window := before.window (by simp [Phase.result])
    have running : task = .running → (n.link s p).fin = false := by
      rintro rfl
      exact before.running _ _ rfl
    cases arrival with
    | bytes count w =>
      have going : t.result = none := turn ▸ decodes p s res task count w r pos phase arrived orderly
      rw [going]
      simp only [Link.arrive, Option.ite_none_right_eq_some, Option.some.injEq, Prod.mk.injEq] at arrived
      obtain ⟨enough, _, rfl⟩ := arrived
      exact .flowing running ⟨by simp; omega, enough.2⟩ fun stopped => absurd rfl stopped
    | eof w shutdown =>
      simp only [Link.arrive, Option.ite_none_right_eq_some, Option.some.injEq, Prod.mk.injEq] at arrived
      obtain ⟨⟨all, finished⟩, _, rfl⟩ := arrived
      exact .flowing running window fun _ => ⟨finished, List.drop_eq_nil_of_le (by simp only [all]; omega)⟩
    | error | timeout => exact orderly.elim
  | settleS2q phase sides _ =>
    rw [phase] at before
    rw [sides_self sides]
    exact .flowing (by simp) (before.window (by simp [Phase.result])) (before.ended _ _ _ rfl)
  | @settleQ2s p s res t _ _ phase sides _ =>
    rw [phase] at before
    rw [sides_self sides]
    refine .flowing ?_ (before.window (by simp [Phase.result])) fun _ => before.ended _ _ _ rfl (by simp)
    rintro rfl
    exact before.running _ _ rfl
  | evict => exact before

theorem Step.out_unfinished (conducted : n.Conducted) (orderly : a.Orderly) (hs : Step z n a n') :
    n'.link a.stream a.party = n.link a.stream a.party ∨
      ((n.link a.stream a.party).fin = false ∧
        (n'.link a.stream a.party).pos = (n.link a.stream a.party).pos) := by
  have before := conducted a.party a.stream
  cases hs with
    simp only [Action.party, Action.stream, put_link, update_out, true_or] at before ⊢
  | sendId phase _ | sendAck phase _ => exact Or.inr ⟨(before.blank (by rw [phase]; rfl)).2.2, trivial⟩
  | encode phase _ _ _ => exact Or.inr ⟨before.running _ _ phase, trivial⟩
  | fail => exact orderly.elim

theorem Step.inc_blank (wire : n.Wire) (conducted : n.Conducted) (orderly : a.Orderly) (hs : Step z n a n')
    (pending : ((n.host a.party.other).sides a.stream).result = none) :
    (n'.link a.stream a.party.other).read = [] ∧ (n'.link a.stream a.party.other).written = [] := by
  have other := conducted a.party.other a.stream
  have blank := other.blank pending
  cases hs with
    simp only [Action.party, Action.stream, put_link, update_inc] at blank pending other ⊢
  | @decode p s arrival r pos res task t h arrived phase _ _ _ =>
    have nothing := (conducted p s).nothing_arrives (by simp [phase, Phase.result])
      ((wire p.other s).no_data other.alive pending).1 blank.2.2 orderly
    exact absurd (nothing.symm.trans arrived) (by simp)
  | fail => exact orderly.elim
  | _ => exact ⟨blank.1, blank.2.1⟩

theorem Step.inc_fin (hs : Step z n a n') :
    (n'.link a.stream a.party.other).fin = (n.link a.stream a.party.other).fin := by
  cases hs <;> simp [Action.stream, Action.party]

theorem step_conducted (own : n.Owned) (wire : n.Wire) (conducted : n.Conducted) (decodes : n.Decodes z)
    (orderly : a.Orderly) (hs : n.step z a = some n') : n'.Conducted := by
  have spec := step_spec own hs
  have moved := step_local own hs
  apply moved.ends conducted
  · exact step_conduct conducted decodes orderly spec
  · have before := conducted a.party.other a.stream
    rw [Party.other_other] at before
    rw [moved.host]
    refine ⟨before.alive, fun pending => ?_, fun res task running => ?_, fun pending => ?_,
      fun flowing => ?_, ?_⟩
    · obtain ⟨read, written⟩ := spec.inc_blank wire conducted orderly pending
      exact ⟨read, written, spec.inc_fin.trans (before.blank pending).2.2⟩
    · exact spec.inc_fin.trans (before.running res task running)
    · rcases spec.out_unfinished conducted orderly with same | ⟨_, pos⟩
      · rw [same]
        exact before.early pending
      · rw [pos]
        exact before.early pending
    · have window := before.window flowing
      have grown := moved.out.length_le
      rcases spec.out_unfinished conducted orderly with same | ⟨_, pos⟩
      · rwa [same]
      · rw [pos]
        omega
    · intro res t u phase stopped
      have ended := before.ended res t u phase stopped
      rcases spec.out_unfinished conducted orderly with same | ⟨unfinished, _⟩
      · rwa [same]
      · exact absurd (ended.1.symm.trans unfinished) (by simp)

end Net
end Rstun.Codec
