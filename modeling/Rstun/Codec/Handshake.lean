import Rstun.Codec.Agreement

/-!
# The handshake comes to an end

`exchange_pair_id` makes six steps at each end of a stream: it looks for a pair, takes it out, sends the id,
looks up the id that has arrived, sends the ack and takes the ack that has arrived. Two of them wait for
bytes of the other end. Whatever other streams do in between, the ends of a stream never wait for each
other, and both return after twelve steps.
-/

namespace Rstun.Codec
open Streaming Transition

/-- The steps of `exchange_pair_id` on the stream `s`, at either end. -/
def Action.handshakes (s : Nat) : Action → Bool
  | scan _ t _ | take _ t _ _ | send _ t | lookup _ t | complete _ t => t = s
  | fail _ _ | encode _ _ _ | decode _ _ _ | settleS2q _ _ | settleQ2s _ _ | evict _ _ => false

/-- How many of its steps an end has made, given how many bytes it has sent. -/
def Phase.progress (phase : Phase) (sent : Nat) : Nat :=
  match phase with
  | idle | failed => 0
  | scanned _ => 1
  | offered _ _ => if sent < pairIdSize then 2 else 3
  | acked _ _ _ _ _ => if sent < 2 * pairIdSize then 4 else 5
  | flowing _ _ _ => 6

theorem Phase.progress_le (phase : Phase) (sent : Nat) : phase.progress sent ≤ 6 := by
  unfold progress
  split
  · omega
  · omega
  · omega
  · split <;> omega
  · split <;> omega
  · omega

theorem Phase.progress_eq_six {phase : Phase} {sent : Nat} :
    phase.progress sent = 6 ↔ phase.result.isSome = true := by
  cases phase with
  | idle | scanned _ | failed | flowing _ _ _ => simp [progress, result]
  | offered _ _ | acked _ _ _ _ _ =>
    simp only [progress, result]
    split <;> simp

namespace Net
variable {z : HistoryCodec UInt8} {n n' : Net} {a : Action} {s : Nat}

def progress (n : Net) (s : Nat) (p : Party) : Nat := ((n.host p).sides s).progress (n.link s p).log.length

/-- How far a step takes the end that makes it. -/
theorem step_progress_self (wire : n.Wire) (hs : Step z n a n')
    (unbroken : ∀ p, a ≠ .fail p a.stream) :
    n'.progress a.stream a.party =
      n.progress a.stream a.party + if a.handshakes a.stream = true then 1 else 0 := by
  have before := wire a.party a.stream
  unfold progress
  cases hs with
    simp only [Action.party, Action.stream, Action.handshakes, put_host, put_link, update_host, update_out,
      decide_true, if_true, Bool.false_eq_true, if_false, Nat.add_zero] at before unbroken ⊢
  | scan phase _ _ sides =>
    rw [phase, sides_self sides]
    rfl
  | reuse phase sides _ | create phase sides _ _ =>
    rw [phase] at before
    have unsent : (n.link _ _).log = [] := before
    simp [phase, sides_self sides, unsent, Phase.progress, pairIdSize]
  | sendId phase empty =>
    simp [phase, empty, Phase.progress, pairIdSize]
  | sendAck phase short =>
    simp [phase, short, Phase.progress, pairIdSize]
  | hit phase sent _ sides _ _ | miss phase sent _ sides _ _ =>
    simp [phase, sides_self sides, sent, Phase.progress, pairIdSize]
  | complete phase sent _ sides _ =>
    simp [phase, sides_self sides, sent, Phase.progress]
  | @fail p _ _ _ _ _ _ => exact absurd rfl (unbroken p)
  | encode phase _ sides _ | decode _ phase _ sides _ | settleS2q phase sides _ | settleQ2s phase sides _ =>
    rw [phase, sides_self sides]
    rfl
  | evict => rfl

/-- An end counts the steps of `exchange_pair_id` and no others. -/
theorem step_progress (own : n.Owned) (wire : n.Wire) (hs : n.step z a = some n')
    (unbroken : ∀ p, a ≠ .fail p s) :
    n'.progress s a.party = n.progress s a.party + (if a.handshakes s = true then 1 else 0) ∧
      n'.progress s a.party.other = n.progress s a.party.other := by
  have moved := step_local own hs
  by_cases here : a.stream = s
  · subst here
    refine ⟨step_progress_self wire (step_spec own hs) unbroken, ?_⟩
    rw [progress, moved.host, moved.inc, ← progress]
  · have elsewhere : a.handshakes s = false := by
      cases a <;> simp_all [Action.handshakes, Action.stream]
    have there : s ≠ a.stream := fun same => here same.symm
    rw [elsewhere]
    constructor
    · rw [progress, moved.frame.sides s there, moved.link s there, ← progress]
      rfl
    · rw [progress, moved.host, moved.link s there, ← progress]

theorem step_alive (own : n.Owned) (hs : n.step z a = some n') (unbroken : ∀ p, a ≠ .fail p s)
    (alive : ∀ p, (n.host p).sides s ≠ .failed) (q : Party) : (n'.host q).sides s ≠ .failed := by
  have moved := step_local own hs
  rcases a.party.eq_or_other q with rfl | rfl
  · by_cases here : a.stream = s
    · subst here
      have before := alive a.party
      cases step_spec own hs with
        simp only [Action.party, Action.stream, put_host, update_host] at before unbroken ⊢
      | @fail p _ _ _ _ _ _ => exact absurd rfl (unbroken p)
      | sendId _ _ | sendAck _ _ | evict => exact before
      | scan _ _ _ sides | reuse _ sides _ | create _ sides _ _ | hit _ _ _ sides _ _ | miss _ _ _ sides _ _
      | complete _ _ _ sides _ | encode _ _ sides _ | decode _ _ _ sides _ | settleS2q _ sides _
      | settleQ2s _ sides _ =>
        rw [sides_self sides]
        intro broken
        cases broken
    · rw [moved.frame.sides s fun same => here same.symm]
      exact alive _
  · rw [moved.host]
    exact alive _

/-- An end that has come so far has sent its id, or its id and its ack. -/
theorem sent_of_progress {p : Party} (wire : n.Wire) :
    (3 ≤ n.progress s p → pairIdSize ≤ (n.link s p).log.length) ∧
    (5 ≤ n.progress s p → 2 * pairIdSize ≤ (n.link s p).log.length) := by
  have agrees := wire p s
  unfold progress
  cases phase : (n.host p).sides s with
  | idle | scanned _ | failed => simp [Phase.progress]
  | offered id r =>
    simp only [Phase.progress]
    split <;> omega
  | acked id r remoteId r' ack =>
    rw [phase] at agrees
    simp only [Phase.progress]
    obtain ⟨_, first | both, _⟩ := agrees
    · simp [first, pairIdSize]
    · simp [both, pairIdSize]
  | flowing res s2q q2s =>
    rw [phase] at agrees
    have length := agrees.2.1.length_le
    rw [List.length_append, length_idBytes, length_idBytes] at length
    constructor <;> intro _ <;> omega

/-- An end that is not ahead of the other has what it waits for. -/
theorem can_advance {p : Party} (wire : n.Wire) (alive : (n.host p).sides s ≠ .failed)
    (behind : n.progress s p ≤ n.progress s p.other) (unfinished : n.progress s p < 6) :
    ∃ a, a.handshakes s = true ∧ (n.step z a).isSome = true := by
  have agrees := wire p s
  obtain ⟨idSent, ackSent⟩ := sent_of_progress (s := s) (p := p.other) wire
  cases phase : (n.host p).sides s with
  | idle =>
    refine ⟨.scan p s (n.host p).lru.cache.entries, by simp [Action.handshakes], ?_⟩
    simp [step, Host.scan, phase]
  | scanned reuse =>
    refine ⟨.take p s 0 0, by simp [Action.handshakes], ?_⟩
    simp [step, Host.take, phase]
  | offered id r =>
    rw [phase] at agrees
    obtain ⟨_, empty | first⟩ := agrees
    · refine ⟨.send p s, by simp [Action.handshakes], ?_⟩
      simp [step, Net.send, phase, empty]
    · have waiting : n.progress s p = 3 := by simp [progress, phase, Phase.progress, first]
      have heard := idSent (by omega)
      refine ⟨.lookup p s, by simp [Action.handshakes], ?_⟩
      simp [step, Host.lookup, phase, first, heard]
  | acked id r remoteId r' reply =>
    rw [phase] at agrees
    obtain ⟨_, first | both, _⟩ := agrees
    · refine ⟨.send p s, by simp [Action.handshakes], ?_⟩
      simp [step, Net.send, phase, first]
    · have waiting : n.progress s p = 5 := by simp [progress, phase, Phase.progress, both, pairIdSize]
      have heard := ackSent (by omega)
      refine ⟨.complete p s, by simp [Action.handshakes], ?_⟩
      have sent : pairIdSize + pairIdSize = 2 * pairIdSize := rfl
      simp [step, Host.complete, phase, both, heard, sent]
  | flowing res s2q q2s =>
    simp [progress, phase, Phase.progress] at unfinished
  | failed => exact absurd phase alive

/-- No stream has begun. The tables may hold anything. -/
structure Start (n : Net) : Prop where
  owned : n.Owned
  idle : ∀ p s, (n.host p).sides s = .idle
  links : ∀ s p, (n.link s p).log = []

/-- The state of the handshakes after the actions so far. -/
structure Shaking (s : Nat) (acts : List Action) (n : Net) : Prop where
  owned : n.Owned
  wire : n.Wire
  alive : (∀ p, .fail p s ∉ acts) → ∀ p, (n.host p).sides s ≠ .failed
  count : (∀ p, .fail p s ∉ acts) →
    n.progress s .left + n.progress s .right = acts.countP (Action.handshakes s)

theorem Start.shaking (start : n.Start) (s : Nat) : Shaking s [] n where
  owned := start.owned
  wire p t := by
    rw [start.idle p t]
    exact start.links t p
  alive _ p := by
    rw [start.idle p s]
    intro broken
    cases broken
  count _ := by
    simp [progress, start.idle, Phase.progress]

theorem step_shaking {acts : List Action} (before : Shaking s acts n) (hs : n.step z a = some n') :
    Shaking s (acts ++ [a]) n' where
  owned := step_owned before.owned hs
  wire := step_wire before.owned before.wire hs
  alive unbroken := by
    have earlier : ∀ p, .fail p s ∉ acts := fun p broken => unbroken p (List.mem_append_left _ broken)
    exact step_alive before.owned hs (fun p broken => unbroken p (by simp [broken])) (before.alive earlier)
  count unbroken := by
    have earlier : ∀ p, .fail p s ∉ acts := fun p broken => unbroken p (List.mem_append_left _ broken)
    obtain ⟨self, other⟩ := step_progress (s := s) before.owned before.wire hs
      (fun p broken => unbroken p (by simp [broken]))
    have sum := before.count earlier
    rw [List.countP_append, List.countP_singleton]
    cases party : a.party <;> rw [party] at self other <;> simp only [Party.other] at other <;> omega

/-- Whatever the tables hold and the other streams do: unless it is broken off at one end, a handshake takes
twelve steps, after which both ends have returned, and before that one of its steps can be made. -/
theorem handshake_completes {acts : List Action} (start : n.Start) (h : run (step z) n acts = some n')
    (unbroken : ∀ p, .fail p s ∉ acts) :
    acts.countP (Action.handshakes s) ≤ 12 ∧
    (acts.countP (Action.handshakes s) = 12 ↔ ∀ p, ((n'.host p).sides s).result.isSome = true) ∧
    (acts.countP (Action.handshakes s) < 12 →
      ∃ a, a.handshakes s = true ∧ (n'.step z a).isSome = true) := by
  have shaking : Shaking s acts n' := run_history (fun _ _ _ _ before => step_shaking before) (start.shaking s) h
  have count := shaking.count unbroken
  have alive := shaking.alive unbroken
  have left : n'.progress s .left ≤ 6 := Phase.progress_le _ _
  have right : n'.progress s .right ≤ 6 := Phase.progress_le _ _
  have done : ∀ p, n'.progress s p = 6 ↔ ((n'.host p).sides s).result.isSome = true :=
    fun p => Phase.progress_eq_six
  refine ⟨by omega, ⟨fun all p => ?_, fun all => ?_⟩, fun some => ?_⟩
  · rw [← done]
    cases p <;> omega
  · have leftDone := (done .left).mpr (all .left)
    have rightDone := (done .right).mpr (all .right)
    omega
  · rcases Nat.le_total (n'.progress s .left) (n'.progress s .right) with behind | behind
    · exact can_advance (p := .left) shaking.wire (alive .left) behind (by omega)
    · exact can_advance (p := .right) shaking.wire (alive .right) behind (by omega)

/-- One stream is through, and of another one only the right end has begun. -/
def twoStreams : List Action :=
  [.scan .right 1 []] ++ handshake 0 [] [] 1 ++ [.take .right 1 9 0]

theorem handshake_completes_twoStreams : ∃ n', run (step (framed [])) new twoStreams = some n' ∧
    (∀ p, ((n'.host p).sides 0).result.isSome = true) ∧
    ∃ a, a.handshakes 1 = true ∧ (n'.step (framed []) a).isSome = true := by
  have start : new.Start := ⟨fun _ => Host.new_owned, fun _ _ => rfl, fun _ _ => rfl⟩
  obtain ⟨n', ran, _⟩ := run_reaches (P := fun _ : Net => True)
    (show (run (step (framed [])) new twoStreams).any _ = true by decide +kernel)
  obtain ⟨_, done, _⟩ := handshake_completes (s := 0) start ran (by simp [twoStreams, handshake])
  obtain ⟨_, _, more⟩ := handshake_completes (s := 1) start ran (by simp [twoStreams, handshake])
  exact ⟨n', ran, done.mp (by decide), more (by decide)⟩

end Net
end Rstun.Codec
