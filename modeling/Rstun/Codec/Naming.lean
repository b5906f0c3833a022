import Rstun.Codec.Agreement

/-!
# Ids and the pairs they name

An id travels to the other process and comes back, so whether it names one pair of a process depends
on the order of offers, misses and check-ins at both. A lookup that finds nothing cached under an id
gives the id to a new pair, also when another stream of the same process holds a pair of that id. As
long as that does not happen, ids name at most one pair.
-/

namespace Rstun.Codec
open Streaming Transition Slots

/-- In `slot` no id stands for two pairs, and every id is known. -/
structure Named (slot : Slot → Option (PairId × Ref)) (known : List PairId) : Prop where
  exclusive : Exclusive (Option.map Prod.fst ∘ slot)
  known : ∀ k id r, slot k = some (id, r) → id ∈ known

namespace Named
variable {slot : Slot → Option (PairId × Ref)} {known known' : List PairId} {k k' : Slot} {id : PairId}
  {r r' : Ref}

theorem same_slot (h : Named slot known) (held : slot k = some (id, r)) (held' : slot k' = some (id, r')) :
    k = k' :=
  h.exclusive (v := id) (by simp [held]) (by simp [held'])

theorem mono (h : Named slot known) (more : known ⊆ known') : Named slot known' :=
  ⟨h.exclusive, fun k id r held => more (h.known k id r held)⟩

theorem clear (h : Named slot known) (k : Slot) : Named (Function.update slot k none) known := by
  refine ⟨?_, fun j id r held => ?_⟩
  · rw [Function.comp_update]
    exact h.exclusive.clear k
  · exact h.known j id r (of_update_none held).2

theorem known_update (h : Named slot known) (member : id ∈ known) (j : Slot) (id' : PairId) (r' : Ref)
    (held : Function.update slot k (some (id, r)) j = some (id', r')) : id' ∈ known := by
  rcases of_update_some held with ⟨_, ⟨⟩⟩ | ⟨_, old⟩
  · exact member
  · exact h.known j id' r' old

theorem move (h : Named slot known) (held : slot k = some (id, r)) (k' : Slot) :
    Named (Function.update (Function.update slot k none) k' (some (id, r))) known := by
  refine ⟨?_, (h.clear k).known_update (h.known k id r held)⟩
  rw [Function.comp_update, Function.comp_update]
  exact h.exclusive.move (by simp [held])

theorem put (h : Named slot known) (member : id ∈ known) (alone : ∀ j a, slot j ≠ some (id, a)) :
    Named (Function.update slot k (some (id, r))) known := by
  refine ⟨?_, h.known_update member⟩
  rw [Function.comp_update]
  refine h.exclusive.put fun j held => ?_
  obtain ⟨⟨_, a⟩, there, rfl⟩ := Option.map_eq_some_iff.mp held
  exact absurd there (alone j a)

end Named

/-- The id that `rand_id` draws in this step, if it draws one. -/
def Action.drawn : Action → Option PairId
  | take _ _ now tidHash => some (randId now tidHash)
  | _ => none

def Action.lookingUp : Action → Option (Party × Nat)
  | lookup p s => some (p, s)
  | _ => none

namespace Net
variable {z : HistoryCodec UInt8} {n n' : Net} {a : Action}

/-- Every id that is drawn is new to both processes. -/
def Fresh (n : Net) (a : Action) : Prop := ∀ id ∈ a.drawn, id ∉ n.known

instance (n : Net) (a : Action) : Decidable (Fresh n a) :=
  decidable_of_iff (a.drawn.all (· ∉ n.known)) (by simp [Fresh, Option.all_eq_true])

/-- A lookup that finds nothing cached under an id finds that nothing has this id at all. -/
def Unattached (n : Net) (a : Action) : Prop :=
  ∀ ps ∈ a.lookingUp, (n.host ps.1).slot (.cached (n.remoteId ps.1 ps.2)) = none →
    ∀ k r, (n.host ps.1).slot k ≠ some (n.remoteId ps.1 ps.2, r)

structure Naming (n : Net) : Prop where
  owned : n.Owned
  wire : n.Wire
  named : ∀ p, Named (n.host p).slot n.known
  spoken : ∀ p s, pairIdSize ≤ (n.link s p).log.length → readId ((n.link s p).log.take pairIdSize) ∈ n.known

theorem Step.known (hs : Step z n a n') : n.known ⊆ n'.known := by
  cases hs <;> simp

theorem step_named (naming : n.Naming) (fresh : Fresh n a) (clean : Unattached n a)
    (hs : Step z n a n') : Named (n'.host a.party).slot n'.known := by
  have before := naming.named a.party
  cases hs with simp only [Action.party, put_host, put_known, update_host, update_known] at before ⊢
  | scan _ slot _ _ => rwa [slot]
  | reuse _ _ effect =>
    rw [effect.slot]
    exact (before.move effect.held _).mono (List.subset_cons_self _ _)
  | create _ _ drawn effect =>
    rw [effect.slot]
    refine (before.mono (List.subset_cons_self _ _)).put List.mem_cons_self fun j r held => ?_
    exact fresh _ (by simp [Action.drawn, drawn]) (before.known j _ r held)
  | sendId _ _ | sendAck _ _ => exact before
  | hit _ _ _ _ _ effect =>
    rw [effect.slot]
    exact before.move effect.held _
  | @miss p s _ _ _ _ _ _ heard _ absent effect =>
    rw [effect.slot]
    -- only here does a pair get an id that is not new
    exact before.put (naming.spoken p.other s heard) (clean (p, s) (by simp [Action.lookingUp]) absent)
  | complete _ _ _ _ effect | encode _ _ _ effect | decode _ _ _ _ effect => rwa [effect.slot]
  | fail _ slot _ _ =>
    rw [slot]
    exact (before.clear _).clear _
  | settleS2q phase _ effect =>
    rcases effect with ⟨_, _, back⟩ | dropped
    · rw [back.slot]
      exact before.move (by simp [phase, Phase.s2q]) _
    · rw [dropped.slot]
      exact before.clear _
  | settleQ2s phase _ effect =>
    rcases effect with ⟨_, _, back⟩ | dropped
    · rw [back.slot]
      exact before.move (by simp [phase, Phase.q2s]) _
    · rw [dropped.slot]
      exact before.clear _
  | evict =>
    rw [Host.slot_evict]
    exact before.clear _

theorem step_spoken (naming : n.Naming) (hs : Step z n a n')
    (long : pairIdSize ≤ (n'.link a.stream a.party).log.length) :
    readId ((n'.link a.stream a.party).log.take pairIdSize) ∈ n'.known := by
  by_cases old : pairIdSize ≤ (n.link a.stream a.party).log.length
  · obtain ⟨more, grown⟩ := hs.out
    rw [← grown, List.take_append_of_le_length old]
    exact hs.known (naming.spoken _ _ old)
  · cases hs with
      simp only [Action.party, Action.stream, put_link, update_out, put_known, update_known] at long old ⊢
    | @sendId p s id r phase _ =>
      have offered : (n.host p).slot (.s2q s) = some (id, r) := by simp [phase, Phase.s2q]
      rw [List.take_of_length_le (length_idBytes id).le, readId_idBytes]
      exact (naming.named p).known _ id r offered
    | @encode p s _ res _ _ _ phase _ _ _ =>
      have agrees := naming.wire p s
      rw [phase] at agrees
      have started : (idBytes res.s2qId).length ≤ (n.link s p).log.length :=
        ((List.prefix_append _ _).trans agrees.2.1).length_le
      rw [length_idBytes] at started
      exact absurd started old
    | sendAck _ short => exact absurd short.ge old
    | _ => exact absurd long old

theorem step_naming (naming : n.Naming) (fresh : Fresh n a) (clean : Unattached n a)
    (hs : n.step z a = some n') : n'.Naming := by
  have spec := step_spec naming.owned hs
  have moved := step_local naming.owned hs
  refine ⟨step_owned naming.owned hs, step_wire naming.owned naming.wire hs, fun p => ?_, fun p s long => ?_⟩
  · rcases a.party.eq_or_other p with rfl | rfl
    · exact step_named naming fresh clean spec
    · rw [moved.host]
      exact (naming.named _).mono spec.known
  · by_cases same : s = a.stream
    · subst same
      rcases a.party.eq_or_other p with rfl | rfl
      · exact step_spoken naming spec long
      · rw [moved.inc] at long ⊢
        exact spec.known (naming.spoken _ _ long)
    · rw [moved.link s same] at long ⊢
      exact spec.known (naming.spoken _ _ long)

theorem new_naming : new.Naming := by
  have empty : Host.new.slot = fun _ => none := by
    funext k
    cases k <;> rfl
  refine ⟨fun _ => Host.new_owned, fun _ _ => rfl, fun _ => ?_, fun _ _ long => ?_⟩
  · exact ⟨fun _ _ _ held => by simp [new, empty] at held, fun k id r held => by simp [new, empty] at held⟩
  · simp [new, pairIdSize] at long

/-- While no lookup gives away an id that is still in use, an id names at most one pair of a process,
and a check-in never displaces another pair. -/
theorem id_names_one_pair {acts : List Action} (h : run (step z) new acts = some n)
    (fresh : Along (step z) Fresh new acts) (clean : Along (step z) Unattached new acts) (p : Party) :
    Exclusive (Option.map Prod.fst ∘ (n.host p).slot) ∧
      ∀ k id r, (∀ id', k ≠ .cached id') → (n.host p).slot k = some (id, r) →
        (n.host p).lru.cache.lookup id = none := by
  have naming : n.Naming := run_along_invariant (I := Naming)
    (fun _ _ _ naming cond hs => step_naming naming cond.1 cond.2 hs) new_naming (along_and fresh clean) h
  refine ⟨(naming.named p).exclusive, fun k id r stream held => ?_⟩
  cases present : (n.host p).lru.cache.lookup id with
  | none => rfl
  | some r' => exact absurd ((naming.named p).same_slot held (Host.slot_cached present)) (stream id)

/-! ### Checking the condition on a concrete run -/

/-- `Unattached` as it can be evaluated when only the first `bound` streams are in use. -/
def UnattachedBelow (bound : Nat) (n : Net) (a : Action) : Prop :=
  a.stream < bound ∧ ∀ ps ∈ a.lookingUp,
    (n.host ps.1).slot (.cached (n.remoteId ps.1 ps.2)) = none → ∀ t < bound,
      ((n.host ps.1).slot (.s2q t)).map Prod.fst ≠ some (n.remoteId ps.1 ps.2) ∧
      ((n.host ps.1).slot (.q2s t)).map Prod.fst ≠ some (n.remoteId ps.1 ps.2)

instance (bound : Nat) (n : Net) (a : Action) : Decidable (UnattachedBelow bound n a) :=
  inferInstanceAs (Decidable (_ ∧ ∀ ps ∈ a.lookingUp, _ → ∀ t < bound, _ ∧ _))

def Within (bound : Nat) (n : Net) : Prop :=
  n.Owned ∧ ∀ p t, bound ≤ t → (n.host p).sides t = .idle

theorem unattached_of_below {bound : Nat} (within : n.Within bound) (below : UnattachedBelow bound n a) :
    Unattached n a := by
  intro ps looking absent k r held
  have name : ((n.host ps.1).slot k).map Prod.fst = some (n.remoteId ps.1 ps.2) := by rw [held]; rfl
  cases k with
  | cached id =>
    obtain ⟨_, _, eq⟩ := Option.map_eq_some_iff.mp held
    obtain rfl := congrArg Prod.fst eq
    exact absurd (absent.symm.trans held) (by simp)
  | s2q t =>
    by_cases inUse : t < bound
    · exact (below.2 ps looking absent t inUse).1 name
    · simp [within.2 ps.1 t (by omega), Phase.s2q] at held
  | q2s t =>
    by_cases inUse : t < bound
    · exact (below.2 ps looking absent t inUse).2 name
    · simp [within.2 ps.1 t (by omega), Phase.q2s] at held

theorem along_unattached (bound : Nat) {acts : List Action}
    (below : Along (step z) (UnattachedBelow bound) new acts) : Along (step z) Unattached new acts := by
  refine along_of_invariant (I := Within bound) ?_ (fun _ _ => unattached_of_below) ?_ below
  · intro n a n' within below hs
    have moved := step_local within.1 hs
    refine ⟨step_owned within.1 hs, fun p t outside => ?_⟩
    rcases a.party.eq_or_other p with rfl | rfl
    · rw [moved.frame.sides t (by have := below.1; omega)]
      exact within.2 _ t outside
    · rw [moved.host]
      exact within.2 _ t outside
  · exact ⟨fun _ => Host.new_owned, fun _ _ _ => rfl⟩

/-- Two streams one after the other. In the second each process offers the pair it made itself. -/
def ownOffers : List Action :=
  handshake 0 [] [] 1 ++ transfer .left 0 [7] 1 ++ transfer .right 0 [8] 1 ++
    handshake 1 [⟨randId 1 0, 0⟩, ⟨randId 2 0, 1⟩] [⟨randId 2 0, 0⟩, ⟨randId 1 0, 1⟩] 3

theorem id_names_one_pair_ownOffers : ∃ n, run (step (framed [])) new ownOffers = some n ∧
    (n.host .left).slot (.s2q 1) = some (randId 1 0, 0) ∧
    (n.host .left).slot (.q2s 1) = some (randId 2 0, 1) ∧
    Exclusive (Option.map Prod.fst ∘ (n.host .left).slot) := by
  obtain ⟨n, ran, sent, received⟩ : ∃ n, run (step (framed [])) new ownOffers = some n ∧
      (n.host .left).slot (.s2q 1) = some (randId 1 0, 0) ∧
      (n.host .left).slot (.q2s 1) = some (randId 2 0, 1) := run_reaches (by decide +kernel)
  have fresh : Along (step (framed [])) Fresh new ownOffers := by decide +kernel
  have clean := along_unattached 2 (show Along (step (framed [])) _ new ownOffers by decide +kernel)
  exact ⟨n, ran, sent, received, (id_names_one_pair ran fresh clean .left).1⟩

/-- Both processes offer the pair that the left one made in the first stream. -/
def sameOffer : List Action :=
  handshake 0 [] [] 1 ++ transfer .left 0 [7] 1 ++ transfer .right 0 [8] 1 ++
    handshake 1 [⟨randId 1 0, 0⟩, ⟨randId 2 0, 1⟩] [⟨randId 1 0, 1⟩, ⟨randId 2 0, 0⟩] 3

theorem id_names_two_pairs : ∃ n, run (step (framed [])) new sameOffer = some n ∧
    Along (step (framed [])) Fresh new sameOffer ∧
    (n.host .left).slot (.s2q 1) = some (randId 1 0, 0) ∧
    (n.host .left).slot (.q2s 1) = some (randId 1 0, 2) := by
  obtain ⟨n, ran, held⟩ : ∃ n, run (step (framed [])) new sameOffer = some n ∧
      (n.host .left).slot (.s2q 1) = some (randId 1 0, 0) ∧
      (n.host .left).slot (.q2s 1) = some (randId 1 0, 2) := run_reaches (by decide +kernel)
  exact ⟨n, ran, by decide +kernel, held⟩

end Net
end Rstun.Codec
