import Mathlib.Data.List.Induction
import Mathlib.Data.Option.Basic

/-!
# Runs of a partial step function

A system is a step function `σ → α → Option σ`: the action chooses among the steps enabled in a
state, and `none` says that it is not enabled there. `run` performs a list of actions. `Along`
says that a condition on the action and on the state before it holds at every step of a run.
-/

namespace Transition

variable {σ α : Type} {step : σ → α → Option σ} {s t : σ} {acts : List α}

def run (step : σ → α → Option σ) : σ → List α → Option σ
  | s, [] => some s
  | s, a :: rest => (step s a).bind fun t => run step t rest

def Along (step : σ → α → Option σ) (C : σ → α → Prop) : σ → List α → Prop
  | _, [] => True
  | s, a :: rest => C s a ∧ ∀ t ∈ step s a, Along step C t rest

instance decidableAlong (step : σ → α → Option σ) (C : σ → α → Prop) [∀ s a, Decidable (C s a)] :
    (s : σ) → (acts : List α) → Decidable (Along step C s acts)
  | _, [] => .isTrue trivial
  | s, a :: rest =>
    have : ∀ t, Decidable (Along step C t rest) := fun t => decidableAlong step C t rest
    inferInstanceAs (Decidable (C s a ∧ ∀ t ∈ step s a, Along step C t rest))

theorem run_cons {a : α} {rest : List α} (h : run step s (a :: rest) = some t) :
    ∃ u, step s a = some u ∧ run step u rest = some t :=
  Option.bind_eq_some_iff.mp h

theorem run_append {xs ys : List α} :
    run step s (xs ++ ys) = some t ↔ ∃ u, run step s xs = some u ∧ run step u ys = some t := by
  induction xs generalizing s with
  | nil => simp [run]
  | cons a rest ih =>
    simp only [List.cons_append, run, Option.bind_eq_some_iff, ih]
    constructor
    · rintro ⟨v, first, u, tail, last⟩
      exact ⟨u, ⟨v, first, tail⟩, last⟩
    · rintro ⟨u, ⟨v, first, tail⟩, last⟩
      exact ⟨v, first, u, tail, last⟩

theorem run_snoc {xs : List α} {a : α} (h : run step s (xs ++ [a]) = some t) :
    ∃ u, run step s xs = some u ∧ step u a = some t := by
  obtain ⟨u, first, last⟩ := run_append.mp h
  obtain ⟨v, taken, rest⟩ := run_cons last
  obtain rfl : v = t := Option.some.inj rest
  exact ⟨u, first, taken⟩

theorem along_and {C D : σ → α → Prop} (hc : Along step C s acts) (hd : Along step D s acts) :
    Along step (fun s a => C s a ∧ D s a) s acts := by
  induction acts generalizing s with
  | nil => trivial
  | cons a rest ih =>
    exact ⟨⟨hc.1, hd.1⟩, fun t stepped => ih (hc.2 t stepped) (hd.2 t stepped)⟩

theorem along_append {C : σ → α → Prop} {xs ys : List α} (h : Along step C s (xs ++ ys)) :
    Along step C s xs ∧ ∀ t, run step s xs = some t → Along step C t ys := by
  induction xs generalizing s with
  | nil =>
    refine ⟨trivial, fun t ran => ?_⟩
    obtain rfl : s = t := Option.some.inj ran
    exact h
  | cons a rest ih =>
    refine ⟨⟨h.1, fun u stepped => (ih (h.2 u stepped)).1⟩, fun t ran => ?_⟩
    obtain ⟨u, stepped, tail⟩ := run_cons ran
    exact (ih (h.2 u stepped)).2 t tail

theorem along_of_forall {C : α → Prop} (h : ∀ a ∈ acts, C a) : Along step (fun _ a => C a) s acts := by
  induction acts generalizing s with
  | nil => trivial
  | cons a rest ih =>
    exact ⟨h a List.mem_cons_self, fun t _ => ih fun b member => h b (List.mem_cons_of_mem a member)⟩

/-- The invariant rule for runs whose steps all meet `C`. -/
theorem run_along_invariant {C : σ → α → Prop} {I : σ → Prop}
    (preserved : ∀ s a t, I s → C s a → step s a = some t → I t)
    (initial : I s) (along : Along step C s acts) (h : run step s acts = some t) : I t := by
  induction acts generalizing s with
  | nil =>
    obtain rfl : s = t := Option.some.inj h
    exact initial
  | cons a rest ih =>
    obtain ⟨u, stepped, tail⟩ := run_cons h
    exact ih (preserved s a u initial along.1 stepped) (along.2 u stepped) tail

theorem along_of_invariant {C D : σ → α → Prop} {I : σ → Prop}
    (preserved : ∀ s a t, I s → C s a → step s a = some t → I t)
    (stronger : ∀ s a, I s → C s a → D s a)
    (initial : I s) (along : Along step C s acts) : Along step D s acts := by
  induction acts generalizing s with
  | nil => trivial
  | cons a rest ih =>
    exact ⟨stronger s a initial along.1,
      fun t stepped => ih (preserved s a t initial along.1 stepped) (along.2 t stepped)⟩

theorem run_invariant {I : σ → Prop} (preserved : ∀ s a t, I s → step s a = some t → I t)
    (initial : I s) (h : run step s acts = some t) : I t :=
  run_along_invariant (fun s a t holds _ => preserved s a t holds) initial
    (along_of_forall (C := fun _ => True) fun _ _ => trivial) h

/-- The invariant rule for an invariant that also speaks about the actions so far. -/
theorem run_history {I : List α → σ → Prop}
    (preserved : ∀ acts s a t, I acts s → step s a = some t → I (acts ++ [a]) t)
    (initial : I [] s) (h : run step s acts = some t) : I acts t := by
  induction acts using List.reverseRecOn generalizing t with
  | nil =>
    obtain rfl : s = t := Option.some.inj h
    exact initial
  | append_singleton acts a ih =>
    obtain ⟨u, before, last⟩ := run_snoc h
    exact preserved acts u a t (ih before) last

/-- A measure that the actions of one kind use up and those of another kind add to. -/
theorem run_measure {I : σ → Prop} {C : α → Prop} {measure : σ → Nat} {uses adds : α → Bool} {amount : Nat}
    (preserved : ∀ s a t, I s → C a → step s a = some t → I t)
    (pays : ∀ s a t, I s → C a → step s a = some t →
      measure t + (if uses a then 1 else 0) ≤ measure s + amount * (if adds a then 1 else 0))
    (initial : I s) (allowed : ∀ a ∈ acts, C a) (h : run step s acts = some t) :
    measure t + acts.countP uses ≤ measure s + amount * acts.countP adds := by
  induction acts generalizing s with
  | nil =>
    obtain rfl : s = t := Option.some.inj h
    simp
  | cons a rest ih =>
    obtain ⟨u, stepped, later⟩ := run_cons h
    have first : C a := allowed a List.mem_cons_self
    have now := pays s a u initial first stepped
    have then_ := ih (preserved s a u initial first stepped)
      (fun b member => allowed b (List.mem_cons_of_mem a member)) later
    rw [List.countP_cons, List.countP_cons, Nat.mul_add]
    omega

/-- A measure that nothing adds to. -/
theorem run_uses {I : σ → Prop} {C : α → Prop} {m : σ → Nat} {uses : α → Bool}
    (preserved : ∀ s a t, I s → C a → step s a = some t → I t)
    (pays : ∀ s a t, I s → C a → step s a = some t → m t + (if uses a then 1 else 0) ≤ m s)
    (initial : I s) (allowed : ∀ a ∈ acts, C a) (h : run step s acts = some t) :
    m t + acts.countP uses ≤ m s := by
  have bound : m t + acts.countP uses ≤ m s + 0 * acts.countP fun _ => false :=
    run_measure preserved (fun s a t holds can stepped => by simpa using pays s a t holds can stepped) initial allowed h
  simpa using bound

/-- A measure that every action lowers bounds the length of a run. -/
theorem run_decreases {I : σ → Prop} {C : α → Prop} {m : σ → Nat}
    (preserved : ∀ s a t, I s → C a → step s a = some t → I t)
    (lowers : ∀ s a t, I s → C a → step s a = some t → m t < m s)
    (initial : I s) (allowed : ∀ a ∈ acts, C a) (h : run step s acts = some t) :
    m t + acts.length ≤ m s := by
  have bound : m t + acts.countP (fun _ => true) ≤ m s := run_uses preserved lowers initial allowed h
  simpa using bound

/-- A concrete run can be evaluated to see where it ends. -/
theorem run_reaches {P : σ → Prop} [DecidablePred P]
    (h : (run step s acts).any (fun t => decide (P t)) = true) :
    ∃ t, run step s acts = some t ∧ P t := by
  cases ran : run step s acts with
  | none => simp [ran] at h
  | some t => exact ⟨t, rfl, by simpa [ran] using h⟩

end Transition
