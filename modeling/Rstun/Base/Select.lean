import Mathlib.Data.Option.Basic

/-!
# Polling and cancellation

A future over a shared state is a poll function. `select` polls a signal and a task in either order,
and when the signal wins the task is dropped where it stands. `select_leaves` is the rule for it: each
place where the task may be dropped is an obligation of its own.
-/

namespace Async

variable {σ φ : Type} {I : σ → φ → Prop} {Q : σ → Prop}

/-- One poll of a future that is suspended at a point of type `φ`: what it does to the shared state,
and where it is suspended afterwards, unless it is ready. -/
abbrev Poll (σ φ : Type) := σ → φ → σ × Option φ

/-- A poll that is ready leaves the shared state in `Q`, one that is not leaves it in `I`. -/
def Leaves (I : σ → φ → Prop) (Q : σ → Prop) : σ × Option φ → Prop
  | (s, none) => Q s
  | (s, some f) => I s f

theorem Leaves.mono {I' : σ → φ → Prop} {Q' : σ → Prop} {result : σ × Option φ} (h : Leaves I Q result)
    (suspended : ∀ s f, I s f → I' s f) (ready : ∀ s, Q s → Q' s) : Leaves I' Q' result := by
  rcases result with ⟨s, _ | f⟩
  · exact ready s h
  · exact suspended s f h

theorem leaves_map {ψ : Type} {J : σ → ψ → Prop} {g : φ → ψ} {result : σ × Option φ} :
    Leaves J Q (result.map id (Option.map g)) ↔ Leaves (fun s f => J s (g f)) Q result := by
  rcases result with ⟨s, _ | f⟩ <;> rfl

/-- The signal is `none` while it is not ready. When the task is ready, `onTask` runs. -/
def select (signalFirst : Bool) (signal : σ → Option σ) (onTask : σ → σ) (task : Poll σ φ) : Poll σ φ :=
  fun s f =>
    match signalFirst, signal s with
    | true, some t => (t, none)
    | _, _ =>
      match task s f with
      | (t, none) => (onTask t, none)
      | (t, some g) =>
        match signalFirst, signal t with
        | false, some u => (u, none)
        | _, _ => (t, some g)

variable {signalFirst : Bool} {signal : σ → Option σ} {onTask : σ → σ} {task : Poll σ φ} {s : σ} {f : φ}

theorem select_leaves (unpolled : signalFirst = true → ∀ t ∈ signal s, Q t)
    (polled : (signalFirst = true → signal s = none) →
      Leaves (fun t g => I t g ∧ (signalFirst = false → ∀ u ∈ signal t, Q u)) (fun t => Q (onTask t))
        (task s f)) :
    Leaves I Q (select signalFirst signal onTask task s f) := by
  unfold select
  split
  · rename_i t ready
    exact unpolled rfl t ready
  · rename_i waiting
    replace polled := polled fun first => Option.eq_none_iff_forall_ne_some.mpr fun t => waiting t first
    split <;> rename_i result
    · rw [result] at polled
      exact polled
    · rw [result] at polled
      split
      · rename_i u ready
        exact polled.2 rfl u ready
      · exact polled.1

end Async
