import Mathlib.Data.List.Infix

/-!
# The first occurrence of a pattern

`position` searches a list for a pattern. What it finds is decided by the part of the list up to the end
of the first occurrence: more elements do not move it, and a shorter part does not have it.
-/

namespace Scan

variable {α : Type} {pat l r : List α} {i j : Nat}

/-- An occurrence that ends within the first part is one there. -/
theorem prefix_drop_append (within : j + pat.length ≤ l.length) :
    pat <+: (l ++ r).drop j ↔ pat <+: l.drop j := by
  rw [List.drop_append_of_le_length (by omega)]
  constructor
  · intro occurs
    exact List.prefix_of_prefix_length_le occurs (List.prefix_append _ _) (by rw [List.length_drop]; omega)
  · intro occurs
    exact occurs.trans (List.prefix_append _ _)

variable [DecidableEq α]

def position (pat l : List α) : Option Nat := l.tails.findIdx? fun tail => pat <+: tail

theorem position_eq_some_iff :
    position pat l = some i ↔
      i ≤ l.length ∧ pat <+: l.drop i ∧ ∀ j < i, ¬ pat <+: l.drop j := by
  simp only [position, List.findIdx?_eq_some_iff_getElem, List.getElem_tails, List.length_tails,
    decide_eq_true_eq, Nat.lt_succ_iff, exists_prop]

theorem position_add_length_le (h : position pat l = some i) : i + pat.length ≤ l.length := by
  obtain ⟨bound, occurs, _⟩ := position_eq_some_iff.mp h
  have fits := occurs.length_le
  rw [List.length_drop] at fits
  omega

theorem position_append_left (h : position pat l = some i) : position pat (l ++ r) = some i := by
  have fits := position_add_length_le h
  obtain ⟨bound, occurs, first⟩ := position_eq_some_iff.mp h
  refine position_eq_some_iff.mpr ⟨by rw [List.length_append]; omega, ?_, ?_⟩
  · exact (prefix_drop_append fits).mpr occurs
  · intro j before
    rw [prefix_drop_append (by omega)]
    exact first j before

theorem position_of_append (h : position pat (l ++ r) = some i) (within : i + pat.length ≤ l.length) :
    position pat l = some i := by
  obtain ⟨_, occurs, first⟩ := position_eq_some_iff.mp h
  refine position_eq_some_iff.mpr ⟨by omega, (prefix_drop_append within).mp occurs, ?_⟩
  intro j before
  rw [← prefix_drop_append (by omega)]
  exact first j before

theorem position_of_append_short (h : position pat (l ++ r) = some i) (short : l.length < i + pat.length) :
    position pat l = none := by
  cases found : position pat l with
  | none => rfl
  | some j =>
    have fits := position_add_length_le found
    have same : some i = some j := h.symm.trans (position_append_left found)
    cases same
    omega

end Scan
