import Mathlib.Logic.Function.Basic

/-!
# Exclusive holding

A slot function says what each slot holds, if anything. It is exclusive when no value is held by
two slots. The lemmas say which slot updates keep that. `Mutual` says that a slot function and one from
the values back to the slots agree.
-/

namespace Slots

variable {K V W : Type}

def Exclusive (f : K → Option V) : Prop := ∀ ⦃k k' : K⦄ ⦃v : V⦄, f k = some v → f k' = some v → k = k'

theorem Exclusive.mono {f g : K → Option V} (h : Exclusive f)
    (sub : ∀ k v, g k = some v → f k = some v) : Exclusive g :=
  fun k k' v hk hk' => h (sub k v hk) (sub k' v hk')

variable [DecidableEq K] {f : K → Option V}

theorem of_update_none {k j : K} {v : V} (h : Function.update f k none j = some v) :
    j ≠ k ∧ f j = some v := by
  by_cases same : j = k
  · simp [same] at h
  · exact ⟨same, by simpa [same] using h⟩

theorem of_update_some {k j : K} {v w : V} (h : Function.update f k (some w) j = some v) :
    (j = k ∧ v = w) ∨ (j ≠ k ∧ f j = some v) := by
  by_cases same : j = k
  · subst same
    exact Or.inl ⟨rfl, by simpa using h.symm⟩
  · exact Or.inr ⟨same, by simpa [same] using h⟩

theorem Exclusive.clear (h : Exclusive f) (k : K) : Exclusive (Function.update f k none) :=
  h.mono fun _ _ held => (of_update_none held).2

/-- A value that no other slot holds may be put into a slot, whatever the slot held before. -/
theorem Exclusive.put (h : Exclusive f) {k : K} {v : V} (alone : ∀ j, f j = some v → j = k) :
    Exclusive (Function.update f k (some v)) := by
  intro i j w hi hj
  rcases of_update_some hi with ⟨rfl, rfl⟩ | ⟨_, oldI⟩ <;>
    rcases of_update_some hj with ⟨rfl, same⟩ | ⟨_, oldJ⟩
  · rfl
  · exact (alone j oldJ).symm
  · exact alone i (same ▸ oldI)
  · exact h oldI oldJ

theorem Exclusive.move (h : Exclusive f) {i k : K} {v : V} (held : f i = some v) :
    Exclusive (Function.update (Function.update f i none) k (some v)) := by
  refine (h.clear i).put fun j hj => ?_
  obtain ⟨different, hj⟩ := of_update_none hj
  exact absurd (h hj held) different

def Mutual (f : K → Option V) (g : V → Option K) : Prop := ∀ k v, f k = some v ↔ g v = some k

namespace Mutual

variable [DecidableEq V] {g : V → Option K}

/-- A value without a slot takes a slot without a value. -/
theorem claim (h : Mutual f g) {k : K} {v : V} (free : f k = none) (none : g v = none) :
    Mutual (Function.update f k (some v)) (Function.update g v (some k)) := by
  intro i w
  by_cases slot : i = k <;> by_cases value : w = v
  · simp [slot, value]
  · have other : g w ≠ some k := fun owns => by simp [(h k w).mpr owns] at free
    simp [slot, value, other, Ne.symm value]
  · have other : f i ≠ some v := fun holds => by simp [(h i v).mp holds] at none
    simp [slot, value, other, Ne.symm slot]
  · simpa [slot, value] using h i w

theorem release (h : Mutual f g) {k : K} {v : V} (owns : g v = some k) :
    Mutual (Function.update f k none) (Function.update g v none) := by
  intro i w
  by_cases slot : i = k <;> by_cases value : w = v
  · simp [slot, value]
  · have other : g w ≠ some k := by
      intro owns'
      have same := ((h k w).mpr owns').symm.trans ((h k v).mpr owns)
      exact value (Option.some.inj same)
    simp [slot, value, other]
  · have other : f i ≠ some v := by
      intro holds
      have same := ((h i v).mp holds).symm.trans owns
      exact slot (Option.some.inj same)
    simp [slot, value, other]
  · simpa [slot, value] using h i w

end Mutual

end Slots
