import Rstun.Base.XorShift
import Rstun.Codec.Lru

/-!
# The ids of codec pairs

`rand_id` mixes its seed with three xor-shifts and replaces 0, which is no id. The steps can be undone, so
that the only two seeds with the same id are 0 and the one whose image is the replacement.
-/

namespace Rstun.Codec
open XorShift

def xorshift (x : BitVec 128) : BitVec 128 := left 17 (right 7 (left 13 x))

def mix (x : BitVec 128) : PairId := if xorshift x = 0 then 1 else xorshift x

def seed (now tidHash : BitVec 128) : BitVec 128 := now ^^^ tidHash.rotateLeft 37

theorem randId_eq_mix (now tidHash : BitVec 128) : randId now tidHash = mix (seed now tidHash) := rfl

theorem xorshift_injective : Function.Injective xorshift := by
  apply Function.Injective.comp (left_injective (by decide))
  apply Function.Injective.comp (right_injective (by decide))
  exact left_injective (by decide)

theorem xorshift_zero : xorshift 0 = 0 := by decide

theorem xorshift_eq_zero_iff {x : BitVec 128} : xorshift x = 0 ↔ x = 0 := by
  rw [← xorshift_zero]
  exact xorshift_injective.eq_iff

theorem mix_zero : mix 0 = 1 := if_pos xorshift_zero

theorem mix_of_ne_zero {x : BitVec 128} (h : x ≠ 0) : mix x = xorshift x :=
  if_neg fun zero => h (xorshift_eq_zero_iff.mp zero)

theorem mix_ne_zero (x : BitVec 128) : mix x ≠ 0 := by
  unfold mix
  split
  · decide
  · assumption

/-- Different seeds have the same id only if one of them is 0 and the other is the seed whose image is 1. -/
theorem mix_eq_iff (s t : BitVec 128) :
    mix s = mix t ↔ s = t ∨ (s = 0 ∧ xorshift t = 1) ∨ (t = 0 ∧ xorshift s = 1) := by
  constructor
  · intro same
    by_cases hs : s = 0
    · by_cases ht : t = 0
      · exact .inl (hs.trans ht.symm)
      · rw [hs, mix_zero, mix_of_ne_zero ht] at same
        exact .inr (.inl ⟨hs, same.symm⟩)
    · by_cases ht : t = 0
      · rw [ht, mix_zero, mix_of_ne_zero hs] at same
        exact .inr (.inr ⟨ht, same⟩)
      · rw [mix_of_ne_zero hs, mix_of_ne_zero ht] at same
        exact .inl (xorshift_injective same)
  · rintro (rfl | ⟨rfl, one⟩ | ⟨rfl, one⟩)
    · rfl
    · rw [mix_zero, mix, one, if_neg (by decide)]
    · rw [mix_zero, mix, one, if_neg (by decide)]

/-- No entropy is lost: ids differ if the seeds do, but for the one seed that shares its id with 0. -/
theorem randId_collides_only :
    (∀ s, mix s ≠ 0) ∧ (∃! x, xorshift x = 1) ∧
    (∀ s t, s ≠ t → mix s = mix t → (s = 0 ∧ xorshift t = 1) ∨ (t = 0 ∧ xorshift s = 1)) ∧
    ∀ now tidHash now' tidHash', randId now tidHash = randId now' tidHash' →
      seed now tidHash = seed now' tidHash' ∨ seed now tidHash = 0 ∨ seed now' tidHash' = 0 := by
  refine ⟨mix_ne_zero, ?_, ?_, ?_⟩
  · exact (bijective_of_injective xorshift_injective).existsUnique 1
  · intro s t different same
    exact ((mix_eq_iff s t).mp same).resolve_left different
  · intro now tidHash now' tidHash' same
    rw [randId_eq_mix, randId_eq_mix] at same
    rcases (mix_eq_iff _ _).mp same with same | ⟨zero, _⟩ | ⟨zero, _⟩
    · exact .inl same
    · exact .inr (.inl zero)
    · exact .inr (.inr zero)

end Rstun.Codec
