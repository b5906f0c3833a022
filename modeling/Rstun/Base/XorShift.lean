import Mathlib.Data.BitVec
import Mathlib.Data.Fintype.EquivFin

/-!
# Xor-shifts

A step of a xor-shift generator adds to a word a shifted copy of itself. The shift discards bits, but the
step does not: a shift is linear and vanishes after some iterations.
-/

namespace XorShift

variable {w : Nat}

def left (k : Nat) (x : BitVec w) : BitVec w := x ^^^ (x <<< k)

def right (k : Nat) (x : BitVec w) : BitVec w := x ^^^ (x >>> k)

theorem injective_of_vanishes {f : BitVec w → BitVec w} (linear : ∀ x y, f (x ^^^ y) = f x ^^^ f y) {n : Nat}
    (vanishes : ∀ x, f^[n] x = 0) : Function.Injective fun x => x ^^^ f x := by
  intro x y same
  -- the difference of two words with the same image is a fixed point
  have fixed : f (x ^^^ y) = x ^^^ y := by
    have image : f x = x ^^^ (y ^^^ f y) := by
      have same' : x ^^^ f x = y ^^^ f y := same
      rw [← same', ← BitVec.xor_assoc, BitVec.xor_self, BitVec.zero_xor]
    rw [linear, image, BitVec.xor_assoc, BitVec.xor_assoc, BitVec.xor_self, BitVec.xor_zero]
  have zero : x ^^^ y = 0 := by
    rw [← Function.iterate_fixed fixed n, vanishes]
  exact BitVec.xor_eq_zero_iff.mp zero

theorem iterate_shiftLeft (k n : Nat) (x : BitVec w) :
    (fun x => x <<< k : BitVec w → BitVec w)^[n] x = x <<< (k * n) := by
  induction n with
  | zero => simp
  | succ n ih =>
    rw [Function.iterate_succ_apply', ih, ← BitVec.shiftLeft_add]
    rfl

theorem iterate_ushiftRight (k n : Nat) (x : BitVec w) :
    (fun x => x >>> k : BitVec w → BitVec w)^[n] x = x >>> (k * n) := by
  induction n with
  | zero => simp
  | succ n ih =>
    rw [Function.iterate_succ_apply', ih, ← BitVec.shiftRight_add]
    rfl

theorem left_injective {k : Nat} (positive : 0 < k) : Function.Injective (left k : BitVec w → BitVec w) := by
  apply injective_of_vanishes (n := w) (fun x y => BitVec.shiftLeft_xor_distrib x y k)
  intro x
  rw [iterate_shiftLeft]
  exact BitVec.shiftLeft_eq_zero (Nat.le_mul_of_pos_left w positive)

theorem right_injective {k : Nat} (positive : 0 < k) : Function.Injective (right k : BitVec w → BitVec w) := by
  apply injective_of_vanishes (n := w) (fun x y => BitVec.ushiftRight_xor_distrib x y k)
  intro x
  rw [iterate_ushiftRight]
  exact BitVec.ushiftRight_eq_zero (Nat.le_mul_of_pos_left w positive)

theorem bijective_of_injective {f : BitVec w → BitVec w} (injective : Function.Injective f) : Function.Bijective f := by
  have finite : Finite (BitVec w) := Finite.of_equiv (Fin (2 ^ w)) BitVec.equivFin.toEquiv.symm
  exact Finite.injective_iff_bijective.mp injective

end XorShift
