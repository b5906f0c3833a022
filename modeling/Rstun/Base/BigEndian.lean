import Mathlib.Data.UInt
import Mathlib.Tactic.Ring

/-!
# Big-endian byte strings

`beBytes width n` is the last `width` base-256 digits of `n`, most significant first, and `ofBe`
reads such a string back. They are inverse to each other below `256 ^ width`.
-/

namespace BigEndian

def beBytes : Nat → Nat → List UInt8
  | 0, _ => []
  | width + 1, n => UInt8.ofNat (n / 256 ^ width) :: beBytes width n

def ofBe : List UInt8 → Nat
  | [] => 0
  | b :: rest => b.toNat * 256 ^ rest.length + ofBe rest

@[simp] theorem length_beBytes (width n : Nat) : (beBytes width n).length = width := by
  induction width with
  | zero => rfl
  | succ width ih => simp [beBytes, ih]

theorem ofBe_beBytes_mod (width n : Nat) : ofBe (beBytes width n) = n % 256 ^ width := by
  induction width with
  | zero => simp [beBytes, ofBe, Nat.mod_one]
  | succ width ih =>
    have digit : (UInt8.ofNat (n / 256 ^ width)).toNat = n / 256 ^ width % 256 := rfl
    rw [beBytes, ofBe, length_beBytes, ih, digit, Nat.pow_succ, Nat.mod_mul]
    ring

theorem ofBe_beBytes {width n : Nat} (small : n < 256 ^ width) : ofBe (beBytes width n) = n := by
  rw [ofBe_beBytes_mod, Nat.mod_eq_of_lt small]

theorem ofBe_lt (bytes : List UInt8) : ofBe bytes < 256 ^ bytes.length := by
  induction bytes with
  | nil => simp [ofBe]
  | cons b rest ih =>
    have digit : b.toNat < 256 := b.toNat_lt
    have bound : (b.toNat + 1) * 256 ^ rest.length ≤ 256 * 256 ^ rest.length := Nat.mul_le_mul_right _ digit
    rw [ofBe, List.length_cons, Nat.pow_succ, Nat.mul_comm _ 256]
    rw [Nat.add_mul] at bound
    omega

theorem beBytes_add (width n high : Nat) : beBytes width (high * 256 ^ width + n) = beBytes width n := by
  induction width generalizing high with
  | zero => rfl
  | succ width ih =>
    have digits : high * 256 ^ (width + 1) + n = high * 256 * 256 ^ width + n := by ring
    have quotient : (high * 256 * 256 ^ width + n) / 256 ^ width = high * 256 + n / 256 ^ width := by
      rw [Nat.add_comm, Nat.add_mul_div_right _ _ (Nat.pow_pos (by decide)), Nat.add_comm]
    have digit : UInt8.ofNat (high * 256 + n / 256 ^ width) = UInt8.ofNat (n / 256 ^ width) := by
      apply UInt8.toNat_inj.mp
      simp
    rw [beBytes, digits, quotient, digit, ih, beBytes]

theorem beBytes_ofBe (bytes : List UInt8) : beBytes bytes.length (ofBe bytes) = bytes := by
  induction bytes with
  | nil => rfl
  | cons b rest ih =>
    have quotient : (b.toNat * 256 ^ rest.length + ofBe rest) / 256 ^ rest.length = b.toNat := by
      rw [Nat.add_comm, Nat.add_mul_div_right _ _ (Nat.pow_pos (by decide)), Nat.div_eq_of_lt (ofBe_lt rest),
        Nat.zero_add]
    rw [List.length_cons, ofBe, beBytes, quotient, UInt8.ofNat_toNat, beBytes_add, ih]

end BigEndian
