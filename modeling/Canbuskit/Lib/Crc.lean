import Mathlib.Algebra.Order.Ring.Int
import Mathlib.Data.List.Induction
import Mathlib.Algebra.Polynomial.Div
import Mathlib.Algebra.Field.ZMod
import Mathlib.Algebra.CharP.Two
import Mathlib.Tactic.LinearCombination

/-! Cyclic redundancy checks. A list of bits is a polynomial over the field of two elements, its
first bit the highest coefficient, and a check is the remainder of the message, shifted by the
check's length, after division by the generator. The shift register computes it bit by bit. -/
namespace Canbuskit.Crc
open Polynomial

def bit (b : Bool) : ZMod 2 := if b then 1 else 0

noncomputable def toPoly : List Bool → (ZMod 2)[X]
  | [] => 0
  | b :: rest => C (bit b) * X ^ rest.length + toPoly rest

/-- The generator of a check, without its leading coefficient. -/
noncomputable def generator (taps : List Bool) : (ZMod 2)[X] := X ^ taps.length + toPoly taps

/-- The check of a message. -/
def IsCheck (taps message check : List Bool) : Prop :=
  check.length = taps.length ∧
    toPoly check = (toPoly message * X ^ taps.length) %ₘ generator taps

def shift (taps register : List Bool) (b : Bool) : List Bool := match register with
  | [] => []
  | msb :: rest =>
    if msb ^^ b then List.zipWith xor (rest ++ [false]) taps else rest ++ [false]

def register (taps message : List Bool) : List Bool :=
  message.foldl (shift taps) (List.replicate taps.length false)

theorem bit_xor (a b : Bool) : bit (a ^^ b) = bit a + bit b := by
  cases a <;> cases b <;> decide

theorem toPoly_append (first second : List Bool) :
    toPoly (first ++ second) = toPoly first * X ^ second.length + toPoly second := by
  induction first with
  | nil => simp [toPoly]
  | cons b first ih =>
    simp only [List.cons_append,toPoly,List.length_append,ih]
    ring

theorem toPoly_xor {first second : List Bool} (same : first.length = second.length) :
    toPoly (List.zipWith xor first second) = toPoly first + toPoly second := by
  induction first generalizing second with
  | nil => simp [List.length_eq_zero_iff.mp same.symm,toPoly]
  | cons a first ih =>
    cases second with
    | nil => simp at same
    | cons b second =>
      have tails : first.length = second.length := by simpa using same
      simp only [List.zipWith_cons_cons,toPoly,ih tails,bit_xor,List.length_zipWith,tails,
        Nat.min_self,map_add]
      ring

theorem toPoly_zeros (n : Nat) : toPoly (List.replicate n false) = 0 := by
  induction n with
  | zero => rfl
  | succ n ih => simp [List.replicate_succ,toPoly,bit,ih]

theorem degree_toPoly (bits : List Bool) : (toPoly bits).degree < bits.length := by
  induction bits with
  | nil => simp [toPoly]
  | cons b bits ih =>
    refine lt_of_le_of_lt (degree_add_le _ _) (max_lt ?_ ?_)
    · refine lt_of_le_of_lt (degree_C_mul_X_pow_le _ _) ?_
      exact_mod_cast Nat.lt_succ_self _
    · refine lt_trans ih ?_
      exact_mod_cast Nat.lt_succ_self _

theorem coeff_toPoly_length (bits : List Bool) : (toPoly bits).coeff bits.length = 0 :=
  coeff_eq_zero_of_degree_lt (degree_toPoly bits)

/-- Bits of one length are told apart by their polynomials. -/
theorem toPoly_injective {first second : List Bool} (same : first.length = second.length)
    (equal : toPoly first = toPoly second) : first = second := by
  induction first generalizing second with
  | nil => exact (List.length_eq_zero_iff.mp same.symm).symm
  | cons a first ih =>
    cases second with
    | nil => simp at same
    | cons b second =>
      have tails : first.length = second.length := by simpa using same
      simp only [toPoly,tails] at equal
      have top := congrArg (fun p => p.coeff second.length) equal
      have first_zero : (toPoly first).coeff second.length = 0 := tails ▸ coeff_toPoly_length first
      simp only [coeff_add,coeff_C_mul,coeff_X_pow_self,mul_one,first_zero,
        coeff_toPoly_length,add_zero] at top
      have heads : a = b := by
        revert top
        cases a <;> cases b <;> simp [bit]
      rw [top,add_right_inj] at equal
      rw [heads,ih tails equal]

theorem shift_length {taps register : List Bool} (b : Bool) (same : register.length = taps.length) :
    (shift taps register b).length = taps.length := by
  cases register with
  | nil => exact same
  | cons msb rest =>
    have shifted : (rest ++ [false]).length = taps.length := by simpa using same
    simp only [shift]
    split
    · rw [List.length_zipWith,shifted,Nat.min_self]
    · exact shifted

/-- A shift multiplies by the variable and adds the new bit at the top, up to the generator. -/
theorem toPoly_shift {taps register : List Bool} (b : Bool) (same : register.length = taps.length) :
    ∃ q, toPoly (shift taps register b) + generator taps * q =
      toPoly register * X + C (bit b) * X ^ taps.length := by
  cases register with
  | nil =>
    obtain rfl := List.length_eq_zero_iff.mp same.symm
    exact ⟨C (bit b),by simp [shift,toPoly,generator]⟩
  | cons msb rest =>
    have length : rest.length + 1 = taps.length := same
    have moved : toPoly (rest ++ [false]) = toPoly rest * X := by
      simp [toPoly_append,toPoly,bit]
    have raised : toPoly (msb :: rest) * X = C (bit msb) * X ^ taps.length + toPoly rest * X := by
      rw [toPoly,← length]
      ring
    have twice : toPoly taps + toPoly taps = 0 := CharTwo.add_self_eq_zero _
    have sum : C (bit msb) + C (bit b) = (C (bit (msb ^^ b)) : (ZMod 2)[X]) := by
      rw [bit_xor,map_add]
    rw [raised,generator]
    simp only [shift]
    cases carry : msb ^^ b with
    | true =>
      have one : (C (bit true) : (ZMod 2)[X]) = 1 := map_one C
      rw [if_pos rfl,toPoly_xor (by simpa using length),moved]
      refine ⟨1,?_⟩
      rw [carry,one] at sum
      linear_combination twice - X ^ taps.length * sum
    | false =>
      have zero : (C (bit false) : (ZMod 2)[X]) = 0 := map_zero C
      rw [if_neg (by simp),moved]
      refine ⟨0,?_⟩
      rw [carry,zero] at sum
      linear_combination -X ^ taps.length * sum

theorem register_snoc (taps message : List Bool) (b : Bool) :
    register taps (message ++ [b]) = shift taps (register taps message) b := by
  simp [register]

/-- The register holds a remainder of the message. -/
theorem register_remainder (taps message : List Bool) :
    (register taps message).length = taps.length ∧ ∃ q,
      toPoly (register taps message) + generator taps * q = toPoly message * X ^ taps.length := by
  induction message using List.reverseRecOn with
  | nil => exact ⟨List.length_replicate,0,by simp [register,toPoly_zeros,toPoly]⟩
  | append_singleton message b ih =>
    obtain ⟨same,q,remainder⟩ := ih
    obtain ⟨p,shifted⟩ := toPoly_shift b same
    rw [register_snoc]
    refine ⟨shift_length b same,p + q * X,?_⟩
    have last : toPoly [b] = C (bit b) := by simp [toPoly]
    rw [toPoly_append,last]
    simp only [List.length_singleton,pow_one]
    linear_combination shifted + X * remainder

/-- The shift register computes the check, and no other bits are one. -/
theorem isCheck_iff (taps message check : List Bool) :
    IsCheck taps message check ↔ check = register taps message := by
  obtain ⟨length,q,remainder⟩ := register_remainder taps message
  have monic : (generator taps).Monic := monic_X_pow_add (degree_toPoly taps)
  have small : (toPoly (register taps message)).degree < (generator taps).degree := by
    have degree : (generator taps).degree = taps.length :=
      (degree_add_eq_left_of_degree_lt (by simpa using degree_toPoly taps)).trans (degree_X_pow _)
    rw [degree,← length]
    exact degree_toPoly _
  have divided := (div_modByMonic_unique q _ monic ⟨remainder,small⟩).2
  constructor
  · rintro ⟨same,equal⟩
    exact toPoly_injective (same.trans length.symm) (equal.trans divided)
  · rintro rfl
    exact ⟨length,divided.symm⟩

end Canbuskit.Crc
