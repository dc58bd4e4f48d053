import Mathlib
import WeatherBus.Checksum

/-! # What the checksums are

Each of the three checksums, said without the fold that calculates it.

* **`Checksum.IsParity`** — bit by bit, whether an odd number of bytes has the bit;
  `isParity_iff` for the exclusive or;
* **`Checksum.IsTotal`** — what is left of the sum of all bytes behind whole multiples of 256;
  `isTotal_iff` for the sum;
* **`Checksum.IsRemainder`** — what is left of the bits of all bytes, taken as a polynomial over the
  field of two elements, behind whole multiples of `x ^ 16 + x ^ 12 + x ^ 5 + 1`;
  `isRemainder_iff` for the cyclic redundancy check. -/

open Polynomial

namespace WeatherBus

namespace Checksum

/-! ## Exclusive or -/

/-- Eight bits, each of them set if an odd number of bytes has it. -/
structure IsParity (data : Bytes) (n : Nat) : Prop where
  lt : n < 256
  testBit_iff : ∀ i < 8, n.testBit i = true ↔ Odd (data.countP fun byte => byte.toNat.testBit i)

/-- The exclusive or turns a bit around with every byte that has it. -/
theorem testBit_xor_iff (data : Bytes) (i : Nat) :
    (xor data).toNat.testBit i = true ↔ Odd (data.countP fun byte => byte.toNat.testBit i) := by
  induction data with
  | nil => simp [xor]
  | cons byte rest ih =>
    rw [xor_cons, UInt8.toNat_xor, Nat.testBit_xor, List.countP_cons]
    cases byte.toNat.testBit i with
    | false => simpa using ih
    | true => simp [Nat.odd_add_one, ← ih]

/-- The exclusive or of all bytes is their parity, and there is no other one. -/
theorem isParity_iff {data : Bytes} {n : Nat} : IsParity data n ↔ n = (xor data).toNat := by
  constructor
  · intro h
    refine Nat.eq_of_testBit_eq fun i => ?_
    by_cases hi : i < 8
    · rw [Bool.eq_iff_iff, h.testBit_iff i hi, testBit_xor_iff]
    · -- Neither of the two has more than eight bits.
      have hpow : 2 ^ 8 ≤ 2 ^ i := Nat.pow_le_pow_right (by decide) (Nat.le_of_not_lt hi)
      rw [Nat.testBit_lt_two_pow (h.lt.trans_le hpow),
        Nat.testBit_lt_two_pow ((UInt8.toNat_lt _).trans_le hpow)]
  · rintro rfl
    exact ⟨UInt8.toNat_lt _, fun i _ => testBit_xor_iff data i⟩

/-! ## Sum -/

/-- The sum of all bytes modulo 256. -/
def IsTotal (data : Bytes) (n : Nat) : Prop := n = (data.map UInt8.toNat).sum % 256

/-- What has been added up so far is carried through the sum. -/
theorem toNat_foldl_add (start : UInt8) (data : Bytes) :
    (data.foldl (· + ·) start).toNat = (start.toNat + (data.map UInt8.toNat).sum) % 256 := by
  induction data generalizing start with
  | nil => exact (Nat.mod_eq_of_lt (UInt8.toNat_lt start)).symm
  | cons byte rest ih =>
    rw [List.foldl_cons, ih, UInt8.toNat_add, List.map_cons, List.sum_cons]
    omega

/-- The sum of all bytes is their total, and there is no other one. -/
theorem isTotal_iff {data : Bytes} {n : Nat} : IsTotal data n ↔ n = (sum data).toNat := by
  rw [IsTotal, sum, toNat_foldl_add, UInt8.toNat_zero, Nat.zero_add]

/-! ## Polynomials of bits -/

/-- The element of the field that a bit stands for. -/
def coefficient (bit : Bool) : ZMod 2 := if bit then 1 else 0

/-- Exclusive or is the addition of the field. -/
theorem coefficient_xor (a b : Bool) : coefficient (a ^^ b) = coefficient a + coefficient b := by
  cases a <;> cases b <;> decide

/-- Different bits have different coefficients. -/
theorem coefficient_injective : Function.Injective coefficient := by decide

/-- The polynomial of a word, whose lowest bit is the absolute term. -/
noncomputable def polynomial {width : Nat} (word : BitVec width) : (ZMod 2)[X] :=
  ∑ i ∈ Finset.range width, monomial i (coefficient (word.getLsbD i))

section Polynomial

variable {width : Nat}

/-- The coefficients are the bits. -/
theorem coeff_polynomial (word : BitVec width) (i : Nat) :
    (polynomial word).coeff i = coefficient (word.getLsbD i) := by
  rw [polynomial, finsetSum_coeff]
  simp only [coeff_monomial, Finset.sum_ite_eq', Finset.mem_range]
  split
  · rfl
  · next hi => rw [BitVec.getLsbD_of_ge word i (Nat.le_of_not_lt hi), coefficient, if_neg (by simp)]

/-- A word is known by its polynomial. -/
theorem polynomial_injective : Function.Injective (@polynomial width) := by
  intro a b h
  refine BitVec.eq_of_getLsbD_eq fun i _ => coefficient_injective ?_
  rw [← coeff_polynomial, ← coeff_polynomial, h]

/-- The polynomial of a word has no power above its bits. -/
theorem degree_polynomial_lt (word : BitVec width) : (polynomial word).degree < width := by
  rw [degree_lt_iff_coeff_zero]
  intro i hi
  rw [coeff_polynomial, BitVec.getLsbD_of_ge word i hi, coefficient, if_neg (by simp)]

/-- Exclusive or is the addition of polynomials. -/
theorem polynomial_xor (a b : BitVec width) :
    polynomial (a ^^^ b) = polynomial a + polynomial b := by
  ext i
  rw [coeff_add, coeff_polynomial, coeff_polynomial, coeff_polynomial, BitVec.getLsbD_xor,
    coefficient_xor]

end Polynomial

/-! ## The remainder -/

/-- The polynomial that the check divides by. -/
noncomputable def generator : (ZMod 2)[X] := X ^ 16 + X ^ 12 + X ^ 5 + 1

/-- The polynomial of some bytes: the first byte stands at the highest powers, and so does the
highest bit of each byte. -/
noncomputable def message : Bytes → (ZMod 2)[X]
  | [] => 0
  | byte :: rest => polynomial byte.toBitVec * X ^ (8 * rest.length) + message rest

/-- Sixteen bits whose polynomial is the remainder of a division by the generator. What is divided
are the bytes with sixteen zeros behind them, with the initial word added at the front. -/
def IsRemainder (initial : BitVec 16) (data : Bytes) (n : Nat) : Prop :=
  ∃ word : BitVec 16, n = word.toNat ∧ polynomial word =
    (polynomial initial * X ^ (8 * data.length) + message data * X ^ 16) %ₘ generator

/-- The generator has degree 16. -/
theorem degree_generator : generator.degree = 16 := by
  rw [generator]
  compute_degree!

/-- Its leading coefficient is one. -/
theorem monic_generator : generator.Monic := by
  rw [generator]
  monicity!

/-- The taps are the powers of the generator below the highest one. -/
theorem polynomial_taps : polynomial taps = X ^ 12 + X ^ 5 + 1 := by
  simp [polynomial, taps, Finset.sum_range_succ, coefficient, monomial_one_right_eq_X_pow]
  ring

/-- Moving a word by one bit is a multiplication by `x` in which the highest power is left out. -/
theorem polynomial_shiftLeft_one (register : BitVec 16) : polynomial (register <<< 1) =
    polynomial register * X + C (coefficient register.msb) * X ^ 16 := by
  ext i
  rw [coeff_add, coeff_C_mul_X_pow, coeff_polynomial, BitVec.getLsbD_shiftLeft,
    BitVec.msb_eq_getLsbD_last]
  cases i with
  | zero => simp [coefficient]
  | succ i =>
    -- The highest bit leaves the word, and is what is added at the power of 16.
    rw [coeff_mul_X, coeff_polynomial]
    rcases Nat.lt_trichotomy i 15 with hlow | rfl | hhigh
    · simp [show i + 1 < 16 by omega, show i ≠ 15 by omega]
    · cases register.getLsbD 15 <;> decide
    · simp [show i ≠ 15 by omega, coefficient,
        BitVec.getLsbD_of_ge register i (by omega)]

/-- A shift of the register is a multiplication by `x`, up to the generator that is fed back. -/
theorem polynomial_shift (register : BitVec 16) : polynomial (shift register) =
    polynomial register * X + C (coefficient register.msb) * generator := by
  rw [shift]
  split
  · next h =>
    rw [polynomial_xor, polynomial_shiftLeft_one, polynomial_taps, h, generator, coefficient,
      if_pos rfl, C_1]
    ring
  · next h =>
    rw [Bool.not_eq_true] at h
    rw [polynomial_shiftLeft_one, h, coefficient, if_neg Bool.false_ne_true, C_0, zero_mul,
      zero_mul]

/-- A byte in the upper half of a word is multiplied by the eighth power. -/
theorem polynomial_upper (byte : UInt8) : polynomial (byte.toBitVec.setWidth 16 <<< 8) =
    polynomial byte.toBitVec * X ^ 8 := by
  ext i
  rw [coeff_polynomial, coeff_mul_X_pow', BitVec.getLsbD_shiftLeft, BitVec.getLsbD_setWidth]
  by_cases hlow : i < 8
  · simp [hlow, show ¬ 8 ≤ i by omega, coefficient]
  · rw [if_pos (Nat.le_of_not_lt hlow), coeff_polynomial]
    by_cases hhigh : i < 16
    · simp [hlow, hhigh, show i - 8 < 16 by omega]
    · simp [hhigh, coefficient, BitVec.getLsbD_of_ge byte.toBitVec (i - 8) (by omega)]

/-- The classes of polynomials modulo the generator. -/
noncomputable def residue : (ZMod 2)[X] →+* AdjoinRoot generator := AdjoinRoot.mk generator

/-- All shifts together are a multiplication by a power of `x`. -/
theorem residue_shifts (count : Nat) (register : BitVec 16) :
    residue (polynomial (shifts count register)) = residue (polynomial register * X ^ count) := by
  induction count generalizing register with
  | zero => rw [shifts, pow_zero, mul_one]
  | succ count ih =>
    -- What is fed back is a multiple of the generator.
    have hgenerator : residue generator = 0 := AdjoinRoot.mk_self
    rw [shifts, ih, polynomial_shift, map_mul, map_add, map_mul residue (C _), hgenerator, mul_zero,
      add_zero, ← map_mul, mul_assoc, ← pow_succ']

/-- A byte that is taken in stands behind what has been taken in before. -/
theorem residue_feedByte (register : BitVec 16) (byte : UInt8) :
    residue (polynomial (feedByte register byte)) =
      residue (polynomial register * X ^ 8 + polynomial byte.toBitVec * X ^ 16) := by
  rw [feedByte, residue_shifts, polynomial_xor, polynomial_upper]
  refine congrArg residue ?_
  ring

/-- The register after all bytes is in the class of what is divided. -/
theorem residue_crc (register : BitVec 16) (data : Bytes) :
    residue (polynomial (crc register data)) =
      residue (polynomial register * X ^ (8 * data.length) + message data * X ^ 16) := by
  induction data generalizing register with
  | nil => simp [crc, message]
  | cons byte rest ih =>
    have hstep : crc register (byte :: rest) = crc (feedByte register byte) rest := rfl
    rw [hstep, ih, map_add, map_mul, residue_feedByte, ← map_mul, ← map_add, message,
      List.length_cons]
    refine congrArg residue ?_
    ring

/-- The register after all bytes is the remainder. -/
theorem polynomial_crc (register : BitVec 16) (data : Bytes) : polynomial (crc register data) =
    (polynomial register * X ^ (8 * data.length) + message data * X ^ 16) %ₘ generator := by
  have hdegree : (polynomial (crc register data)).degree < generator.degree := by
    rw [degree_generator]
    exact degree_polynomial_lt _
  have hself := (modByMonic_eq_self_iff monic_generator).2 hdegree
  have hdvd := AdjoinRoot.mk_eq_mk.1 (residue_crc register data)
  exact hself.symm.trans (modByMonic_eq_of_dvd_sub monic_generator hdvd)

/-- The cyclic redundancy check is the remainder, and there is no other one. -/
theorem isRemainder_iff {initial : BitVec 16} {data : Bytes} {n : Nat} :
    IsRemainder initial data n ↔ n = (crc initial data).toNat := by
  constructor
  · rintro ⟨word, rfl, hword⟩
    rw [← polynomial_crc] at hword
    rw [polynomial_injective hword]
  · rintro rfl
    exact ⟨_, rfl, polynomial_crc initial data⟩

end Checksum

end WeatherBus
