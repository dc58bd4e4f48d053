import Mathlib.Algebra.Group.Nat.Defs
import Mathlib.Logic.Function.Basic
import WeatherBus.Checksum

/-! # What the cyclic redundancy check detects

A shift of the register is linear in the exclusive or and can be undone, so the register never
forgets a difference. Two bytes one behind the other are a word that is added to the register, so a
difference within two such bytes cannot cancel out, however many bytes come in front of them and
behind them.

* **`Checksum.shift_xor`**, **`Checksum.shift_injective`** — one shift;
* **`Checksum.feedByte_feedByte`** — two bytes at once;
* **`Checksum.crc_injective`** — different registers stay different;
* **`Corrupts`** — bytes that differ, but only within two bytes next to each other;
* **`Corrupts.crc_ne`** — their checks differ, whatever the register was at first. -/

namespace WeatherBus

namespace Checksum

/-! ## Shifts of the register -/

/-- A word that is added to both of two others does not matter for their sum. -/
theorem xor_xor_xor_cancel (a b c : BitVec 16) : (a ^^^ c) ^^^ (b ^^^ c) = a ^^^ b := by
  rw [BitVec.xor_assoc, BitVec.xor_comm b c, ← BitVec.xor_assoc c c b, BitVec.xor_self,
    BitVec.zero_xor]

/-- A shift is linear: where both registers feed back, the taps cancel out. -/
theorem shift_xor (a b : BitVec 16) : shift (a ^^^ b) = shift a ^^^ shift b := by
  rw [shift, shift, shift, BitVec.msb_xor, BitVec.shiftLeft_xor_distrib]
  cases ha : a.msb <;> cases hb : b.msb
  · rfl
  · exact BitVec.xor_assoc ..
  · simp only [Bool.true_xor, Bool.not_false, if_true, Bool.false_eq_true, if_false]
    rw [BitVec.xor_assoc, BitVec.xor_comm (b <<< 1), ← BitVec.xor_assoc]
  · exact (xor_xor_xor_cancel _ _ _).symm

/-- The bit that falls out comes back as the lowest bit. -/
theorem getLsbD_zero_shift (a : BitVec 16) : (shift a).getLsbD 0 = a.msb := by
  rw [shift]
  split
  · rename_i h
    rw [h, BitVec.getLsbD_xor]
    simp [taps]
  · rename_i h
    simp [h]

/-- A shift can be undone. -/
theorem shift_injective : Function.Injective shift := by
  intro a b h
  have hmsb : a.msb = b.msb := by rw [← getLsbD_zero_shift, ← getLsbD_zero_shift, h]
  -- Both registers have fed back, or none has, so the other bits have moved alike.
  have hmoved : a <<< 1 = b <<< 1 := by
    rw [shift, shift, hmsb] at h
    split at h
    · exact (BitVec.xor_left_inj taps).1 h
    · exact h
  refine BitVec.eq_of_getLsbD_eq fun i hi => ?_
  by_cases htop : i = 15
  · rw [htop]
    exact hmsb
  · have hbit := congrArg (fun r : BitVec 16 => r.getLsbD (i + 1)) hmoved
    simpa [show i + 1 < 16 by omega, ← BitVec.getLsbD_eq_getElem] using hbit

/-- Steps of the register are additive. -/
theorem shifts_xor (count : Nat) (a b : BitVec 16) :
    shifts count (a ^^^ b) = shifts count a ^^^ shifts count b := by
  induction count generalizing a b with
  | zero => rfl
  | succ count ih => rw [shifts, shifts, shifts, shift_xor, ih]

/-- No two registers become the same by steps. -/
theorem shifts_injective (count : Nat) : Function.Injective (shifts count) := by
  induction count with
  | zero => exact Function.injective_id
  | succ count ih => exact ih.comp shift_injective

/-- Steps can be taken one after the other. -/
theorem shifts_shifts (m n : Nat) (a : BitVec 16) : shifts n (shifts m a) = shifts (m + n) a := by
  induction m generalizing a with
  | zero => rw [Nat.zero_add, shifts]
  | succ m ih => rw [Nat.succ_add, shifts, shifts, ih]

/-- As long as no bit falls out, nothing is fed back. -/
theorem shifts_eq_shiftLeft {count : Nat} {a : BitVec 16} (h : a.toNat * 2 ^ count < 2 ^ 16) :
    shifts count a = a <<< count := by
  induction count generalizing a with
  | zero => exact (BitVec.shiftLeft_zero a).symm
  | succ count ih =>
    -- One shift doubles the value, and what is left of the bound is that for the other shifts.
    have hpow : a.toNat * 2 ^ (count + 1) = a.toNat * 2 * 2 ^ count := by
      rw [Nat.pow_succ, Nat.mul_comm (2 ^ count) 2, Nat.mul_assoc]
    have hsmall : a.toNat * 2 < 2 ^ 16 :=
      Nat.lt_of_le_of_lt (Nat.le_mul_of_pos_right _ (Nat.two_pow_pos count)) (hpow ▸ h)
    have hmoved : (a <<< 1).toNat = a.toNat * 2 := by
      rw [BitVec.toNat_shiftLeft, Nat.shiftLeft_eq, Nat.pow_one, Nat.mod_eq_of_lt hsmall]
    have hshift : shift a = a <<< 1 := by
      have hmsb : a.msb = false := by
        rw [BitVec.msb_eq_false_iff_two_mul_lt]
        omega
      rw [shift, hmsb, if_neg Bool.false_ne_true]
    rw [shifts, hshift, ih (by rw [hmoved, ← hpow]; exact h), ← BitVec.shiftLeft_add, Nat.add_comm]

/-! ## Bytes -/

/-- A byte in the upper half of the register. -/
theorem upper_eq_append (byte : UInt8) :
    byte.toBitVec.setWidth 16 <<< 8 = byte.toBitVec ++ 0#8 := by
  refine BitVec.eq_of_getLsbD_eq fun i hi => ?_
  rw [BitVec.getLsbD_append, BitVec.getLsbD_shiftLeft, BitVec.getLsbD_setWidth]
  by_cases h : i < 8
  · simp [h]
  · simp [h, hi, show i - 8 < 16 by omega]

/-- A byte in the lower half is in the upper half eight shifts later. -/
theorem shifts_lower (byte : UInt8) :
    shifts 8 (0#8 ++ byte.toBitVec) = byte.toBitVec.setWidth 16 <<< 8 := by
  have hlower : 0#8 ++ byte.toBitVec = byte.toBitVec.setWidth 16 :=
    (BitVec.setWidth_eq_append (by decide)).symm
  rw [hlower]
  refine shifts_eq_shiftLeft ?_
  have hbyte := byte.toBitVec.isLt
  rw [BitVec.toNat_setWidth]
  omega

/-- Two bytes are a word that is added to the register before its bits are shifted out. -/
theorem feedByte_feedByte (register : BitVec 16) (a b : UInt8) :
    feedByte (feedByte register a) b = shifts 16 (register ^^^ (a.toBitVec ++ b.toBitVec)) := by
  have hword : (a.toBitVec ++ 0#8) ^^^ (0#8 ++ b.toBitVec) = a.toBitVec ++ b.toBitVec := by
    rw [BitVec.xor_append, BitVec.xor_zero, BitVec.zero_xor]
  calc feedByte (feedByte register a) b
    _ = shifts 8 (shifts 8 (register ^^^ (a.toBitVec ++ 0#8)) ^^^
          shifts 8 (0#8 ++ b.toBitVec)) := by
        rw [feedByte, feedByte, upper_eq_append a, shifts_lower b]
    _ = shifts 16 (register ^^^ (a.toBitVec ++ b.toBitVec)) := by
        rw [← shifts_xor, shifts_shifts, BitVec.xor_assoc, hword]

/-- No two registers become the same by a byte. -/
theorem feedByte_injective (byte : UInt8) : Function.Injective (feedByte · byte) := by
  intro a b h
  exact (BitVec.xor_left_inj _).1 (shifts_injective 8 h)

/-- Registers that differ still differ after the same bytes. -/
theorem crc_injective (data : Bytes) : Function.Injective (crc · data) := by
  induction data with
  | nil => exact Function.injective_id
  | cons byte rest ih => exact ih.comp (feedByte_injective byte)

/-- No two bytes lead from a register to the same one. -/
theorem eq_of_feedByte_eq {register : BitVec 16} {a b : UInt8}
    (h : feedByte register a = feedByte register b) : a = b := by
  rw [feedByte, feedByte, upper_eq_append, upper_eq_append] at h
  have hupper := (BitVec.xor_right_inj register).1 (shifts_injective 8 h)
  exact UInt8.toBitVec_inj.1 ((BitVec.append_left_inj 0#8).1 hupper)

/-- Nor do two pairs of bytes. -/
theorem eq_of_feedByte_feedByte_eq {register : BitVec 16} {a b c d : UInt8}
    (h : feedByte (feedByte register a) b = feedByte (feedByte register c) d) : a = c ∧ b = d := by
  rw [feedByte_feedByte, feedByte_feedByte] at h
  -- The shifts undone, and the register taken off, the words are the same.
  have hword := (BitVec.xor_right_inj register).1 (shifts_injective 16 h)
  have hupper := congrArg (BitVec.extractLsb' 8 8) hword
  have hlower := congrArg (BitVec.extractLsb' 0 8) hword
  rw [BitVec.extractLsb'_append_eq_left, BitVec.extractLsb'_append_eq_left] at hupper
  rw [BitVec.extractLsb'_append_eq_right, BitVec.extractLsb'_append_eq_right] at hlower
  exact ⟨UInt8.toBitVec_inj.1 hupper, UInt8.toBitVec_inj.1 hlower⟩

/-- Up to two bytes are known by the register behind them. -/
theorem eq_of_crc_eq {register : BitVec 16} {a b : Bytes} (hlength : b.length = a.length)
    (hshort : a.length ≤ 2) (h : crc register a = crc register b) : a = b := by
  match a, b, hlength with
  | [], [], _ => rfl
  | [x], [y], _ => rw [eq_of_feedByte_eq h]
  | [x, x'], [y, y'], _ =>
    obtain ⟨rfl, rfl⟩ := eq_of_feedByte_feedByte_eq h
    rfl
  | _ :: _ :: _ :: _, _, _ => simp at hshort

end Checksum

/-! ## Differences within two bytes -/

/-- Bytes that differ from others in their place, but only within two bytes next to each other. -/
structure Corrupts (p q : Bytes) : Prop where
  length_eq : q.length = p.length
  ne : q ≠ p
  /-- All bytes but two next to each other are the same. -/
  near : ∃ i, ∀ j, j ≠ i → j ≠ i + 1 → q[j]? = p[j]?

namespace Corrupts

variable {p q : Bytes}

/-- Up to two bytes between others may be damaged. -/
theorem of_append {a b : Bytes} (front back : Bytes) (hlength : b.length = a.length)
    (hshort : a.length ≤ 2) (hne : b ≠ a) :
    Corrupts (front ++ (a ++ back)) (front ++ (b ++ back)) where
  length_eq := by simp [hlength]
  ne heq := hne (List.append_cancel_right (List.append_cancel_left heq))
  near := by
    refine ⟨front.length, fun j hi hi' => ?_⟩
    by_cases hj : j < front.length
    · rw [List.getElem?_append_left hj, List.getElem?_append_left hj]
    · have hback : a.length ≤ j - front.length := by omega
      rw [List.getElem?_append_right (Nat.le_of_not_lt hj),
        List.getElem?_append_right (Nat.le_of_not_lt hj), List.getElem?_append_right hback,
        List.getElem?_append_right (hlength ▸ hback), hlength]

/-- In front of the damaged bytes and behind them, everything is the same. -/
theorem exists_eq_append (h : Corrupts p q) : ∃ front a b back,
    p = front ++ (a ++ back) ∧ q = front ++ (b ++ back) ∧
      b.length = a.length ∧ a.length ≤ 2 ∧ b ≠ a := by
  obtain ⟨i, hsame⟩ := h.near
  have hfront : q.take i = p.take i := by
    refine List.ext_getElem? fun j => ?_
    rw [List.getElem?_take, List.getElem?_take]
    split
    · exact hsame j (by omega) (by omega)
    · rfl
  have hback : (q.drop i).drop 2 = (p.drop i).drop 2 := by
    refine List.ext_getElem? fun j => ?_
    rw [List.drop_drop, List.drop_drop, List.getElem?_drop, List.getElem?_drop]
    exact hsame _ (by omega) (by omega)
  have hp : p = p.take i ++ ((p.drop i).take 2 ++ (p.drop i).drop 2) := by
    rw [List.take_append_drop, List.take_append_drop]
  have hq : q = p.take i ++ ((q.drop i).take 2 ++ (p.drop i).drop 2) := by
    rw [← hfront, ← hback, List.take_append_drop, List.take_append_drop]
  refine ⟨_, _, _, _, hp, hq, ?_, List.length_take_le _ _, fun hmiddle => h.ne ?_⟩
  · simp [h.length_eq]
  · rw [hq, hmiddle, ← hp]

/-- The checks of such bytes differ, whatever stood in the register at first. -/
theorem crc_ne (h : Corrupts p q) (register : BitVec 16) :
    Checksum.crc register q ≠ Checksum.crc register p := by
  obtain ⟨front, a, b, back, rfl, rfl, hlength, hshort, hne⟩ := h.exists_eq_append
  rw [Checksum.crc_append, Checksum.crc_append, Checksum.crc_append, Checksum.crc_append]
  intro heq
  -- The bytes behind would have kept the registers apart.
  have hmiddle := Checksum.crc_injective back heq
  exact hne (Checksum.eq_of_crc_eq hlength hshort hmiddle.symm).symm

/-- The same goes if the same bytes follow. -/
theorem append (h : Corrupts p q) (back : Bytes) : Corrupts (p ++ back) (q ++ back) where
  length_eq := by rw [List.length_append, List.length_append, h.length_eq]
  ne heq := h.ne (List.append_cancel_right heq)
  near := by
    obtain ⟨i, hsame⟩ := h.near
    refine ⟨i, fun j hi hi' => ?_⟩
    rw [List.getElem?_append, List.getElem?_append, h.length_eq, hsame j hi hi']

/-- Nor do the checks agree as they are sent. -/
theorem checksum_ne (h : Corrupts p q) (convention : Checksum.Convention) :
    convention.apply q ≠ convention.apply p := by
  cases convention with
  | direct => exact h.crc_ne _
  | complemented => exact fun heq => h.crc_ne _ (BitVec.not_inj.1 heq)

end Corrupts

end WeatherBus
