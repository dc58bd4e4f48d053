import Mathlib
import WeatherBus.Number.Binary64

/-! # How large a product of doubles can be

A product is rounded twice on its way to a whole number: to 53 bits when it is computed, and then to
units. Neither step passes a whole number that is a bound for what is rounded.

* **`Binary64.AtMost`** — a bound for `m · 2 ^ e`;
* **`Binary64.roundedMantissa_shiftRight_le`** — dropping bits from a mantissa and rounding to even
  does not pass a multiple of the new unit;
* **`Binary64.roundWithAccuracy_cases`**, **`Binary64.roundUp_pack_le`** — so rounding to a double
  keeps a bound, and so do packing and rounding to a whole number;
* **`Binary64.atMost_of_le`** — the order of doubles is the order of their values;
* **`Binary64.roundUp_mul_le`** — the bound for a product, rounded to a whole number;
* **`Binary64.Within`** — a number of a range, which is what passes the check of the range. -/

namespace WeatherBus

namespace Binary64

open Float.Model Float.Model.UnpackedFloat

/-! ## Bounds -/

/-- The number `m · 2 ^ e`, whose exponent is not positive, is at most `n`. -/
structure AtMost (n m : Nat) (e : Int) : Prop where
  exponent_le : e ≤ 0
  le : m ≤ n * 2 ^ (-e).toNat

section Bounds

variable {n m m' : Nat} {e e' t : Int}

/-- The bound stays for fewer digits and a smaller exponent. -/
theorem AtMost.mono (h : AtMost n m e) (hm : m' ≤ m) (he : e' ≤ e) : AtMost n m' e' where
  exponent_le := he.trans h.exponent_le
  le := by
    refine (hm.trans h.le).trans (Nat.mul_le_mul_left n ?_)
    exact Nat.pow_le_pow_right (by decide) (by omega)

/-- A product has the product of the bounds. -/
theorem AtMost.mul {a b m₁ m₂ : Nat} {e₁ e₂ : Int} (h₁ : AtMost a m₁ e₁) (h₂ : AtMost b m₂ e₂) :
    AtMost (a * b) (m₁ * m₂) (e₁ + e₂) where
  exponent_le := Int.add_nonpos h₁.exponent_le h₂.exponent_le
  le := by
    have he₁ := h₁.exponent_le
    have he₂ := h₂.exponent_le
    have hsum : (-(e₁ + e₂)).toNat = (-e₁).toNat + (-e₂).toNat := by omega
    rw [hsum, Nat.pow_add]
    calc m₁ * m₂ ≤ a * 2 ^ (-e₁).toNat * (b * 2 ^ (-e₂).toNat) := Nat.mul_le_mul h₁.le h₂.le
      _ = a * b * (2 ^ (-e₁).toNat * 2 ^ (-e₂).toNat) := Nat.mul_mul_mul_comm _ _ _ _

/-- In units of a larger exponent a bound is a multiple of the unit. -/
theorem AtMost.shift (h : AtMost n m e) (ht : t ≤ 0) : e + (t - e).toNat ≤ 0 ∧
    m ≤ n * 2 ^ (-(e + (t - e).toNat)).toNat * 2 ^ (t - e).toNat := by
  have he := h.exponent_le
  refine ⟨by omega, ?_⟩
  have hsum : (-(e + (t - e).toNat)).toNat + (t - e).toNat = (-e).toNat := by omega
  rw [Nat.mul_assoc, ← Nat.pow_add, hsum]
  exact h.le

/-- Rounding to a whole number does not pass a whole number. -/
theorem roundUp_le {x : Float} (h : ∀ {m e}, parts x = .finite false m e → AtMost n m e) :
    roundUp x ≤ n := by
  unfold roundUp
  split
  · rename_i m e hparts
    obtain ⟨he, hm⟩ := h hparts
    split
    · rename_i hpos
      obtain rfl : e = 0 := le_antisymm he hpos
      simpa using hm
    · simp only [Nat.pow_eq] at hm ⊢
      have hunit : 0 < 2 ^ (-e).toNat := Nat.two_pow_pos _
      generalize 2 ^ (-e).toNat = unit at hm hunit ⊢
      rw [Nat.div_le_iff_le_mul (by omega)]
      have hmul : n * (2 * unit) = 2 * (n * unit) := Nat.mul_left_comm n 2 unit
      omega
  · exact Nat.zero_le n

end Bounds

/-! ## Dropping bits -/

section Shift

variable {n m s : Nat}

/-- One more step of the shift. -/
theorem shiftRight_succ (em : ExtendedMantissa) (s : Nat) :
    em >>> (s + 1) = (em >>> s).shiftRightOne := rfl

/-- A shift drops the last bits. -/
theorem mantissa_shiftRight (em : ExtendedMantissa) (s : Nat) :
    (em >>> s).mantissa = em.mantissa / 2 ^ s := by
  induction s with
  | zero => exact (Nat.div_one _).symm
  | succ s ih =>
    rw [shiftRight_succ, ExtendedMantissa.shiftRightOne, ih, Nat.div_div_eq_div_mul, Nat.pow_succ]

/-- A multiple of the new unit loses nothing. -/
theorem shiftRight_mul_pow (n s : Nat) :
    (⟨n * 2 ^ s, false, false⟩ : ExtendedMantissa) >>> s = ⟨n, false, false⟩ := by
  induction s generalizing n with
  | zero =>
    rw [Nat.pow_zero, Nat.mul_one]
    rfl
  | succ s ih =>
    have hfactor : n * 2 ^ (s + 1) = n * 2 * 2 ^ s := by
      rw [Nat.pow_succ, Nat.mul_assoc, Nat.mul_comm 2]
    rw [shiftRight_succ, hfactor, ih]
    simp [ExtendedMantissa.shiftRightOne]

/-- Rounding adds one at most. -/
theorem roundedMantissa_le_succ (em : ExtendedMantissa) :
    em.roundedMantissa ≤ em.mantissa + 1 := by
  rw [ExtendedMantissa.roundedMantissa]
  cases em.accuracy with
  | exact => exact Nat.le_succ _
  | inexact o =>
    cases o with
    | lt => exact Nat.le_succ _
    | eq =>
      have := Nat.mod_lt em.mantissa (show 0 < 2 by decide)
      simp only [Accuracy.roundToNearestEven]
      omega
    | gt => exact Nat.le_refl _

/-- Dropping bits and rounding does not pass a multiple of the new unit. -/
theorem roundedMantissa_shiftRight_le (h : m ≤ n * 2 ^ s) :
    ((⟨m, false, false⟩ : ExtendedMantissa) >>> s).roundedMantissa ≤ n := by
  have hle : m / 2 ^ s ≤ n := Nat.div_le_of_le_mul (by rwa [Nat.mul_comm])
  rcases Nat.lt_or_eq_of_le hle with hlt | heq
  · refine (roundedMantissa_le_succ _).trans ?_
    rw [mantissa_shiftRight]
    exact hlt
  · -- The multiple itself is reached only exactly, and then no bit is set behind it.
    have hge : n * 2 ^ s ≤ m := by
      rw [← heq]
      exact Nat.div_mul_le_self m _
    rw [le_antisymm h hge, shiftRight_mul_pow]
    exact Nat.le_refl n

end Shift

/-! ## Rounding to a double -/

section Round

variable {n m : Nat} {e : Int}

/-- The exponent leaves room for 53 bits, and it is not below the smallest one. -/
theorem targetExponent_eq (t : Int) : Format.binary64.targetExponent t = max (t - 53) (-1074) := rfl

/-- A double below `2 ^ 53` has no positive exponent. -/
theorem targetExponent_le (hn : n < 2 ^ 53) (h : AtMost n m e) :
    Format.binary64.targetExponent (totalExponent m e) ≤ 0 := by
  have he := h.exponent_le
  have htotal : totalExponent m e ≤ 53 := by
    rw [totalExponent]
    rcases Nat.eq_zero_or_pos m with rfl | hpos
    · rw [Nat.log2_zero]
      omega
    · have hlog : m.log2 < 53 + (-e).toNat := by
        rw [Nat.log2_lt hpos.ne', Nat.pow_add]
        exact h.le.trans_lt (Nat.mul_lt_mul_of_pos_right hn (Nat.two_pow_pos _))
      omega
  rw [targetExponent_eq]
  omega

/-- The bound is kept when bits are dropped to make a double, and rounded. -/
theorem AtMost.roundedMantissa (hn : n < 2 ^ 53) (h : AtMost n m e) :
    AtMost n (shiftToTargetExponent Format.binary64 m e .exact).1.roundedMantissa
      (shiftToTargetExponent Format.binary64 m e .exact).2 := by
  obtain ⟨hexp, hle⟩ := h.shift (targetExponent_le hn h)
  exact ⟨hexp, roundedMantissa_shiftRight_le hle⟩

/-- The bound is kept when bits are dropped to make a double, and the exponent is one of a
double. -/
theorem AtMost.mantissa (hn : n < 2 ^ 53) (h : AtMost n m e) :
    AtMost n (shiftToTargetExponent Format.binary64 m e .exact).1.mantissa
        (shiftToTargetExponent Format.binary64 m e .exact).2 ∧
      -1074 ≤ (shiftToTargetExponent Format.binary64 m e .exact).2 := by
  obtain ⟨hexp, hle⟩ := h.shift (targetExponent_le hn h)
  have hmin : -1074 ≤ Format.binary64.targetExponent (totalExponent m e) := by
    rw [targetExponent_eq]
    exact le_max_right _ _
  refine ⟨⟨hexp, ?_⟩, ?_⟩
  · simp only [shiftToTargetExponent, shiftToExponent, ExtendedMantissa.ofMantissaAndAccuracy,
      mantissa_shiftRight]
    exact Nat.div_le_of_le_mul (by rwa [Nat.mul_comm])
  · simp only [shiftToTargetExponent, shiftToExponent]
    omega

/-- Rounding keeps the sign and the bound. -/
theorem roundWithAccuracy_cases (sign : Sign) (hn : n < 2 ^ 53) (h : AtMost n m e) :
    roundWithAccuracy Format.binary64 sign m e .exact = .zero sign ∨
      ∃ m' e' hpos, roundWithAccuracy Format.binary64 sign m e .exact = .finite sign m' e' hpos ∧
        AtMost n m' e' ∧ -1074 ≤ e' := by
  -- The first shift rounds, and the second one makes room if that was needed.
  obtain ⟨hbound, hmin⟩ := (h.roundedMantissa hn).mantissa hn
  unfold roundWithAccuracy
  dsimp only
  split
  · exact .inl rfl
  · rename_i hne
    exact .inr ⟨_, _, Nat.pos_of_ne_zero hne, rfl, hbound, hmin⟩

end Round

/-! ## Packing -/

section Pack

variable {sign : Sign} {m n : Nat} {e : Int}

/-- The sign, the exponent and the fraction stand side by side. -/
theorem toNat_packComponents (sign : Sign) (exponent : BitVec 11) (fraction : BitVec 52) :
    (packComponents Format.binary64 sign exponent fraction).toNat =
      sign.toBitVec.toNat * 2 ^ 63 + exponent.toNat * 2 ^ 52 + fraction.toNat := by
  have hexponent := exponent.isLt
  have hfraction := fraction.isLt
  rw [packComponents, BitVec.toNat_append, BitVec.toNat_append]
  rw [← Nat.shiftLeft_add_eq_or_of_lt hexponent, ← Nat.shiftLeft_add_eq_or_of_lt hfraction]
  simp only [Nat.shiftLeft_eq]
  omega

/-- Whether a sign is the negative one. -/
def isNegative : Sign → Bool
  | .negative => true
  | .positive => false

/-- What is read off a double that is made of a sign, an exponent and a fraction. -/
theorem parts_packComponents {x : Float} {exponent : BitVec 11} {fraction : BitVec 52}
    (hx : x.toBits.toNat = (packComponents Format.binary64 sign exponent fraction).toNat)
    (hfinite : exponent.toNat ≠ 2047) : parts x =
      if exponent.toNat = 0 then .finite (isNegative sign) fraction.toNat (-1074)
      else .finite (isNegative sign) (2 ^ 52 + fraction.toNat) (exponent.toNat - 1075) := by
  have hexponent := exponent.isLt
  have hfraction := fraction.isLt
  have hbit := sign.toBitVec.isLt
  rw [toNat_packComponents] at hx
  have hsign : x.toBits.toNat / 2 ^ 63 = sign.toBitVec.toNat := by omega
  have hmiddle : x.toBits.toNat / 2 ^ 52 % 2 ^ 11 = exponent.toNat := by omega
  have hlow : x.toBits.toNat % 2 ^ 52 = fraction.toNat := by omega
  have hnegative : (sign.toBitVec.toNat == 1) = isNegative sign := by
    cases sign with
    | negative => rfl
    | positive => rfl
  simp only [parts, Nat.pow_eq, hsign, hmiddle, hlow, hnegative]
  rw [if_neg (by omega)]
  rfl

/-- A double with one of the exponents of doubles does not overflow. One without a bit at the
highest place has the smallest exponent. -/
theorem pack_finite (hpos : 0 < m) (he : e ≤ 971) :
    UnpackedFloat.pack Format.binary64 (.finite sign m e hpos) =
      packComponents Format.binary64 sign
        (if m.log2 = 52 then BitVec.ofNat 11 (e + 1075).toNat else 0#11) (BitVec.ofNat 52 m) := by
  have hbias : (e + (Format.binary64.exponentBias : Int) +
      (Format.binary64.mantissaBitsWithoutImplicit : Int)).toNat = (e + 1075).toNat := by
    have hsum : (Format.binary64.exponentBias : Int) +
        (Format.binary64.mantissaBitsWithoutImplicit : Int) = 1075 := by decide
    rw [Int.add_assoc, hsum]
  have hbits : Format.binary64.mantissaBits = 53 := rfl
  have hfit : ¬ 2 ^ Format.binary64.exponentBits ≤ (e + 1075).toNat + 1 := by
    have hpow : 2 ^ Format.binary64.exponentBits = 2048 := by decide
    rw [hpow]
    omega
  simp only [UnpackedFloat.pack, hbias, hbits, if_neg hfit]
  by_cases hlog : m.log2 = 52
  · rw [if_pos (by omega), if_pos hlog]
  · rw [if_neg (by omega), if_neg hlog]

/-- Zero is rounded to zero, whatever its sign. -/
theorem roundUp_pack_zero (sign : Sign) : roundUp (.ofModel (.pack (.zero sign))) = 0 := by
  cases sign <;> decide +kernel

/-- Packing keeps the bound. -/
theorem roundUp_pack_le (hpos : 0 < m) (h : AtMost n m e) (hmin : -1074 ≤ e) :
    roundUp (.ofModel (.pack (.finite .positive m e hpos))) ≤ n := by
  have he := h.exponent_le
  have hbits : (Float.ofModel (.pack (.finite .positive m e hpos))).toBits.toNat =
      (UnpackedFloat.pack Format.binary64 (.finite .positive m e hpos)).toNat := rfl
  rw [pack_finite hpos (by omega)] at hbits
  apply roundUp_le
  intro m' e' hparts
  by_cases hlog : m.log2 = 52
  · -- The highest bit is left out, and put back when the double is read.
    rw [if_pos hlog] at hbits
    have hexponent : (BitVec.ofNat 11 (e + 1075).toNat).toNat = (e + 1075).toNat := by
      rw [BitVec.toNat_ofNat]
      omega
    have hrange := (Nat.log2_eq_iff hpos.ne').1 hlog
    have hfraction : 2 ^ 52 + (BitVec.ofNat 52 m).toNat = m := by
      rw [BitVec.toNat_ofNat]
      omega
    rw [parts_packComponents hbits (by omega), hexponent, if_neg (by omega), hfraction] at hparts
    obtain ⟨-, rfl, rfl⟩ := Parts.finite.inj hparts
    exact h.mono (Nat.le_refl m) (by omega)
  · rw [if_neg hlog] at hbits
    rw [parts_packComponents hbits (by decide), if_pos (by decide)] at hparts
    obtain ⟨-, rfl, rfl⟩ := Parts.finite.inj hparts
    refine h.mono ?_ hmin
    rw [BitVec.toNat_ofNat]
    exact Nat.mod_le m _

end Pack

/-! ## Comparing -/

section Compare

variable {x y c : Float}

/-- A number in a range is between its ends. -/
theorem inRange_iff {low high : Float} : inRange low high x = true ↔ low ≤ x ∧ x ≤ high := by
  rw [inRange, Bool.and_eq_true, decide_eq_true_eq, decide_eq_true_eq]

/-- Numbers of which one is below the other can be compared. -/
theorem compare_of_le (h : x ≤ y) :
    ∃ o, x.toModel.unpack.compare y.toModel.unpack = some o ∧ o.isLE = true := by
  have hle : x.toModel.unpack.le y.toModel.unpack = true := of_decide_eq_true h
  exact (Option.any_eq_true _ _).1 hle

/-- What is above something is a number. -/
theorem isNaN_eq_false_of_le (h : x ≤ y) : y.isNaN = false := by
  obtain ⟨o, hcompare, -⟩ := compare_of_le h
  have hunpack : y.isNaN = y.toModel.unpack.isNaN := rfl
  rw [hunpack]
  cases hy : y.toModel.unpack with
  | notANumber =>
    rw [hy] at hcompare
    cases hx : x.toModel.unpack <;> simp [hx, UnpackedFloat.compare] at hcompare
  | _ => rfl

/-- A number of a range. -/
structure Within (low high x : Float) : Prop where
  low_le : low ≤ x
  le_high : x ≤ high
  isNaN_eq : x.isNaN = false

/-- What passes the check of a range is a number of the range. -/
theorem Within.of_inRange {low high : Float} (h : inRange low high x = true) :
    Within low high x where
  low_le := (inRange_iff.1 h).1
  le_high := (inRange_iff.1 h).2
  isNaN_eq := isNaN_eq_false_of_le (inRange_iff.1 h).1

/-- A double has 53 bits. -/
theorem lt_of_unpack {sign : Sign} {m : Nat} {e : Int} {hpos : 0 < m}
    (h : x.toModel.unpack = .finite sign m e hpos) : m < 2 ^ 53 := by
  rw [Float.Model.unpack, UnpackedFloat.unpack] at h
  have hfraction := (@unpackMantissa Format.binary64 x.toModel.toBits.toBitVec).isLt
  split at h
  · split at h
    · exact absurd h (by simp)
    · exact absurd h (by simp)
  · split at h
    · split at h
      · exact absurd h (by simp)
      · obtain ⟨-, rfl, -⟩ := UnpackedFloat.finite.inj h
        exact hfraction.trans (by decide)
    · obtain ⟨-, rfl, -⟩ := UnpackedFloat.finite.inj h
      exact (1#1 ++ @unpackMantissa Format.binary64 x.toModel.toBits.toBitVec).isLt

/-- A double is a whole number that is not zero. Its highest bit is at its place, as in every double
that is not too small. -/
def IsWhole (c : Float) (n : Nat) : Prop := ∃ k hpos,
  c.toModel.unpack = .finite .positive (n * 2 ^ k) (-Int.ofNat k) hpos ∧ 2 ^ 52 ≤ n * 2 ^ k

/-- What is at most a double that is a whole number is at most this number. -/
theorem atMost_of_le {n m : Nat} {e : Int} {hpos : 0 < m} (hle : x ≤ c)
    (hx : x.toModel.unpack = .finite .positive m e hpos) (hwhole : IsWhole c n) :
    AtMost n m e := by
  obtain ⟨k, hc, hunpack, hnormal⟩ := hwhole
  have hm := lt_of_unpack hx
  obtain ⟨o, hcompare, hisLE⟩ := compare_of_le hle
  rw [hx, hunpack] at hcompare
  obtain rfl := Option.some.inj hcompare
  rw [Int.ofNat_eq_natCast] at hisLE
  rcases Int.lt_trichotomy e (-(k : Int)) with hlt | rfl | hgt
  · -- The smaller exponent decides, because no mantissa is longer than that of `c`.
    refine ⟨by omega, ?_⟩
    have hdouble : n * 2 ^ (k + 1) ≤ n * 2 ^ (-e).toNat :=
      Nat.mul_le_mul_left n (Nat.pow_le_pow_right (by decide) (by omega))
    rw [Nat.pow_succ, ← Nat.mul_assoc] at hdouble
    omega
  · have hmantissas : m ≤ n * 2 ^ k := by
      simpa [Nat.isLE_compare] using hisLE
    exact ⟨by omega, by simpa using hmantissas⟩
  · rw [Int.compare_eq_gt.2 hgt] at hisLE
    exact absurd hisLE Bool.false_ne_true

end Compare

/-! ## Products -/

/-- What lies between zero and a whole number is zero or positive, and has this number as a
bound. -/
theorem unpack_of_inRange {x c : Float} {n : Nat} (hrange : inRange 0.0 c x = true)
    (hwhole : IsWhole c n) : (∃ sign, x.toModel.unpack = .zero sign) ∨
      ∃ m e hpos, x.toModel.unpack = .finite .positive m e hpos ∧ AtMost n m e := by
  obtain ⟨hlow, hhigh⟩ := inRange_iff.1 hrange
  obtain ⟨o, hcompare, hisLE⟩ := compare_of_le hlow
  have hzero : (0.0 : Float).toModel.unpack = .zero .positive := rfl
  rw [hzero] at hcompare
  cases hx : x.toModel.unpack with
  | notANumber =>
    rw [hx] at hcompare
    exact absurd hcompare (by simp [UnpackedFloat.compare])
  | infinity sign =>
    cases sign with
    | negative =>
      rw [hx] at hcompare
      obtain rfl := Option.some.inj hcompare
      exact absurd hisLE Bool.false_ne_true
    | positive =>
      obtain ⟨k, hpos, hc, -⟩ := hwhole
      obtain ⟨o', hcompare', hisLE'⟩ := compare_of_le hhigh
      rw [hx, hc] at hcompare'
      obtain rfl := Option.some.inj hcompare'
      exact absurd hisLE' Bool.false_ne_true
  | zero sign => exact .inl ⟨sign, rfl⟩
  | finite sign m e hpos =>
    cases sign with
    | negative =>
      rw [hx] at hcompare
      obtain rfl := Option.some.inj hcompare
      exact absurd hisLE Bool.false_ne_true
    | positive => exact .inr ⟨m, e, hpos, rfl, atMost_of_le hhigh hx hwhole⟩

/-- A product is the one of the values, packed. -/
theorem mul_eq (x y : Float) : x * y = .ofModel
    (.pack (UnpackedFloat.mul Format.binary64 x.toModel.unpack y.toModel.unpack)) := rfl

/-- What lies between zero and a whole number, times another whole number, is rounded to the product
of the two at most. -/
theorem roundUp_mul_le {x c y : Float} {a b : Nat} (hrange : inRange 0.0 c x = true)
    (hc : IsWhole c a) (hy : IsWhole y b) (hfits : a * b < 2 ^ 53) :
    roundUp (x * y) ≤ a * b := by
  obtain ⟨l, hpos', hunpack, -⟩ := hy
  have hfactor : AtMost b (b * 2 ^ l) (-Int.ofNat l) := ⟨by simp, by simp⟩
  rw [mul_eq, hunpack]
  rcases unpack_of_inRange hrange hc with ⟨sign, hx⟩ | ⟨m, e, hpos, hx, hbound⟩
  · rw [hx, UnpackedFloat.mul, roundUp_pack_zero]
    exact Nat.zero_le _
  · rw [hx, UnpackedFloat.mul]
    rcases roundWithAccuracy_cases (.positive * .positive) hfits (hbound.mul hfactor) with
      hround | ⟨m', e', hpos'', hround, hrounded, hmin⟩
    · rw [hround, roundUp_pack_zero]
      exact Nat.zero_le _
    · rw [hround]
      exact roundUp_pack_le hpos'' hrounded hmin

end Binary64

end WeatherBus
