import WeatherBus.Number.Decimal
import WeatherBus.Proofs.Number.Value

/-! # Rounding numbers to doubles

Arithmetic on doubles computes the exact result and rounds it to 53 bits, halves to the even
mantissa. What fits into 53 bits comes out exactly.

* **`Binary64.roundedMantissa_shiftRight`** — dropping bits rounds to the nearest multiple of the
  new unit;
* **`Binary64.HasMagnitude`** — the sign and the magnitude of a finite double;
* **`Binary64.hasMagnitude_ofDyadic`**, **`Binary64.hasMagnitude_remainder`** — these are exact;
* **`Binary64.RoundsTo`** — the number next to a result; `exists_add_eq` says that a sum is rounded,
  and `RoundsTo.lt_iff` on which side of a bound it comes out;
* **`Decimal.fixed_zero`** — without decimals the nearest whole number is written. -/

namespace WeatherBus

namespace Rounding

variable {n d k : Nat}

/-- From below an odd number is passed only by more than a half. -/
theorem divide_toEven_le_iff (hd : 0 < d) (hk : k % 2 = 1) :
    divide .toEven n d ≤ k ↔ 2 * n < (2 * k + 1) * d := by
  have hn : d * (n / d) + n % d = n := Nat.div_add_mod n d
  have hr : n % d < d := Nat.mod_lt n hd
  have hexpand : (2 * k + 1) * d = 2 * (d * k) + d := by ring
  rw [hexpand, divide]
  generalize n / d = q at hn ⊢
  rcases Nat.lt_trichotomy q k with hlt | rfl | hgt
  · have hstep : d * q + d ≤ d * k := by
      rw [← Nat.mul_succ]
      exact Nat.mul_le_mul_left d hlt
    refine iff_of_true ?_ (by omega)
    split_ifs <;> omega
  · split_ifs <;> omega
  · have hstep : d * k + d ≤ d * q := by
      rw [← Nat.mul_succ]
      exact Nat.mul_le_mul_left d hgt
    refine iff_of_false ?_ (by omega)
    split_ifs <;> omega

/-- So it is for the fraction itself. -/
theorem divide_toEven_le_iff_div (hd : 0 < d) (hk : k % 2 = 1) :
    divide .toEven n d ≤ k ↔ (n : ℚ) / d < k + 1 / 2 := by
  have hpos : (0 : ℚ) < d := by exact_mod_cast hd
  rw [divide_toEven_le_iff hd hk, div_lt_iff₀ hpos]
  constructor
  · intro h
    have hcast : (2 * n : ℚ) < (2 * k + 1) * d := by exact_mod_cast h
    linarith
  · intro h
    have hcast : (2 * n : ℚ) < (2 * k + 1) * d := by linarith
    exact_mod_cast hcast

/-- The result is within half a unit of the quotient. -/
theorem abs_divide_sub_le (half : Half) (n : Nat) (hd : 0 < d) :
    |(divide half n d : ℚ) - n / d| ≤ 1 / 2 := by
  have hpos : (0 : ℚ) < d := by exact_mod_cast hd
  obtain ⟨hlow, hhigh⟩ := divide_within_half half n hd
  have hlow' : (2 * n : ℚ) ≤ 2 * (divide half n d * d) + d := by exact_mod_cast hlow
  have hhigh' : (2 * (divide half n d * d) : ℚ) ≤ 2 * n + d := by exact_mod_cast hhigh
  have hcancel : (n : ℚ) / d * d = n := div_mul_cancel₀ _ hpos.ne'
  refine abs_le.2 ⟨?_, ?_⟩
  · refine le_of_mul_le_mul_right ?_ hpos
    linarith
  · refine le_of_mul_le_mul_right ?_ hpos
    linarith

end Rounding

namespace Binary64

open Float.Model Float.Model.UnpackedFloat

/-! ## Dropping bits -/

/-- Of the bits that are dropped two things are kept: the first one, and whether one behind it is
set. -/
theorem shiftRight_succ_eq (m s : Nat) : (⟨m, false, false⟩ : ExtendedMantissa) >>> (s + 1) =
    ⟨m / 2 ^ (s + 1), m / 2 ^ s % 2 != 0, m % 2 ^ s != 0⟩ := by
  induction s with
  | zero =>
    rw [shiftRight_succ]
    simp [HShiftRight.hShiftRight, Nat.repeat, ExtendedMantissa.shiftRightOne, Nat.mod_one]
  | succ s ih =>
    have hmod : m % 2 ^ (s + 1) = m % 2 ^ s + 2 ^ s * (m / 2 ^ s % 2) := Nat.mod_pow_succ
    rw [shiftRight_succ, ih, ExtendedMantissa.shiftRightOne, hmod]
    congr 1
    · rw [Nat.div_div_eq_div_mul, Nat.pow_succ 2 (s + 1)]
    · rcases Nat.mod_two_eq_zero_or_one (m / 2 ^ s) with heven | hodd
      · simp [heven]
      · rw [hodd]
        simp

/-- Dropping bits rounds to the nearest multiple of the new unit. -/
theorem roundedMantissa_shiftRight (m s : Nat) :
    ((⟨m, false, false⟩ : ExtendedMantissa) >>> s).roundedMantissa =
      Rounding.divide .toEven m (2 ^ s) := by
  cases s with
  | zero =>
    have hshift : (⟨m, false, false⟩ : ExtendedMantissa) >>> 0 = ⟨m, false, false⟩ := rfl
    have hexact := Rounding.divide_exact .toEven m Nat.one_pos
    rw [Nat.mul_one] at hexact
    rw [hshift, Nat.pow_zero, hexact]
    rfl
  | succ s =>
    have hmod : m % 2 ^ (s + 1) = m % 2 ^ s + 2 ^ s * (m / 2 ^ s % 2) := Nat.mod_pow_succ
    have hlow : m % 2 ^ s < 2 ^ s := Nat.mod_lt _ (Nat.two_pow_pos s)
    rw [shiftRight_succ_eq, ExtendedMantissa.roundedMantissa, Rounding.divide, hmod, Nat.pow_succ]
    generalize m / (2 ^ s * 2) = q
    generalize m % 2 ^ s = low at hlow ⊢
    generalize 2 ^ s = unit at hlow ⊢
    -- The two things that are kept tell less than a half from a half and from more.
    by_cases hlowest : low = 0
    · subst hlowest
      rcases Nat.mod_two_eq_zero_or_one (m / unit) with heven | hodd
      · have hexact : 2 * (0 + unit * 0) < unit * 2 := by omega
        rw [heven, if_pos hexact]
        rfl
      · have hhalf : ¬ 2 * (0 + unit * 1) < unit * 2 ∧ ¬ unit * 2 < 2 * (0 + unit * 1) := by omega
        rw [hodd, if_neg hhalf.1, if_neg hhalf.2]
        show q + q % 2 = if q % 2 = 0 then q else q + 1
        split_ifs <;> omega
    · have hsticky : (low != 0) = true := bne_iff_ne.2 hlowest
      rw [hsticky]
      rcases Nat.mod_two_eq_zero_or_one (m / unit) with heven | hodd
      · have hless : 2 * (low + unit * 0) < unit * 2 := by omega
        rw [heven, if_pos hless]
        rfl
      · have hmore : ¬ 2 * (low + unit * 1) < unit * 2 ∧ unit * 2 < 2 * (low + unit * 1) := by omega
        rw [hodd, if_neg hmore.1, if_pos hmore.2]
        rfl

/-! ## Exponents -/

section Exponents

variable {m k : Nat} {e t b : Int}

/-- A shifted number has so many bits more. -/
theorem log2_mul_two_pow (h : 0 < m) (k : Nat) : (m * 2 ^ k).log2 = m.log2 + k := by
  have hrange := (Nat.log2_eq_iff h.ne').1 rfl
  rw [Nat.log2_eq_iff (Nat.mul_pos h (Nat.two_pow_pos k)).ne', Nat.pow_add, Nat.add_right_comm,
    Nat.pow_add 2 (m.log2 + 1)]
  exact ⟨Nat.mul_le_mul_right _ hrange.1, Nat.mul_lt_mul_of_pos_right hrange.2 (Nat.two_pow_pos k)⟩

/-- A factor makes a number longer by at most its own length. -/
theorem log2_mul_le {a b : Nat} (ha : 0 < a) (hb : 0 < b) : (a * b).log2 ≤ a.log2 + b.log2 + 1 := by
  have hlt : (a * b).log2 < a.log2 + b.log2 + 2 := by
    have hsum : a.log2 + b.log2 + 2 = a.log2 + 1 + (b.log2 + 1) := by omega
    rw [Nat.log2_lt (Nat.mul_pos ha hb).ne', hsum, Nat.pow_add]
    exact Nat.mul_lt_mul'' Nat.lt_log2_self Nat.lt_log2_self
  omega

/-- Zeros behind a mantissa leave the number as it is. -/
theorem dyadic_mul_two_pow (negative : Bool) (m k : Nat) (e : Int) :
    dyadic negative (m * 2 ^ k) (e - k) = dyadic negative m e := by
  rw [dyadic, dyadic, zpow_sub₀ two_ne_zero, zpow_natCast]
  push_cast
  field_simp

/-- A number in a smaller unit. -/
theorem dyadic_eq_of_le (negative : Bool) (m : Nat) {low e : Int} (h : low ≤ e) :
    dyadic negative m e = dyadic negative (m * 2 ^ (e - low).toNat) low := by
  rw [← dyadic_mul_two_pow negative m (e - low).toNat e]
  congr 1
  omega

/-- Zeros behind the digits do not move the first one. -/
theorem totalExponent_mul_two_pow (h : 0 < m) (k : Nat) (e : Int) :
    totalExponent (m * 2 ^ k) (e - k) = totalExponent m e := by
  rw [totalExponent, totalExponent, log2_mul_two_pow h]
  push_cast
  omega

/-- Larger numbers have no smaller exponent. -/
theorem targetExponent_mono {a b : Int} (h : a ≤ b) :
    Format.binary64.targetExponent a ≤ Format.binary64.targetExponent b := by
  rw [targetExponent_eq, targetExponent_eq]
  omega

/-- A canonical mantissa is at its target exponent. -/
theorem IsCanonical.target_eq (h : IsCanonical m e) (hpos : 0 < m) :
    Format.binary64.targetExponent (totalExponent m e) = e := by
  have hmin := h.min_le
  have hlog : m.log2 < 53 := (Nat.log2_lt hpos.ne').2 h.lt
  rw [targetExponent_eq]
  unfold totalExponent
  by_cases hlarge : -1074 < e
  · have hfull : m.log2 = 52 := (Nat.log2_eq_iff hpos.ne').2 ⟨h.le_of_lt hlarge, h.lt⟩
    omega
  · omega

/-- A number of 53 bits needs no larger exponent. -/
theorem targetExponent_le_self (hpos : 0 < m) (hm : m < 2 ^ 53) (hmin : -1074 ≤ e) :
    Format.binary64.targetExponent (totalExponent m e) ≤ e := by
  have hlog : m.log2 < 53 := (Nat.log2_lt hpos.ne').2 hm
  rw [targetExponent_eq]
  unfold totalExponent
  omega

/-- A number below a power of two has no larger exponent than such a number can have. -/
theorem targetExponent_le_of_lt (hpos : 0 < m) (hlt : dyadic false m e < 2 ^ b) :
    Format.binary64.targetExponent (totalExponent m e) ≤ max (b - 53) (-1074) := by
  have hlog : (2 : ℚ) ^ ((m.log2 : Int) + e) < 2 ^ b := by
    refine lt_of_le_of_lt ?_ hlt
    have hle : (2 : ℚ) ^ m.log2 ≤ m := by exact_mod_cast Nat.log2_self_le hpos.ne'
    rw [dyadic_false, zpow_add₀ two_ne_zero, zpow_natCast]
    gcongr
  have hexponent := (zpow_lt_zpow_iff_right₀ one_lt_two).1 hlog
  rw [targetExponent_eq]
  unfold totalExponent
  omega

/-- A number from a power of two on has no smaller exponent than that power. -/
theorem le_targetExponent_of_le (hle : 2 ^ b ≤ dyadic false m e) :
    b - 52 ≤ Format.binary64.targetExponent (totalExponent m e) := by
  have hlog : (2 : ℚ) ^ b < 2 ^ ((m.log2 : Int) + 1 + e) := by
    refine hle.trans_lt ?_
    have hlt : (m : ℚ) < 2 ^ ((m.log2 : Int) + 1) := by exact_mod_cast Nat.lt_log2_self
    rw [dyadic_false, zpow_add₀ two_ne_zero]
    gcongr
  have hexponent := (zpow_lt_zpow_iff_right₀ one_lt_two).1 hlog
  rw [targetExponent_eq]
  unfold totalExponent
  omega

/-- In units of its target exponent a number has no fewer than 53 bits, unless the exponent is the
smallest one. -/
theorem two_pow_mul_le (hpos : 0 < m)
    (ht : Format.binary64.targetExponent (totalExponent m e) = t) (he : e ≤ t)
    (hlarge : -1074 < t) :
    2 ^ 52 * 2 ^ (t - e).toNat ≤ m := by
  have hrange := (Nat.log2_eq_iff hpos.ne').1 rfl
  rw [targetExponent_eq] at ht
  unfold totalExponent at ht
  rw [← Nat.pow_add]
  exact (Nat.pow_le_pow_right (by decide) (by omega)).trans hrange.1

/-- In units of the target exponent a number is the quotient that is rounded. -/
theorem quotient_eq (m : Nat) (e t : Int) :
    ((m * 2 ^ (e - t).toNat : Nat) : ℚ) / (2 ^ (t - e).toNat : Nat) = dyadic false m e / 2 ^ t := by
  have hpower : (2 : ℚ) ^ (e - t) = 2 ^ (e - t).toNat / 2 ^ (t - e).toNat := by
    rw [← zpow_natCast, ← zpow_natCast, ← zpow_sub₀ two_ne_zero]
    congr 1
    omega
  rw [dyadic_false, mul_div_assoc, ← zpow_sub₀ two_ne_zero, hpower]
  push_cast
  rw [mul_div_assoc]

end Exponents

/-! ## Rounding to 53 bits -/

/-- A finite double by its sign and its magnitude. -/
def HasMagnitude (x : Float) (negative : Bool) (q : ℚ) : Prop :=
  ∃ m e, parts x = .finite negative m e ∧ dyadic false m e = q

/-- The unpacked doubles of a sign and a magnitude. -/
inductive Holds (sign : Sign) : ℚ → UnpackedFloat → Prop where
  | zero : Holds sign 0 (.zero sign)
  | finite {m : Nat} {e : Int} (h : IsCanonical m e) (hpos : 0 < m) :
      Holds sign (dyadic false m e) (.finite sign m e hpos)

/-- The opposite number has the other sign. -/
theorem HasMagnitude.neg {x : Float} {negative : Bool} {q : ℚ} (h : HasMagnitude x negative q) :
    HasMagnitude (-x) (!negative) q := by
  obtain ⟨m, e, hparts, hvalue⟩ := h
  exact ⟨m, e, parts_neg hparts, hvalue⟩

/-- The parts of zero. -/
theorem parts_zero : parts 0.0 = .finite false 0 (-1074) := by decide +kernel

/-- Negative zero is not below zero. -/
theorem HasMagnitude.lt_zero_iff {x : Float} {negative : Bool} {q : ℚ}
    (h : HasMagnitude x negative q) : x < 0.0 ↔ negative = true ∧ q ≠ 0 := by
  obtain ⟨m, e, hparts, rfl⟩ := h
  have hzero : value? 0.0 = some (((0 : ℚ) : WithTop ℚ) : WithBot (WithTop ℚ)) := by
    rw [value?_of_parts parts_zero, dyadic_zero]
  have hlt : x < 0.0 ↔ dyadic negative m e < 0 := by
    simp only [lt_iff, value?_of_parts hparts, hzero, Option.some.injEq, exists_and_left,
      exists_eq_left', WithBot.coe_lt_coe, WithTop.coe_lt_coe]
  have hnonneg : 0 ≤ dyadic false m e := by
    rw [dyadic_false]
    positivity
  rw [hlt]
  cases negative with
  | false => exact iff_of_false hnonneg.not_gt (by simp)
  | true => rw [dyadic_true, neg_lt_zero, hnonneg.lt_iff_ne']; simp

section Round

variable {sign : Sign} {m k : Nat} {e t : Int} {q : ℚ} {u : UnpackedFloat}

/-- What holds for an unpacked number holds when it is packed. -/
theorem Holds.pack (h : Holds sign q u) :
    HasMagnitude (.ofModel (.pack u)) (isNegative sign) q := by
  cases h with
  | zero => exact ⟨0, -1074, parts_pack_zero sign, dyadic_zero _ _⟩
  | finite h hpos => exact ⟨_, _, parts_pack sign h hpos, rfl⟩

/-- A number is brought to its exponent by a shift. -/
theorem shiftToTargetExponent_eq
    (ht : Format.binary64.targetExponent (totalExponent m e) = t) (he : e ≤ t) :
    shiftToTargetExponent Format.binary64 m e .exact =
      ((⟨m, false, false⟩ : ExtendedMantissa) >>> (t - e).toNat, t) := by
  have hexponent : e + ((t - e).toNat : Int) = t := by omega
  simp only [shiftToTargetExponent, ht, shiftToExponent, hexponent]
  rfl

/-- A rounded mantissa is canonical, or it has one bit too much, which is zero. -/
theorem exists_canonical {r : Nat} (hpos : 0 < r) (hupper : r ≤ 2 ^ 53) (hmin : -1074 ≤ t)
    (hmax : t ≤ 970) (hlower : -1074 < t → 2 ^ 52 ≤ r) :
    ∃ r' t', IsCanonical r' t' ∧ 0 < r' ∧ dyadic false r t = dyadic false r' t' ∧
      shiftToTargetExponent Format.binary64 r t .exact = (⟨r', false, false⟩, t') := by
  rcases Nat.lt_or_eq_of_le hupper with hsmall | rfl
  · have hcanonical : IsCanonical r t := ⟨hsmall, hmin, by omega, hlower⟩
    refine ⟨r, t, hcanonical, hpos, rfl, ?_⟩
    rw [shiftToTargetExponent_eq (hcanonical.target_eq hpos) (le_refl t), Int.sub_self]
    rfl
  · have hcanonical : IsCanonical (2 ^ 52) (t + 1) :=
      ⟨by decide, by omega, by omega, fun _ => le_refl _⟩
    have htotal := totalExponent_mul_two_pow (m := 2 ^ 52) (by decide) 1 (t + 1)
    have htarget := hcanonical.target_eq (by decide)
    have hvalue := dyadic_mul_two_pow false (2 ^ 52) 1 (t + 1)
    rw [Nat.cast_one, Int.add_sub_cancel, ← Nat.pow_add] at htotal hvalue
    rw [← htotal] at htarget
    have hone : (t + 1 - t).toNat = 1 := by omega
    refine ⟨2 ^ 52, t + 1, hcanonical, by decide, hvalue, ?_⟩
    rw [shiftToTargetExponent_eq htarget (by omega), hone]
    rfl

/-- What is left after the second shift is a double. -/
theorem holds_of_rounded (sign : Sign) {r : Nat} (hupper : r ≤ 2 ^ 53) (hmin : -1074 ≤ t)
    (hmax : t ≤ 970) (hlower : -1074 < t → 2 ^ 52 ≤ r) :
    let shifted := shiftToTargetExponent Format.binary64 r t .exact
    Holds sign (dyadic false r t)
      (if h : shifted.1.mantissa = 0 then .zero sign
        else .finite sign shifted.1.mantissa shifted.2 (Nat.pos_of_ne_zero h)) := by
  intro shifted
  rcases Nat.eq_zero_or_pos r with rfl | hr
  · have hzero : shifted.1.mantissa = 0 := by
      simp only [shifted, shiftToTargetExponent, shiftToExponent,
        ExtendedMantissa.ofMantissaAndAccuracy, mantissa_shiftRight, Nat.zero_div]
    rw [dif_pos hzero, dyadic_zero]
    exact .zero
  · obtain ⟨r', t', hcanonical, hr', hvalue, hshifted⟩ :=
      exists_canonical hr hupper hmin hmax hlower
    simp only [shifted, hvalue, hshifted, dif_neg hr'.ne']
    exact .finite hcanonical hr'

/-- A mantissa is rounded to a multiple of the unit of its target exponent. -/
theorem holds_roundWithAccuracy (sign : Sign) (hpos : 0 < m)
    (ht : Format.binary64.targetExponent (totalExponent m e) = t) (he : e ≤ t) (hmax : t ≤ 970) :
    Holds sign (dyadic false (Rounding.divide .toEven m (2 ^ (t - e).toNat)) t)
      (roundWithAccuracy Format.binary64 sign m e .exact) := by
  have hunit : 0 < 2 ^ (t - e).toNat := Nat.two_pow_pos _
  have hmin : -1074 ≤ t := by
    rw [← ht, targetExponent_eq]
    exact le_max_right _ _
  have hupper : Rounding.divide .toEven m (2 ^ (t - e).toNat) ≤ 2 ^ 53 := by
    have hrange := (Nat.log2_eq_iff hpos.ne').1 rfl
    rw [← roundedMantissa_shiftRight]
    apply roundedMantissa_shiftRight_le
    rw [targetExponent_eq] at ht
    unfold totalExponent at ht
    rw [← Nat.pow_add]
    exact hrange.2.le.trans (Nat.pow_le_pow_right (by decide) (by omega))
  have hlower : -1074 < t → 2 ^ 52 ≤ Rounding.divide .toEven m (2 ^ (t - e).toNat) := by
    intro hlarge
    by_contra hless
    have hbound : Rounding.divide .toEven m (2 ^ (t - e).toNat) ≤ 2 ^ 52 - 1 := by omega
    rw [Rounding.divide_toEven_le_iff hunit (by decide)] at hbound
    have hbits := two_pow_mul_le hpos ht he hlarge
    omega
  have hrounded := holds_of_rounded sign hupper hmin hmax hlower
  simp only [roundWithAccuracy, shiftToTargetExponent_eq ht he, roundedMantissa_shiftRight]
  exact hrounded

/-- Before it is rounded, a mantissa gets as many bits as the target exponent asks for. -/
theorem holds_round (sign : Sign) (hpos : 0 < m)
    (ht : Format.binary64.targetExponent (totalExponent m e) = t) (hmax : t ≤ 970) :
    Holds sign (dyadic false
        (Rounding.divide .toEven (m * 2 ^ (e - t).toNat) (2 ^ (t - e).toNat)) t)
      (UnpackedFloat.round Format.binary64 sign m e) := by
  have hpos' : 0 < m * 2 ^ (e - t).toNat := Nat.mul_pos hpos (Nat.two_pow_pos _)
  have ht' := (congrArg Format.binary64.targetExponent
    (totalExponent_mul_two_pow hpos (e - t).toNat e)).trans ht
  have hshift : (t - (e - ((e - t).toNat : Int))).toNat = (t - e).toNat := by omega
  have hround := holds_roundWithAccuracy sign hpos' ht' (by omega) hmax
  rw [hshift] at hround
  simp only [UnpackedFloat.round, ht, decreaseExponent, Nat.shiftLeft_eq]
  exact hround

/-- A number of 53 bits is rounded to itself. -/
theorem holds_roundWithAccuracy_exact (sign : Sign) (hpos : 0 < m) (hm : m < 2 ^ 53)
    (hmin : -1074 ≤ e) (hmax : e ≤ 970)
    (hk : e - k ≤ Format.binary64.targetExponent (totalExponent m e)) :
    Holds sign (dyadic false m e)
      (roundWithAccuracy Format.binary64 sign (m * 2 ^ k) (e - k) .exact) := by
  have hle := targetExponent_le_self hpos hm hmin
  obtain ⟨t, ht⟩ : ∃ t, Format.binary64.targetExponent (totalExponent m e) = t := ⟨_, rfl⟩
  rw [ht] at hk hle
  have ht' :=
    (congrArg Format.binary64.targetExponent (totalExponent_mul_two_pow hpos k e)).trans ht
  have hround := holds_roundWithAccuracy sign (Nat.mul_pos hpos (Nat.two_pow_pos k)) ht' hk
    (by omega)
  -- The bits that are dropped are zero.
  have hsplit : k = (e - t).toNat + (t - (e - k)).toNat := by omega
  have hfactor : m * 2 ^ k = m * 2 ^ (e - t).toNat * 2 ^ (t - (e - k)).toNat := by
    rw [Nat.mul_assoc, ← Nat.pow_add, ← hsplit]
  have hvalue := dyadic_eq_of_le false m (show t ≤ e by omega)
  rw [hfactor, Rounding.divide_exact _ _ (Nat.two_pow_pos _), ← hvalue, ← hfactor] at hround
  exact hround

end Round

/-! ## Exact results -/

section Exact

variable {m n k : Nat}

/-- The decimal digits of a number with 53 bits are read as this number. -/
theorem holds_ofScientific (hpos : 0 < m) (hm : m < 2 ^ 53) (hk : 0 < k) (hk' : k ≤ 1074) :
    Holds .positive (dyadic false m (-k))
      (UnpackedFloat.ofScientific Format.binary64 (m * 5 ^ k) (-k)) := by
  have hdigits : 0 < m * 5 ^ k := Nat.mul_pos hpos (Nat.pow_pos (by decide))
  have hten : (10 : Nat) ^ k = 5 ^ k * 2 ^ k := by rw [← Nat.mul_pow]
  have hfive : 0 < 5 ^ k := Nat.pow_pos (by decide)
  have hbits : (2 : Int) ^ Format.binary64.exponentBits = 2048 := by decide
  rw [UnpackedFloat.ofScientific, dif_neg hdigits.ne', if_neg (by omega), if_neg (by omega),
    if_neg (by omega)]
  -- The quotient gets at least as many bits behind the point as there are.
  have hle := targetExponent_le_self (e := -(k : Int)) hpos hm (by omega)
  have hlower : Format.binary64.targetExponent
      (totalExponent (m * 5 ^ k) 0 - totalExponent (10 ^ k) 0) ≤
        Format.binary64.targetExponent (totalExponent m (-k)) := by
    have hleft := log2_mul_le hpos hfive
    have hright := log2_mul_two_pow hfive k
    refine targetExponent_mono ?_
    unfold totalExponent
    rw [hten, hright]
    push_cast
    omega
  obtain ⟨n, hn⟩ : ∃ n : Nat, Format.binary64.targetExponent
      (totalExponent (m * 5 ^ k) 0 - totalExponent (10 ^ k) 0) = -(k : Int) - n :=
    ⟨(-(k : Int) - Format.binary64.targetExponent
      (totalExponent (m * 5 ^ k) 0 - totalExponent (10 ^ k) 0)).toNat, by omega⟩
  have hquotient : m * 5 ^ k * 2 ^ (k + n) = m * 2 ^ n * 10 ^ k := by
    rw [hten, Nat.pow_add]
    ring
  have hmin : min ((0 : Int) - 0) (-(k : Int) - n) = -(k : Int) - n := by omega
  have hamount : ((0 : Int) - 0 - (-(k : Int) - n)).toNat = k + n := by omega
  have hcast : (-(-(k : Int))).toNat = k := by omega
  have hexact : accuracyOfFraction 0 (10 ^ k) = .exact := rfl
  simp only [UnpackedFloat.div, divCore, hcast, hn, hmin, hamount, Nat.shiftLeft_eq, hquotient,
    Nat.mul_div_cancel _ (Nat.pow_pos (show 0 < 10 by decide)), Nat.mul_mod_left, hexact]
  exact holds_roundWithAccuracy_exact .positive hpos hm (by omega) (by omega) (by omega)

/-- A number of 53 bits is made exactly, if enough of them are behind the point. -/
theorem hasMagnitude_ofDyadic (negative : Bool) {e : Int} (hm : m < 2 ^ 53) (hmin : -1074 ≤ e)
    (hmax : e ≤ -23) : HasMagnitude (ofDyadic negative m e) negative (dyadic false m e) := by
  obtain ⟨k, rfl⟩ : ∃ k : Nat, e = -(k : Int) := ⟨(-e).toNat, by omega⟩
  have hmagnitude : HasMagnitude (Float.ofScientific (m * 5 ^ k) true k) false
      (dyadic false m (-k)) := by
    have hslow : ¬ (m * 5 ^ k < 2 ^ 53 ∧ k ≤ 22) := by omega
    have hofScientific : Float.ofScientific (m * 5 ^ k) true k = .ofModel
        (.pack (UnpackedFloat.ofScientific Format.binary64 (m * 5 ^ k) (.negOfNat k))) := by
      rw [Float.ofScientific, dif_neg hslow]
      rfl
    rw [hofScientific, Int.negOfNat_eq]
    rcases Nat.eq_zero_or_pos m with rfl | hpos
    · rw [Nat.zero_mul, dyadic_zero]
      exact Holds.zero.pack
    · exact (holds_ofScientific hpos hm (by omega) (by omega)).pack
  have hcast : (-(-(k : Int))).toNat = k := by omega
  simp only [ofDyadic, if_neg (show ¬ 0 ≤ -(k : Int) by omega), hcast, Nat.pow_eq]
  cases negative with
  | false => exact hmagnitude
  | true => exact hmagnitude.neg

/-- The remainder is exact, and it has the sign of the dividend. -/
theorem hasMagnitude_remainder {x y : Float} {negative sign : Bool} {e f : Int}
    (hx : parts x = .finite negative m e) (hy : parts y = .finite sign n f) (hn : 0 < n)
    (hf : f ≤ -23) : HasMagnitude (remainder x y) negative
      (dyadic false n f * Int.fract (dyadic false m e / dyadic false n f)) := by
  have hdividend := isCanonical_of_parts hx
  have hdivisor := isCanonical_of_parts hy
  have hmin := hdividend.min_le
  have hmin' := hdivisor.min_le
  obtain ⟨low, hlow⟩ : ∃ low, min e f = low := ⟨_, rfl⟩
  obtain ⟨a, ha⟩ : ∃ a : Nat, (e - low).toNat = a := ⟨_, rfl⟩
  obtain ⟨b, hb⟩ : ∃ b : Nat, (f - low).toNat = b := ⟨_, rfl⟩
  have hscale : 0 < n * 2 ^ b := Nat.mul_pos hn (Nat.two_pow_pos b)
  -- One of the two mantissas gets no zeros behind it.
  have hbits : m * 2 ^ a % (n * 2 ^ b) < 2 ^ 53 := by
    rcases Nat.eq_zero_or_pos a with rfl | hapos
    · rw [Nat.pow_zero, Nat.mul_one]
      exact (Nat.mod_le _ _).trans_lt hdividend.lt
    · obtain rfl : b = 0 := by omega
      refine (Nat.mod_lt _ hscale).trans ?_
      rw [Nat.pow_zero, Nat.mul_one]
      exact hdivisor.lt
  have hremainder : remainder x y = ofDyadic negative (m * 2 ^ a % (n * 2 ^ b)) low := by
    rw [remainder, hx, hy]
    simp only [if_neg hn.ne', hlow, ha, hb, Nat.pow_eq]
  have hleft : dyadic false m e = (m * 2 ^ a : Nat) * 2 ^ low := by
    rw [dyadic_eq_of_le false m (show low ≤ e by omega), ha, dyadic_false]
  have hright : dyadic false n f = (n * 2 ^ b : Nat) * 2 ^ low := by
    rw [dyadic_eq_of_le false n (show low ≤ f by omega), hb, dyadic_false]
  have hvalue : dyadic false n f * Int.fract (dyadic false m e / dyadic false n f) =
      dyadic false (m * 2 ^ a % (n * 2 ^ b)) low := by
    have hunit : (2 : ℚ) ^ low ≠ 0 := zpow_ne_zero _ two_ne_zero
    have hcast : ((n * 2 ^ b : Nat) : ℚ) ≠ 0 := by exact_mod_cast hscale.ne'
    rw [hleft, hright, mul_div_mul_right _ _ hunit, Int.fract_div_natCast_eq_div_natCast_mod,
      dyadic_false]
    field_simp
  rw [hremainder, hvalue]
  exact hasMagnitude_ofDyadic negative hbits (by omega) (by omega)

end Exact

/-! ## Sums -/

/-- `y` is the number next to `v` among the multiples of the unit of its target exponent. -/
def RoundsTo (v y : ℚ) : Prop :=
  ∃ (m : Nat) (e t : Int), 0 < m ∧ dyadic false m e = v ∧
    Format.binary64.targetExponent (totalExponent m e) = t ∧
    dyadic false (Rounding.divide .toEven (m * 2 ^ (e - t).toNat) (2 ^ (t - e).toNat)) t = y

section Sum

variable {x y : Float} {m n : Nat} {e f : Int} {v w : ℚ}

/-- A number with digits is unpacked into them. -/
theorem unpack_of_parts {negative : Bool} (h : parts x = .finite negative m e) (hpos : 0 < m) :
    ∃ sign, isNegative sign = negative ∧ x.toModel.unpack = .finite sign m e hpos := by
  rw [parts_eq] at h
  cases hx : x.toModel.unpack with
  | notANumber => exact absurd h (by simp [hx, partsOf])
  | infinity sign => exact absurd h (by simp [hx, partsOf])
  | zero sign =>
    rw [hx, partsOf] at h
    obtain ⟨-, rfl, -⟩ := Parts.finite.inj h
    exact absurd hpos (lt_irrefl 0)
  | finite sign m' e' hpos' =>
    rw [hx, partsOf] at h
    obtain ⟨rfl, rfl, rfl⟩ := Parts.finite.inj h
    exact ⟨sign, rfl, rfl⟩

/-- The difference of two mantissas, taken at the smaller one of the exponents, is rounded. -/
theorem add_of_negative {d : Nat} (hm : 0 < m) (hn : 0 < n) (hd : 0 < d)
    (h : n * 2 ^ (f - min e f).toNat = m * 2 ^ (e - min e f).toNat + d) :
    UnpackedFloat.add Format.binary64 (.finite .negative m e hm) (.finite .positive n f hn) =
      UnpackedFloat.round Format.binary64 .positive d (min e f) := by
  have hmantissa : -((m * 2 ^ (e - min e f).toNat : Nat) : Int) +
      ((n * 2 ^ (f - min e f).toNat : Nat) : Int) = (d : Int) := by omega
  have hpositive : compare (d : Int) 0 = .gt := compare_gt_iff_gt.2 (by omega)
  simp only [UnpackedFloat.add, decreaseExponent, Nat.shiftLeft_eq, Sign.apply, hmantissa,
    UnpackedFloat.normalize, hpositive, Int.toNat_natCast]

/-- The sum of a negative number and a larger positive one is the rounded difference of the two. -/
theorem exists_add_eq (hx : parts x = .finite true m e) (hy : parts y = .finite false n f)
    (hm : 0 < m) (hn : 0 < n) (hlt : dyadic false m e < dyadic false n f)
    (hfits : dyadic false n f < 2 ^ (1000 : Int)) :
    ∃ q, RoundsTo (dyadic false n f - dyadic false m e) q ∧ HasMagnitude (x + y) false q := by
  have hleft := dyadic_eq_of_le false m (min_le_left e f)
  have hright := dyadic_eq_of_le false n (min_le_right e f)
  have hmore : m * 2 ^ (e - min e f).toNat < n * 2 ^ (f - min e f).toNat := by
    have hunit : (0 : ℚ) < 2 ^ min e f := by positivity
    rw [hleft, hright, dyadic_false, dyadic_false] at hlt
    exact_mod_cast lt_of_mul_lt_mul_right hlt hunit.le
  obtain ⟨d, hd⟩ := Nat.exists_eq_add_of_lt hmore
  have hvalue : dyadic false (d + 1) (min e f) = dyadic false n f - dyadic false m e := by
    rw [hleft, hright, hd, dyadic_false, dyadic_false, dyadic_false]
    push_cast
    ring
  have htarget : Format.binary64.targetExponent (totalExponent (d + 1) (min e f)) ≤ 970 := by
    have hnonneg := (dyadic_pos e hm).le
    have hbound := targetExponent_le_of_lt (m := d + 1) (b := 1000) (Nat.succ_pos d)
      (show dyadic false (d + 1) (min e f) < 2 ^ (1000 : Int) by linarith)
    omega
  obtain ⟨s, hs, hunpack⟩ := unpack_of_parts hx hm
  obtain ⟨s', hs', hunpack'⟩ := unpack_of_parts hy hn
  obtain rfl : s = .negative := by
    cases s with
    | negative => rfl
    | positive => exact absurd hs (by decide)
  obtain rfl : s' = .positive := by
    cases s' with
    | negative => exact absurd hs' (by decide)
    | positive => rfl
  refine ⟨_, ⟨d + 1, min e f, _, Nat.succ_pos d, hvalue, rfl, rfl⟩, ?_⟩
  have hadd : x + y = .ofModel
      (.pack (UnpackedFloat.add Format.binary64 x.toModel.unpack y.toModel.unpack)) := rfl
  rw [hadd, hunpack, hunpack', add_of_negative hm hn (Nat.succ_pos d) hd]
  exact (holds_round .positive (Nat.succ_pos d) rfl htarget).pack

/-- A result below 512 is within half of the unit `2 ^ -44`. -/
theorem RoundsTo.abs_sub_le (h : RoundsTo v w) (hv : v < 512) : |w - v| ≤ 1 / 2 ^ 45 := by
  obtain ⟨m, e, t, hpos, rfl, ht, rfl⟩ := h
  have hexponent := targetExponent_le_of_lt (m := m) (b := 9) hpos (by norm_num; exact hv)
  have hunit : (2 : ℚ) ^ t ≤ 2 ^ (-44 : Int) := zpow_le_zpow_right₀ one_le_two (by omega)
  have hpositive : (0 : ℚ) < 2 ^ t := by positivity
  have hlast : (2 : ℚ) ^ (-44 : Int) / 2 = 1 / 2 ^ 45 := by norm_num
  have hsplit : dyadic false m e = dyadic false m e / 2 ^ t * 2 ^ t :=
    (div_mul_cancel₀ _ hpositive.ne').symm
  have hhalf := Rounding.abs_divide_sub_le .toEven (m * 2 ^ (e - t).toNat)
    (Nat.two_pow_pos (t - e).toNat)
  rw [quotient_eq] at hhalf
  rw [← hlast, dyadic_false, hsplit, ← sub_mul, abs_mul, abs_of_pos hpositive]
  calc _ ≤ 1 / 2 * (2 : ℚ) ^ t := by gcongr
    _ = (2 : ℚ) ^ t / 2 := one_div_mul_eq_div _ _
    _ ≤ (2 : ℚ) ^ (-44 : Int) / 2 := by gcongr

/-- From 256 up to 512 doubles are the multiples of `2 ^ -44`, and what is smaller stays so. An even
multiple is reached from half a unit below it. -/
theorem RoundsTo.lt_iff {k : Nat} (h : RoundsTo v w) (hv : v < 512) (hk : 2 ^ 52 + 2 < k)
    (heven : k % 2 = 0) : w < k / 2 ^ 44 ↔ v < (k - 1 / 2) / 2 ^ 44 := by
  obtain ⟨n, rfl⟩ := Nat.exists_eq_add_of_lt hk
  rcases lt_or_ge v 256 with hsmall | hbig
  · have hcast : (2 ^ 52 + 3 : ℚ) ≤ (2 ^ 52 + 2 + n + 1 : Nat) := by
      push_cast
      linarith [n.cast_nonneg (α := ℚ)]
    have herror := (abs_le.1 (h.abs_sub_le hv)).2
    generalize ((2 ^ 52 + 2 + n + 1 : Nat) : ℚ) = bound at hcast ⊢
    refine iff_of_true ?_ ?_
    · rw [lt_div_iff₀ (by norm_num)]
      linarith
    · rw [lt_div_iff₀ (by norm_num)]
      linarith
  · obtain ⟨m, e, t, hpos, rfl, ht, rfl⟩ := h
    obtain rfl : t = -44 := by
      have hupper := targetExponent_le_of_lt (m := m) (b := 9) hpos (by norm_num; exact hv)
      have hlower := le_targetExponent_of_le (m := m) (b := 8) (by norm_num; exact hbig)
      omega
    have hunit : (2 : ℚ) ^ (-44 : Int) = 1 / 2 ^ 44 := by norm_num
    have hhalf : ((2 ^ 52 + 2 + n + 1 : Nat) - 1 / 2 : ℚ) = (2 ^ 52 + 2 + n : Nat) + 1 / 2 := by
      push_cast
      ring
    rw [dyadic_false, hunit, mul_one_div, div_lt_div_iff_of_pos_right (by norm_num), Nat.cast_lt,
      Nat.lt_succ_iff, Rounding.divide_toEven_le_iff_div (Nat.two_pow_pos _) (by omega),
      quotient_eq, hhalf, hunit, div_div_eq_mul_div, lt_div_iff₀ (by norm_num), div_one]

end Sum

end Binary64

namespace Decimal

open Binary64

/-- Without decimals the nearest whole number is written. -/
theorem fixed_zero {x : Float} {negative : Bool} {q : ℚ} (h : HasMagnitude x negative q) :
    ∃ n d : Nat, 0 < d ∧ q = (n : ℚ) / d ∧
      fixed 0 x = signed negative (Numeral.ofNat (Rounding.divide .toEven n d)) := by
  obtain ⟨m, e, hparts, rfl⟩ := h
  refine ⟨m * (if 0 ≤ e then 2 ^ e.toNat else 1), if 0 ≤ e then 1 else 2 ^ (-e).toNat, ?_, ?_, ?_⟩
  · split_ifs
    · exact Nat.one_pos
    · exact Nat.two_pow_pos _
  · have hquotient := quotient_eq m e 0
    rw [zpow_zero, div_one, Int.sub_zero, Int.zero_sub] at hquotient
    rw [← hquotient]
    split_ifs with he
    · rw [Int.toNat_of_nonpos (show -e ≤ 0 by omega), Nat.pow_zero]
    · rw [Int.toNat_of_nonpos (show e ≤ 0 by omega), Nat.pow_zero]
  · simp only [fixed, hparts, Nat.pow_eq, Nat.pow_zero, Nat.mul_one, pointed, if_true]

end Decimal

end WeatherBus
