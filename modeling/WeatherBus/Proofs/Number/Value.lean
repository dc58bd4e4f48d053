import Mathlib
import WeatherBus.Proofs.Number.Magnitude

/-! # The number that a double stands for

A double is a rational number, one of two ends, or no number. What is computed from the bits of
doubles is compared here with the numbers that they stand for.

* **`Binary64.parts_eq`** — the parts of a double are those of what it is unpacked to;
* **`Binary64.IsCanonical`** — mantissas and exponents of doubles; `parts_pack` says that they are
  read back when they have been packed;
* **`Binary64.value?`** — the number that a double stands for;
* **`Binary64.compare_unpack`**, **`Binary64.lt_iff`** — doubles are compared like the numbers, and
  what is no number is not compared at all;
* **`Binary64.toNat_toUInt64`** — the conversion to an unsigned word drops the fraction and stops at
  both ends of the range;
* **`Binary64.roundUp_eq`** — the nearest whole number, halves upwards;
* **`Binary64.roundUp_le_of_inRange`** — rounding to a whole number does not leave a range that ends
  at one. -/

namespace WeatherBus

namespace Binary64

open Float.Model Float.Model.UnpackedFloat

/-! ## Unpacking -/

section Unpack

/-- The fraction is in the lowest 52 bits. -/
theorem toNat_unpackMantissa (b : BitVec 64) :
    (@unpackMantissa Format.binary64 b).toNat = b.toNat % 2 ^ 52 := by
  rw [unpackMantissa_def, BitVec.extractLsb'_toNat, Nat.shiftRight_zero]

/-- The exponent is in the 11 bits above. -/
theorem toNat_unpackExponent (b : BitVec 64) :
    (@unpackExponent Format.binary64 b).toNat = b.toNat / 2 ^ 52 % 2 ^ 11 := by
  rw [unpackExponent_def, BitVec.extractLsb'_toNat, Nat.shiftRight_eq_div_pow]

/-- The sign is the highest bit. -/
theorem toNat_unpackSign (b : BitVec 64) :
    (@unpackSign Format.binary64 b).toNat = b.toNat / 2 ^ 63 := by
  have hlt := b.isLt
  rw [unpackSign_def, BitVec.extractLsb'_toNat, Nat.shiftRight_eq_div_pow]
  change b.toNat / 2 ^ 63 % 2 ^ 1 = b.toNat / 2 ^ 63
  omega

/-- A number is negative if that bit is set. -/
theorem isNegative_unpackSign (b : BitVec 64) :
    isNegative (.ofBitVec (@unpackSign Format.binary64 b)) = (b.toNat / 2 ^ 63 == 1) := by
  rw [← toNat_unpackSign]
  generalize @unpackSign Format.binary64 b = s
  revert s
  decide

/-- A word is known by its number. -/
theorem eq_ofNat_iff {n k : Nat} {v : BitVec n} (hk : k < 2 ^ n) :
    v = BitVec.ofNat n k ↔ v.toNat = k := by
  rw [← BitVec.toNat_inj, BitVec.toNat_ofNat, Nat.mod_eq_of_lt hk]

/-- The highest bit of most doubles is left out when they are packed. -/
theorem toNat_one_append (v : BitVec 52) : (1#1 ++ v).toNat = 2 ^ 52 + v.toNat := by
  rw [BitVec.toNat_append, ← Nat.shiftLeft_add_eq_or_of_lt v.isLt]
  rfl

/-- The parts of an unpacked double. -/
def partsOf : UnpackedFloat → Parts
  | .notANumber => .notANumber
  | .infinity sign => .infinite (isNegative sign)
  | .zero sign => .finite (isNegative sign) 0 (-1074)
  | .finite sign m e _ => .finite (isNegative sign) m e

/-- The parts of a double are those of what it is unpacked to. -/
theorem parts_eq (x : Float) : parts x = partsOf x.toModel.unpack := by
  have hbits : x.toBits.toNat = x.toModel.toBits.toBitVec.toNat := rfl
  have hones : (-1#11) = BitVec.ofNat 11 2047 := by decide
  simp only [parts, hbits, Nat.pow_eq, ← toNat_unpackMantissa, ← toNat_unpackExponent,
    ← isNegative_unpackSign]
  rw [Float.Model.unpack, UnpackedFloat.unpack]
  dsimp only
  by_cases hlarge : @unpackExponent Format.binary64 x.toModel.toBits.toBitVec = -1#11
  · rw [if_pos hlarge, if_pos ((eq_ofNat_iff (by decide)).1 (hlarge.trans hones))]
    by_cases hzero : @unpackMantissa Format.binary64 x.toModel.toBits.toBitVec = 0#52
    · rw [if_pos hzero, if_pos ((eq_ofNat_iff (by decide)).1 hzero)]
      rfl
    · rw [if_neg hzero, if_neg (mt (eq_ofNat_iff (by decide)).2 hzero)]
      rfl
  · rw [hones] at hlarge
    rw [hones, if_neg hlarge, if_neg (mt (eq_ofNat_iff (by decide)).2 hlarge)]
    by_cases hsmall : @unpackExponent Format.binary64 x.toModel.toBits.toBitVec = 0#11
    · -- Without the highest bit: zero, and what is smaller than all other doubles.
      have hexponent := (eq_ofNat_iff (by decide)).1 hsmall
      rw [if_pos hsmall, if_pos hexponent]
      by_cases hzero : @unpackMantissa Format.binary64 x.toModel.toBits.toBitVec = 0#52
      · rw [dif_pos hzero, (eq_ofNat_iff (by decide)).1 hzero]
        rfl
      · rw [dif_neg hzero, hexponent]
        rfl
    · rw [if_neg hsmall, if_neg (mt (eq_ofNat_iff (by decide)).2 hsmall), partsOf,
        toNat_one_append]
      rfl

end Unpack

/-! ## Packing -/

/-- The mantissas and exponents of doubles: the highest bit is at its place, unless the exponent is
the smallest one. -/
structure IsCanonical (m : Nat) (e : Int) : Prop where
  lt : m < 2 ^ 53
  min_le : -1074 ≤ e
  le_max : e ≤ 971
  le_of_lt : -1074 < e → 2 ^ 52 ≤ m

section Canonical

variable {x : Float} {negative : Bool} {m : Nat} {e : Int}

/-- The digits of a double are canonical. -/
theorem isCanonical_of_parts (h : parts x = .finite negative m e) : IsCanonical m e := by
  have hexponent : x.toBits.toNat / Nat.pow 2 52 % Nat.pow 2 11 < Nat.pow 2 11 :=
    Nat.mod_lt _ (by decide)
  have hfraction : x.toBits.toNat % Nat.pow 2 52 < Nat.pow 2 52 := Nat.mod_lt _ (by decide)
  rw [parts] at h
  simp only [Nat.pow_eq, Int.ofNat_eq_natCast] at h hexponent hfraction
  split at h
  · split at h
    · exact absurd h (by simp)
    · exact absurd h (by simp)
  · split at h
    · obtain ⟨-, rfl, rfl⟩ := Parts.finite.inj h
      exact ⟨by omega, by omega, by omega, by omega⟩
    · obtain ⟨-, rfl, rfl⟩ := Parts.finite.inj h
      exact ⟨by omega, by omega, by omega, by omega⟩

/-- So are those that it is unpacked into. -/
theorem isCanonical_of_unpack {sign : Sign} {hpos : 0 < m}
    (h : x.toModel.unpack = .finite sign m e hpos) : IsCanonical m e := by
  have hparts : parts x = .finite (isNegative sign) m e := by rw [parts_eq, h, partsOf]
  exact isCanonical_of_parts hparts

/-- The parts of a zero that is packed. -/
theorem parts_pack_zero (sign : Sign) :
    parts (.ofModel (.pack (.zero sign))) = .finite (isNegative sign) 0 (-1074) := by
  cases sign <;> decide +kernel

/-- What is packed is read back, if it is made like a double. -/
theorem parts_pack (sign : Sign) (h : IsCanonical m e) (hpos : 0 < m) :
    parts (.ofModel (.pack (.finite sign m e hpos))) = .finite (isNegative sign) m e := by
  obtain ⟨hlt, hmin, hmax, hnormal⟩ := h
  have hbits : (Float.ofModel (.pack (.finite sign m e hpos))).toBits.toNat =
      (UnpackedFloat.pack Format.binary64 (.finite sign m e hpos)).toNat := rfl
  rw [pack_finite hpos hmax] at hbits
  by_cases hlog : m.log2 = 52
  · rw [if_pos hlog] at hbits
    have hrange := (Nat.log2_eq_iff hpos.ne').1 hlog
    have hexponent : (BitVec.ofNat 11 (e + 1075).toNat).toNat = (e + 1075).toNat := by
      rw [BitVec.toNat_ofNat]
      omega
    have hfraction : 2 ^ 52 + (BitVec.ofNat 52 m).toNat = m := by
      rw [BitVec.toNat_ofNat]
      omega
    rw [parts_packComponents hbits (by omega), hexponent, if_neg (by omega), hfraction]
    congr 1
    omega
  · rw [if_neg hlog] at hbits
    have hsmall : m < 2 ^ 52 := by
      by_contra hge
      exact hlog ((Nat.log2_eq_iff hpos.ne').2 ⟨by omega, hlt⟩)
    obtain rfl : e = -1074 := by
      by_contra hne
      have := hnormal (by omega)
      omega
    rw [parts_packComponents hbits (by decide), if_pos (by decide), BitVec.toNat_ofNat,
      Nat.mod_eq_of_lt hsmall]

/-- The negation turns the sign around and leaves the rest alone. -/
theorem parts_neg (h : parts x = .finite negative m e) : parts (-x) = .finite (!negative) m e := by
  have hneg : -x = .ofModel (.pack x.toModel.unpack.neg) := rfl
  have hcanonical := isCanonical_of_parts h
  rw [parts_eq] at h
  rw [hneg]
  cases hx : x.toModel.unpack with
  | notANumber => exact absurd h (by simp [hx, partsOf])
  | infinity sign => exact absurd h (by simp [hx, partsOf])
  | zero sign =>
    rw [hx, partsOf] at h
    obtain ⟨rfl, rfl, rfl⟩ := Parts.finite.inj h
    refine (parts_pack_zero (-sign)).trans ?_
    cases sign <;> rfl
  | finite sign m' e' hpos =>
    rw [hx, partsOf] at h
    obtain ⟨rfl, rfl, rfl⟩ := Parts.finite.inj h
    refine (parts_pack (-sign) hcanonical hpos).trans ?_
    cases sign <;> rfl

end Canonical

/-! ## Numbers -/

/-- The number `± m · 2 ^ e`. -/
def dyadic (negative : Bool) (m : Nat) (e : Int) : ℚ :=
  (if negative then -1 else 1) * (m * 2 ^ e)

section Dyadic

variable {m : Nat}

/-- Without a sign the value is a whole number times a power of two. -/
theorem dyadic_false (m : Nat) (e : Int) : dyadic false m e = m * 2 ^ e := by
  simp [dyadic]

/-- With a sign it is the opposite. -/
theorem dyadic_true (m : Nat) (e : Int) : dyadic true m e = -dyadic false m e := by
  simp [dyadic]

/-- Without digits it is zero. -/
theorem dyadic_zero (negative : Bool) (e : Int) : dyadic negative 0 e = 0 := by
  simp [dyadic]

/-- With digits and without a sign it is positive. -/
theorem dyadic_pos (e : Int) (h : 0 < m) : 0 < dyadic false m e := by
  have hm : (0 : ℚ) < m := by exact_mod_cast h
  rw [dyadic_false]
  positivity

/-- With digits and a sign it is negative. -/
theorem dyadic_neg (e : Int) (h : 0 < m) : dyadic true m e < 0 := by
  rw [dyadic_true]
  exact neg_neg_of_pos (dyadic_pos e h)

end Dyadic

/-- The number that a double stands for, with an end on either side, `none` for what is no
number. -/
def value? (x : Float) : Option (WithBot (WithTop ℚ)) :=
  match parts x with
  | .notANumber => none
  | .infinite true => some ⊥
  | .infinite false => some (⊤ : WithTop ℚ)
  | .finite negative m e => some (dyadic negative m e : WithTop ℚ)

/-- The value of a double is known by its parts. -/
theorem value?_of_parts {x : Float} {negative : Bool} {m : Nat} {e : Int}
    (h : parts x = .finite negative m e) :
    value? x = some ((dyadic negative m e : WithTop ℚ) : WithBot (WithTop ℚ)) := by
  rw [value?, h]

/-- What has no value is no number. -/
theorem isNaN_iff {x : Float} : x.isNaN = true ↔ value? x = none := by
  have hunpack : x.isNaN = x.toModel.unpack.isNaN := rfl
  rw [hunpack, value?, parts_eq]
  cases x.toModel.unpack with
  | notANumber => exact iff_of_true rfl rfl
  | infinity sign =>
    cases sign <;> exact iff_of_false Bool.false_ne_true (by simp [partsOf, isNegative])
  | zero sign => exact iff_of_false Bool.false_ne_true (by simp [partsOf])
  | finite sign m e hpos => exact iff_of_false Bool.false_ne_true (by simp [partsOf])

/-! ## The order of doubles -/

section Order

variable {x y : Float} {m₁ m₂ : Nat} {e₁ e₂ : Int}

/-- The mantissa of the larger exponent has all its bits, and no mantissa has more. -/
theorem IsCanonical.lt_of_exponent_lt (h₁ : IsCanonical m₁ e₁) (h₂ : IsCanonical m₂ e₂)
    (h : e₁ < e₂) : (m₁ * 2 ^ e₁ : ℚ) < m₂ * 2 ^ e₂ := by
  have hlow : (m₁ : ℚ) < 2 ^ (53 : Int) := by exact_mod_cast h₁.lt
  have hhigh : (2 : ℚ) ^ (52 : Int) ≤ m₂ := by
    exact_mod_cast h₂.le_of_lt (h₁.min_le.trans_lt h)
  calc (m₁ * 2 ^ e₁ : ℚ) < 2 ^ (53 : Int) * 2 ^ e₁ := by gcongr
    _ = 2 ^ (53 + e₁) := (zpow_add₀ two_ne_zero _ _).symm
    _ ≤ 2 ^ (52 + e₂) := zpow_le_zpow_right₀ one_le_two (by omega)
    _ = 2 ^ (52 : Int) * 2 ^ e₂ := zpow_add₀ two_ne_zero _ _
    _ ≤ m₂ * 2 ^ e₂ := by gcongr

/-- Of the magnitudes of doubles the exponents are compared first. -/
theorem IsCanonical.compare_eq (h₁ : IsCanonical m₁ e₁) (h₂ : IsCanonical m₂ e₂) :
    compare (dyadic false m₁ e₁) (dyadic false m₂ e₂) = (compare e₁ e₂).then (compare m₁ m₂) := by
  rw [dyadic_false, dyadic_false]
  rcases Int.lt_trichotomy e₁ e₂ with hlt | rfl | hgt
  · rw [compare_lt_iff_lt.2 hlt, compare_lt_iff_lt.2 (h₁.lt_of_exponent_lt h₂ hlt)]
    rfl
  · have hscale : (0 : ℚ) < 2 ^ e₁ := by positivity
    rw [compare_eq_iff_eq.2 (rfl : e₁ = e₁), Ordering.eq_then]
    rcases Nat.lt_trichotomy m₁ m₂ with hlt | rfl | hgt
    · have hcast : (m₁ : ℚ) < m₂ := by exact_mod_cast hlt
      rw [compare_lt_iff_lt.2 hlt, compare_lt_iff_lt.2 (mul_lt_mul_of_pos_right hcast hscale)]
    · rw [compare_eq_iff_eq.2 rfl, compare_eq_iff_eq.2 rfl]
    · have hcast : (m₂ : ℚ) < m₁ := by exact_mod_cast hgt
      rw [compare_gt_iff_gt.2 hgt, compare_gt_iff_gt.2 (mul_lt_mul_of_pos_right hcast hscale)]
  · rw [compare_gt_iff_gt.2 hgt, compare_gt_iff_gt.2 (h₂.lt_of_exponent_lt h₁ hgt)]
    rfl

/-- Opposite numbers compare the other way round. -/
theorem compare_neg (a b : ℚ) : compare (-a) (-b) = (compare a b).swap := by
  rw [← Std.OrientedCmp.eq_swap (a := b)]
  rcases lt_trichotomy b a with hlt | rfl | hgt
  · rw [compare_lt_iff_lt.2 hlt, compare_lt_iff_lt.2 (neg_lt_neg hlt)]
  · rw [compare_eq_iff_eq.2 rfl, compare_eq_iff_eq.2 rfl]
  · rw [compare_gt_iff_gt.2 hgt, compare_gt_iff_gt.2 (neg_lt_neg hgt)]

/-- Numbers compare as they did when the infinite ones are added. -/
theorem compare_coe (a b : ℚ) :
    compare ((a : WithTop ℚ) : WithBot (WithTop ℚ)) (b : WithTop ℚ) = compare a b := by
  have hmono : StrictMono fun q : ℚ => ((q : WithTop ℚ) : WithBot (WithTop ℚ)) :=
    WithBot.coe_strictMono.comp WithTop.coe_strictMono
  rw [← cmp_eq_compare, ← cmp_eq_compare, hmono.cmp_map_eq]

/-- A smaller number stays smaller. -/
theorem compare_coe_of_lt {a b : ℚ} (h : a < b) :
    compare ((a : WithTop ℚ) : WithBot (WithTop ℚ)) (b : WithTop ℚ) = .lt := by
  rw [compare_coe, compare_lt_iff_lt.2 h]

/-- A larger number stays larger. -/
theorem compare_coe_of_gt {a b : ℚ} (h : b < a) :
    compare ((a : WithTop ℚ) : WithBot (WithTop ℚ)) (b : WithTop ℚ) = .gt := by
  rw [compare_coe, compare_gt_iff_gt.2 h]

/-- All numbers are between the two ends. -/
theorem compare_ends (q : ℚ) :
    compare (⊥ : WithBot (WithTop ℚ)) (q : WithTop ℚ) = .lt ∧
      compare ((q : WithTop ℚ) : WithBot (WithTop ℚ)) ⊥ = .gt ∧
      compare ((q : WithTop ℚ) : WithBot (WithTop ℚ)) (⊤ : WithTop ℚ) = .lt ∧
      compare ((⊤ : WithTop ℚ) : WithBot (WithTop ℚ)) (q : WithTop ℚ) = .gt := by
  have hlow : (⊥ : WithBot (WithTop ℚ)) < (q : WithTop ℚ) := WithBot.bot_lt_coe _
  have hhigh : ((q : WithTop ℚ) : WithBot (WithTop ℚ)) < (⊤ : WithTop ℚ) :=
    WithBot.coe_lt_coe.2 (WithTop.coe_lt_top q)
  exact ⟨compare_lt_iff_lt.2 hlow, compare_gt_iff_gt.2 hlow, compare_lt_iff_lt.2 hhigh,
    compare_gt_iff_gt.2 hhigh⟩

/-- The number of an unpacked double. -/
def valueOf? : UnpackedFloat → Option (WithBot (WithTop ℚ))
  | .notANumber => none
  | .infinity .negative => some ⊥
  | .infinity .positive => some (⊤ : WithTop ℚ)
  | .zero _ => some ((0 : ℚ) : WithTop ℚ)
  | .finite sign m e _ => some (dyadic (isNegative sign) m e : WithTop ℚ)

/-- The value can be seen on the unpacked number. -/
theorem value?_eq (x : Float) : value? x = valueOf? x.toModel.unpack := by
  rw [value?, parts_eq]
  cases x.toModel.unpack with
  | notANumber => rfl
  | infinity sign => cases sign <;> rfl
  | zero sign =>
    simp only [partsOf, dyadic_zero]
    rfl
  | finite sign m e hpos => rfl

/-- Of one sign the magnitudes decide, the other way round below zero. -/
theorem compare_finite {s t : Sign} {m m' : Nat} {e e' : Int} (hpos : 0 < m) (hpos' : 0 < m')
    (h : IsCanonical m e) (h' : IsCanonical m' e') :
    UnpackedFloat.compare (.finite s m e hpos) (.finite t m' e' hpos') =
      Option.map₂ compare (valueOf? (.finite s m e hpos)) (valueOf? (.finite t m' e' hpos')) := by
  have hmagnitude := h.compare_eq h'
  have hleft := dyadic_neg e hpos
  have hright := dyadic_neg e' hpos'
  cases s <;> cases t
  · rw [valueOf?, isNegative, valueOf?, isNegative, dyadic_true, dyadic_true]
    exact congrArg some ((compare_coe _ _).trans
      ((compare_neg _ _).trans (congrArg Ordering.swap hmagnitude))).symm
  · exact congrArg some (compare_coe_of_lt (hleft.trans (dyadic_pos e' hpos'))).symm
  · exact congrArg some (compare_coe_of_gt (hright.trans (dyadic_pos e hpos))).symm
  · exact congrArg some ((compare_coe _ _).trans hmagnitude).symm

/-- Doubles are compared like the numbers that they stand for. -/
theorem compare_unpack (x y : Float) : x.toModel.unpack.compare y.toModel.unpack =
    Option.map₂ compare (value? x) (value? y) := by
  rw [value?_eq, value?_eq]
  cases hx : x.toModel.unpack with
  | notANumber => rfl
  | infinity s =>
    cases hy : y.toModel.unpack with
    | notANumber => cases s <;> rfl
    | infinity t =>
      have hends : (⊥ : WithBot (WithTop ℚ)) < (⊤ : WithTop ℚ) := WithBot.bot_lt_coe _
      cases s <;> cases t
      · exact congrArg some (compare_eq_iff_eq.2 rfl).symm
      · exact congrArg some (compare_lt_iff_lt.2 hends).symm
      · exact congrArg some (compare_gt_iff_gt.2 hends).symm
      · exact congrArg some (compare_eq_iff_eq.2 rfl).symm
    | zero t =>
      cases s
      · exact congrArg some (compare_ends _).1.symm
      · exact congrArg some (compare_ends _).2.2.2.symm
    | finite t m e hpos =>
      cases s
      · exact congrArg some (compare_ends _).1.symm
      · exact congrArg some (compare_ends _).2.2.2.symm
  | zero s =>
    cases hy : y.toModel.unpack with
    | notANumber => rfl
    | infinity t =>
      cases t
      · exact congrArg some (compare_ends _).2.1.symm
      · exact congrArg some (compare_ends _).2.2.1.symm
    | zero t => exact congrArg some (compare_eq_iff_eq.2 rfl).symm
    | finite t m e hpos =>
      cases t
      · exact congrArg some (compare_coe_of_gt (dyadic_neg e hpos)).symm
      · exact congrArg some (compare_coe_of_lt (dyadic_pos e hpos)).symm
  | finite s m e hpos =>
    cases hy : y.toModel.unpack with
    | notANumber => rfl
    | infinity t =>
      cases t
      · exact congrArg some (compare_ends _).2.1.symm
      · exact congrArg some (compare_ends _).2.2.1.symm
    | zero t =>
      cases s
      · exact congrArg some (compare_coe_of_lt (dyadic_neg e hpos)).symm
      · exact congrArg some (compare_coe_of_gt (dyadic_pos e hpos)).symm
    | finite t m' e' hpos' =>
      exact compare_finite hpos hpos' (isCanonical_of_unpack hx) (isCanonical_of_unpack hy)

/-- A double is less than another one if both are numbers and the number is less. -/
theorem lt_iff : x < y ↔ ∃ a b, value? x = some a ∧ value? y = some b ∧ a < b := by
  have hlt : x < y ↔ x.toModel.unpack.lt y.toModel.unpack = true :=
    ⟨fun h => of_decide_eq_true h, fun h => decide_eq_true h⟩
  rw [hlt, UnpackedFloat.lt, beq_iff_eq, compare_unpack, Option.map₂_eq_some_iff]
  simp only [compare_lt_iff_lt, Option.mem_def]

end Order

/-! ## The whole part -/

/-- The whole part of a double, `top` if it is larger. What is negative or no number has none. -/
def wholePart (top : Nat) (x : Float) : Nat :=
  match parts x with
  | .notANumber => 0
  | .infinite negative => if negative then 0 else top
  | .finite negative m e => min ⌊dyadic negative m e⌋₊ top

/-- The whole part is found by shifts. -/
theorem floor_dyadic_false (m : Nat) (e : Int) :
    ⌊dyadic false m e⌋₊ = m * 2 ^ e.toNat / 2 ^ (-e).toNat := by
  have hquotient : dyadic false m e = (m * 2 ^ e.toNat : Nat) / (2 ^ (-e).toNat : Nat) := by
    have hexponent : e = (e.toNat : Int) - ((-e).toNat : Int) := by omega
    rw [dyadic_false]
    nth_rewrite 1 [hexponent]
    push_cast
    rw [zpow_sub₀ two_ne_zero, zpow_natCast, zpow_natCast, mul_div_assoc]
  rw [hquotient, Nat.floor_div_eq_div]

/-- A negative number has no whole part. -/
theorem floor_dyadic_true (m : Nat) (e : Int) : ⌊dyadic true m e⌋₊ = 0 := by
  have hnonneg : 0 ≤ dyadic false m e := by
    rw [dyadic_false]
    positivity
  rw [dyadic_true, Nat.floor_eq_zero]
  linarith

/-- A word stops at its largest number. -/
theorem toNat_ofNatClamp (n : Nat) : (UInt64.ofNatClamp n).toNat = min n (2 ^ 64 - 1) := by
  have hsize : UInt64.size = 2 ^ 64 := rfl
  rw [UInt64.ofNatClamp]
  split
  · rw [UInt64.toNat_ofNatLT]
    omega
  · rw [UInt64.toNat_ofNatLT]
    omega

/-- A double is rounded towards zero by shifts. -/
theorem roundToInt_eq (sign : Sign) (m : Nat) (e : Int) :
    roundToInt sign m e = sign.apply (m * 2 ^ e.toNat / 2 ^ (-e).toNat : Nat) := by
  have hshift : (0 - (e - (e.toNat : Int))).toNat = (-e).toNat := by omega
  simp only [roundToInt, decreaseExponent, shiftToExponent, Int.sub_zero, hshift,
    ExtendedMantissa.ofMantissaAndAccuracy, mantissa_shiftRight, Nat.shiftLeft_eq]

/-- The conversion to an unsigned word drops the fraction and stops at both ends of the range. -/
theorem toNat_toUInt64 (x : Float) : x.toUInt64.toNat = wholePart (2 ^ 64 - 1) x := by
  have hclamp : x.toUInt64 = .ofNatClamp (x.toModel.unpack.toInt 0 (2 ^ 64 - 1)).toNat := rfl
  rw [hclamp, toNat_ofNatClamp, wholePart, parts_eq]
  cases x.toModel.unpack with
  | notANumber => rfl
  | infinity sign => cases sign <;> rfl
  | zero sign =>
    simp only [partsOf, dyadic_zero, Nat.floor_zero]
    rfl
  | finite sign m e hpos =>
    rw [toInt, roundToInt_eq]
    cases sign with
    | negative =>
      simp only [partsOf, isNegative, floor_dyadic_true, Sign.apply]
      rw [Int.toNat_of_nonpos (Int.neg_nonpos_of_nonneg (Int.natCast_nonneg _))]
    | positive =>
      simp only [partsOf, isNegative, floor_dyadic_false, Sign.apply]
      rfl

/-! ## The nearest whole number -/

/-- Adding one half to a magnitude and dropping the fraction, in whole numbers. -/
theorem floor_add_half (m : Nat) (e : Int) :
    ⌊dyadic false m e + 1 / 2⌋₊ =
      (2 * (m * 2 ^ e.toNat) + 2 ^ (-e).toNat) / (2 * 2 ^ (-e).toNat) := by
  have hquotient : dyadic false m e + 1 / 2 =
      (2 * (m * 2 ^ e.toNat) + 2 ^ (-e).toNat : Nat) / (2 * 2 ^ (-e).toNat : Nat) := by
    have hexponent : e = (e.toNat : Int) - ((-e).toNat : Int) := by omega
    rw [dyadic_false]
    nth_rewrite 1 [hexponent]
    push_cast
    rw [zpow_sub₀ two_ne_zero, zpow_natCast, zpow_natCast]
    field_simp
  rw [hquotient, Nat.floor_div_eq_div]

/-- A double is rounded to the nearest whole number, halves upwards, and to zero if it is
negative. -/
theorem roundUp_eq {x : Float} {q : ℚ}
    (h : value? x = some ((q : WithTop ℚ) : WithBot (WithTop ℚ))) :
    roundUp x = ⌊q + 1 / 2⌋₊ := by
  rw [roundUp]
  rw [value?] at h
  cases hparts : parts x with
  | notANumber => exact absurd h (by simp [hparts])
  | infinite negative => cases negative <;> exact absurd h (by simp [hparts])
  | finite negative m e =>
    rw [hparts] at h
    obtain rfl : dyadic negative m e = q :=
      WithTop.coe_injective (WithBot.coe_injective (Option.some.inj h))
    cases negative with
    | true =>
      have hnonneg : 0 ≤ dyadic false m e := by
        rw [dyadic_false]
        positivity
      rw [dyadic_true, eq_comm, Nat.floor_eq_zero]
      linarith
    | false =>
      rw [floor_add_half]
      dsimp only
      split
      · next he =>
        have hzero : (-e).toNat = 0 := by omega
        rw [hzero, pow_zero, Nat.pow_eq]
        omega
      · next he =>
        have hzero : e.toNat = 0 := by omega
        rw [hzero, pow_zero, Nat.mul_one, Nat.pow_eq]

/-- Rounding to a whole number does not leave a range that ends at one. -/
theorem roundUp_le_of_inRange {x c : Float} {n : Nat} (hrange : inRange 0.0 c x = true)
    (hwhole : IsWhole c n) : roundUp x ≤ n := by
  refine roundUp_le fun {m e} hparts => ?_
  rw [parts_eq] at hparts
  rcases unpack_of_inRange hrange hwhole with ⟨sign, hx⟩ | ⟨m', e', hpos, hx, hmost⟩
  · rw [hx, partsOf] at hparts
    obtain ⟨-, rfl, rfl⟩ := Parts.finite.inj hparts
    exact ⟨by decide, Nat.zero_le _⟩
  · rw [hx, partsOf] at hparts
    obtain ⟨-, rfl, rfl⟩ := Parts.finite.inj hparts
    exact hmost

/-- What lies in a range that ends at a whole number stands for a number. -/
theorem exists_value?_of_inRange {x c : Float} {n : Nat} (hrange : inRange 0.0 c x = true)
    (hwhole : IsWhole c n) :
    ∃ q : ℚ, value? x = some ((q : WithTop ℚ) : WithBot (WithTop ℚ)) := by
  rw [value?_eq]
  rcases unpack_of_inRange hrange hwhole with ⟨sign, hx⟩ | ⟨m, e, hpos, hx, -⟩
  · exact ⟨0, by rw [hx, valueOf?]⟩
  · exact ⟨dyadic false m e, by rw [hx, valueOf?, isNegative]⟩

end Binary64

end WeatherBus
