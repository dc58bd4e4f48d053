import WeatherBus.LightningDetector.Instrument
import WeatherBus.Proofs.LightningDetector.Reply
import WeatherBus.Proofs.Number.Rounded

/-! # The direction that the lightning detector sends

A bearing is reduced to a full turn first and rounded to whole degrees afterwards. Rounding can undo
the reduction: just below the full turn it leads back to 360.

* **`residue`** — a number of degrees without its full turns;
* **`hasMagnitude_floorMod`**, **`exists_floorMod`** — the reduction of a double is exact, unless
  the double is below zero: then it is rounded to a double once;
* **`exists_bearing_sent`** — the text that is sent for every finite bearing, and exactly when it is
  a direction from 000 to 359. -/

namespace WeatherBus

namespace LightningDetector

open Binary64

variable {x : Float} {negative : Bool} {m : Nat} {e : Int}

/-! ## Full turns -/

/-- What is left of a number of degrees without its full turns, from 0 up to 360. -/
def residue (v : ℚ) : ℚ := 360 * Int.fract (v / 360)

/-- The residue is not negative. -/
theorem residue_nonneg (v : ℚ) : 0 ≤ residue v := by
  have hfract := Int.fract_nonneg (v / 360)
  rw [residue]
  positivity

/-- It is less than a full turn. -/
theorem residue_lt (v : ℚ) : residue v < 360 := by
  have hfract := Int.fract_lt_one (v / 360)
  rw [residue]
  linarith

/-- Full turns are full turns backwards, too. -/
theorem residue_neg_eq_zero_iff {v : ℚ} : residue (-v) = 0 ↔ residue v = 0 := by
  have hturn : (360 : ℚ) ≠ 0 := by norm_num
  rw [residue, residue, neg_div, mul_eq_zero_iff_left hturn, mul_eq_zero_iff_left hturn,
    Int.fract_neg_eq_zero]

/-- Backwards a turn is what is left of it forwards. -/
theorem residue_neg {v : ℚ} (h : residue v ≠ 0) : residue (-v) = 360 - residue v := by
  have hfract : Int.fract (v / 360) ≠ 0 := right_ne_zero_of_mul h
  rw [residue, residue, neg_div, Int.fract_neg hfract]
  ring

/-- The parts of a full turn. -/
theorem parts_turn : parts 360.0 = .finite false (360 * 2 ^ 44) (-44) := by decide +kernel

/-- The value of a full turn. -/
theorem dyadic_turn : dyadic false (360 * 2 ^ 44) (-44) = 360 := by
  rw [dyadic_false]
  norm_num

/-- A full turn is its own size. -/
theorem abs_turn : (360.0 : Float).abs = 360.0 := by decide +kernel

/-! ## Reducing a bearing -/

/-- The remainder by a full turn is the residue, with the sign of the number. -/
theorem hasMagnitude_remainder_turn (hx : parts x = .finite negative m e) :
    HasMagnitude (remainder x 360.0) negative (residue (dyadic false m e)) := by
  have hremainder := hasMagnitude_remainder hx parts_turn (by decide) (by decide)
  rw [dyadic_turn] at hremainder
  exact hremainder

/-- A bearing that is not below zero is reduced exactly. So is a number of full turns, which keeps
its sign. -/
theorem hasMagnitude_floorMod (hx : parts x = .finite negative m e)
    (h : negative = false ∨ residue (dyadic negative m e) = 0) :
    HasMagnitude (floorMod x 360.0) negative (residue (dyadic negative m e)) := by
  have hremainder := hasMagnitude_remainder_turn hx
  have hvalue : residue (dyadic negative m e) = residue (dyadic false m e) := by
    cases negative with
    | false => rfl
    | true =>
      have hzero := h.resolve_left Bool.true_eq_false_eq_False
      rw [dyadic_true, residue_neg_eq_zero_iff] at hzero
      rw [dyadic_true, hzero, residue_neg_eq_zero_iff, hzero]
  have hkeep : ¬ remainder x 360.0 < 0.0 := by
    rw [hremainder.lt_zero_iff, ← hvalue]
    rintro ⟨rfl, hne⟩
    exact hne (h.resolve_left Bool.true_eq_false_eq_False)
  rw [floorMod, if_neg hkeep, hvalue]
  exact hremainder

/-- A bearing below zero is reduced by adding a full turn to the remainder, and this sum is
rounded. -/
theorem exists_floorMod (hx : parts x = .finite true m e) (h : residue (dyadic true m e) ≠ 0) :
    ∃ y, RoundsTo (residue (dyadic true m e)) y ∧ HasMagnitude (floorMod x 360.0) false y := by
  have hremainder := hasMagnitude_remainder_turn hx
  rw [dyadic_true] at h ⊢
  have hne : residue (dyadic false m e) ≠ 0 := mt residue_neg_eq_zero_iff.2 h
  have hadd : remainder x 360.0 < 0.0 := hremainder.lt_zero_iff.2 ⟨rfl, hne⟩
  rw [floorMod, if_pos hadd, abs_turn, residue_neg hne]
  obtain ⟨n, f, hparts, hvalue⟩ := hremainder
  have hpos : 0 < n := by
    refine Nat.pos_of_ne_zero fun hzero => hne ?_
    rw [← hvalue, hzero, dyadic_zero]
  have hlt : dyadic false n f < dyadic false (360 * 2 ^ 44) (-44) := by
    rw [hvalue, dyadic_turn]
    exact residue_lt _
  have hfits : dyadic false (360 * 2 ^ 44) (-44) < 2 ^ (1000 : Int) := by
    rw [dyadic_turn]
    calc (360 : ℚ) < 2 ^ (9 : Int) := by norm_num
      _ ≤ 2 ^ (1000 : Int) := zpow_le_zpow_right₀ one_le_two (by decide)
  have hsum := exists_add_eq hparts parts_turn hpos (by decide) hlt hfits
  rw [dyadic_turn, hvalue] at hsum
  exact hsum

/-! ## Writing a direction -/

/-- A direction in whole degrees, from 000 to 359. -/
def IsDirection (token : Text) : Prop := ∃ n < 360, token = Numeral.zeroPadded 3 n

/-- Three digits are a direction if they are less than a full turn. -/
theorem isDirection_zeroPadded {n : Nat} : IsDirection (Numeral.zeroPadded 3 n) ↔ n < 360 := by
  refine ⟨?_, fun h => ⟨n, h, rfl⟩⟩
  rintro ⟨k, hk, heq⟩
  have hread := congrArg (Numeral.natural? 10) heq
  rw [Numeral.natural?_zeroPadded, Numeral.natural?_zeroPadded] at hread
  exact Option.some.inj hread ▸ hk

/-- A minus sign is no digit of a direction. -/
theorem not_isDirection_negative_zero : ¬ IsDirection "-00".toList := by
  rintro ⟨n, -, heq⟩
  have hread := congrArg (Numeral.natural? 10) heq
  have hnone : Numeral.natural? 10 "-00".toList = none := by decide
  rw [Numeral.natural?_zeroPadded, hnone] at hread
  exact absurd hread (by simp)

/-- The nearest whole number of degrees is written, in three digits. -/
theorem exists_degrees_eq {y : ℚ} (h : HasMagnitude (floorMod x 360.0) false y) :
    ∃ n : Nat, degrees x = Numeral.zeroPadded 3 n ∧ |(n : ℚ) - y| ≤ 1 / 2 ∧
      (n < 360 ↔ y < 719 / 2) := by
  obtain ⟨n, d, hd, rfl, hfixed⟩ := Decimal.fixed_zero h
  refine ⟨Rounding.divide .toEven n d, ?_, Rounding.abs_divide_sub_le _ _ hd, ?_⟩
  · obtain ⟨c, rest, hcons, -, hminus⟩ :=
      Numeral.exists_ofNat_eq_cons (Rounding.divide .toEven n d)
    rw [degrees, hfixed, Decimal.signed, if_neg Bool.false_ne_true, Numeral.zeroPadded, hcons]
    split
    · rename_i heq
      exact absurd (List.cons.inj heq).1 hminus
    · rfl
  · rw [Nat.lt_succ_iff, Rounding.divide_toEven_le_iff_div hd (by decide)]
    norm_num

/-- Below zero the residue has been rounded to a double before, which moves both the whole number
and the point from which on it is the full turn. -/
theorem exists_degrees_of_negative (hx : parts x = .finite true m e)
    (h : residue (dyadic true m e) ≠ 0) :
    ∃ n : Nat, degrees x = Numeral.zeroPadded 3 n ∧
      |(n : ℚ) - residue (dyadic true m e)| ≤ 1 / 2 + 1 / 2 ^ 45 ∧
      (n < 360 ↔ residue (dyadic true m e) < 719 / 2 - 1 / 2 ^ 45) := by
  obtain ⟨y, hrounds, hmagnitude⟩ := exists_floorMod hx h
  obtain ⟨n, hdegrees, hnear, hbelow⟩ := exists_degrees_eq hmagnitude
  have hsmall : residue (dyadic true m e) < 512 := (residue_lt _).trans (by norm_num)
  have hbound : y < 719 / 2 ↔ residue (dyadic true m e) < 719 / 2 - 1 / 2 ^ 45 := by
    have hlt := hrounds.lt_iff (k := 719 * 2 ^ 43) hsmall (by decide) (by decide)
    norm_num at hlt ⊢
    exact hlt
  refine ⟨n, hdegrees, ?_, hbelow.trans hbound⟩
  calc |(n : ℚ) - residue (dyadic true m e)|
      = |(n : ℚ) - y + (y - residue (dyadic true m e))| := by rw [sub_add_sub_cancel]
    _ ≤ |(n : ℚ) - y| + |y - residue (dyadic true m e)| := abs_add_le _ _
    _ ≤ 1 / 2 + 1 / 2 ^ 45 := add_le_add hnear (hrounds.abs_sub_le hsmall)

/-- Negative zero keeps its sign, in the place of a digit. -/
theorem degrees_of_negative_zero (h : HasMagnitude (floorMod x 360.0) true 0) :
    degrees x = "-00".toList := by
  obtain ⟨n, d, hd, hzero, hfixed⟩ := Decimal.fixed_zero h
  obtain rfl : n = 0 := by
    have hpos : (d : ℚ) ≠ 0 := by exact_mod_cast hd.ne'
    exact_mod_cast (div_eq_zero_iff.1 hzero.symm).resolve_right hpos
  have hround : Rounding.divide .toEven 0 d = 0 := by
    have hexact := Rounding.divide_exact .toEven 0 hd
    rwa [Nat.zero_mul] at hexact
  rw [degrees, hfixed, hround]
  rfl

/-! ## The data message -/

/-- The words of a message are its fields and the words of the text behind them. -/
theorem words_withMessage (d : LightningDetector) {fields : List Text} (hne : fields ≠ [])
    (h : ∀ field ∈ fields, field.IsWord) :
    Text.words (d.withMessage (Parameter.join fields)) = fields ++ Text.words d.message := by
  rw [withMessage, Parameter.join]
  split
  · rename_i hempty
    have hwords := Text.words_intercalate_append hne h fun field hfield => by
      rw [List.append_nil, hfield.words_eq]
      rfl
    rw [List.append_nil] at hwords
    rw [hwords, List.isEmpty_iff.1 hempty]
  · rw [Text.words_intercalate_append hne h fun field hfield => by
      rw [hfield.words_append_cons (by decide), Text.words_cons_of_isBlank (by decide)],
      Text.words_cons_of_isBlank (by decide)]

/-- The direction is the sixth word of the data message. -/
theorem words_data (d : LightningDetector) : (Text.words d.data)[5]? = some d.bearingText := by
  have hcount : ∀ n, (Numeral.ofNat n).IsWord := fun n =>
    (Numeral.isToken_ofNat n).isWord (Numeral.ofNat_ne_nil n)
  have hdistance : d.distanceText ≠ [] := by
    rw [distanceText]
    split
    · exact Decimal.fixed_ne_nil _ _
    · decide
  have hbearing : d.bearingText ≠ [] := by
    rw [bearingText]
    split
    · rw [degrees]
      split
      · exact List.cons_ne_nil _ _
      · exact List.append_ne_nil_of_right_ne_nil _ (Decimal.fixed_ne_nil _ _)
    · decide
  rw [data, words_withMessage d (List.cons_ne_nil _ _)]
  · rfl
  · simp only [List.forall_mem_cons]
    exact ⟨Text.IsToken.isWord (by decide) (by decide), hcount _, hcount _, hcount _,
      (isToken_distanceText d).isWord hdistance, (isToken_bearingText d).isWord hbearing, by simp⟩

/-- Whether rounding leaves a residue below the full turn. The residue of a bearing below zero is
rounded to a double first, and full turns backwards are a negative zero. -/
def StaysBelow (negative : Bool) (r : ℚ) : Prop :=
  if negative then 0 < r ∧ r < 719 / 2 - 1 / 2 ^ 45 else r < 719 / 2

/-- What is sent for a finite bearing: the whole number of degrees next to its residue, in three
digits. It is a direction exactly if the residue stays below the full turn. -/
theorem exists_bearing_sent {d : LightningDetector} (hbearing : d.strikes.bearing = some x)
    (hx : parts x = .finite negative m e) :
    ∃ (token : Text) (n : Nat), (Text.words d.data)[5]? = some token ∧
      token = (if negative = true ∧ residue (dyadic negative m e) = 0 then "-00".toList
        else Numeral.zeroPadded 3 n) ∧
      |(n : ℚ) - residue (dyadic negative m e)| ≤ 1 / 2 + 1 / 2 ^ 45 ∧
      (IsDirection token ↔ StaysBelow negative (residue (dyadic negative m e))) := by
  have hsent : d.bearingText = degrees x := by rw [bearingText, hbearing]
  have hnonneg := residue_nonneg (dyadic negative m e)
  rw [words_data, hsent]
  by_cases hadded : negative = true ∧ residue (dyadic negative m e) ≠ 0
  · obtain ⟨rfl, hne⟩ := hadded
    obtain ⟨n, hdegrees, hnear, hbelow⟩ := exists_degrees_of_negative hx hne
    refine ⟨degrees x, n, rfl, ?_, hnear, ?_⟩
    · rw [if_neg fun h => hne h.2, hdegrees]
    · rw [hdegrees, isDirection_zeroPadded, hbelow, StaysBelow, if_pos rfl]
      exact (and_iff_right (hnonneg.lt_of_ne' hne)).symm
  · have hexact : negative = false ∨ residue (dyadic negative m e) = 0 := by
      by_contra hboth
      rw [not_or] at hboth
      exact hadded ⟨Bool.eq_true_of_not_eq_false hboth.1, hboth.2⟩
    have hmagnitude := hasMagnitude_floorMod hx hexact
    cases negative with
    | false =>
      obtain ⟨n, hdegrees, hnear, hbelow⟩ := exists_degrees_eq hmagnitude
      refine ⟨degrees x, n, rfl, ?_, hnear.trans (by norm_num), ?_⟩
      · rw [if_neg fun h => Bool.false_ne_true h.1, hdegrees]
      · rw [hdegrees, isDirection_zeroPadded, hbelow, StaysBelow, if_neg Bool.false_ne_true]
    | true =>
      have hzero := hexact.resolve_left Bool.true_eq_false_eq_False
      rw [hzero] at hmagnitude ⊢
      have hdegrees := degrees_of_negative_zero hmagnitude
      refine ⟨degrees x, 0, rfl, ?_, by norm_num, ?_⟩
      · rw [if_pos ⟨rfl, rfl⟩, hdegrees]
      · rw [hdegrees, StaysBelow, if_pos rfl]
        exact iff_of_false not_isDirection_negative_zero fun h => lt_irrefl 0 h.1

/-- A quarter of a degree backwards leaves 359.75 of the full turn, which is too much. -/
theorem exists_bearing_sent_backwards :
    let d : LightningDetector := { strikes := { bearing := some (-0.25) } }
    parts (-0.25) = .finite true (2 ^ 52) (-54) ∧ residue (dyadic true (2 ^ 52) (-54)) = 359.75 ∧
      ∃ token n, (Text.words d.data)[5]? = some token ∧ token = Numeral.zeroPadded 3 n ∧
        |(n : ℚ) - 359.75| ≤ 1 / 2 + 1 / 2 ^ 45 ∧ ¬ IsDirection token := by
  intro d
  have hx : parts (-0.25) = .finite true (2 ^ 52) (-54) := by decide +kernel
  have hresidue : residue (dyadic true (2 ^ 52) (-54)) = 359.75 := by
    have hvalue : dyadic true (2 ^ 52) (-54) = -(0.25) := by
      rw [dyadic_true, dyadic_false]
      norm_num
    have hfloor : ⌊(-(0.25) / 360 : ℚ)⌋ = -1 := by
      rw [Int.floor_eq_iff]
      norm_num
    rw [hvalue, residue, Int.fract, hfloor]
    norm_num
  obtain ⟨token, n, hsent, htoken, hnear, hiff⟩ := exists_bearing_sent (d := d) rfl hx
  rw [hresidue] at htoken hnear hiff
  rw [if_neg (by norm_num)] at htoken
  refine ⟨hx, hresidue, token, n, hsent, htoken, hnear, fun h => ?_⟩
  have hbelow := hiff.1 h
  rw [StaysBelow, if_pos rfl] at hbelow
  exact absurd hbelow.2 (by norm_num)

/-- 359.7 degrees are sent as the full turn, and the full turn backwards with a minus sign. -/
theorem bearing_sent_as_full_turn :
    let d := (new "T0000001".toList).registers
    ∃ nearly backwards,
      Sample.parse? "CG=1 DIST=5 BRG=359.7".toList = some nearly ∧
      Sample.parse? "CG=1 DIST=5 BRG=-360".toList = some backwards ∧
      (Text.words (observe nearly d).data)[5]? = some "360".toList ∧
      (Text.words (observe backwards d).data)[5]? = some "-00".toList ∧
      ¬ IsDirection "360".toList ∧ ¬ IsDirection "-00".toList := by
  intro d
  have hfull : "360".toList = Numeral.zeroPadded 3 360 := rfl
  refine ⟨_, _, rfl, rfl, by decide +kernel, by decide +kernel, ?_, not_isDirection_negative_zero⟩
  rw [hfull, isDirection_zeroPadded]
  exact lt_irrefl 360

end LightningDetector

end WeatherBus
