import WeatherBus.Number.Decimal
import WeatherBus.Number.Reader
import WeatherBus.Proofs.Number.Digits
import WeatherBus.Proofs.Number.Hex
import WeatherBus.Proofs.Text.Field

/-! # Written numbers

* **`Numeral.word32?_ofNat`**, **`Numeral.word?_ofInt`** — whole numbers are read back, also with
  leading zeros (**`Numeral.natural?_zeroPadded`**);
* **`Numeral.isToken_ofNat`**, **`Numeral.isToken_ofInt`**, **`Numeral.isToken_hex`** — they are
  written without blanks and separators;
* **`Decimal.isToken_fixed`**, **`Decimal.isToken_shortest`** — and so are doubles, those without
  digits included;
* **`Reader.number?_positional`** — a decimal fraction is read back as the double of its value. -/

namespace WeatherBus

open Text (IsToken isTokenChar)

namespace Numeral

variable {n : Nat}

/-! ## Reading back -/

/-- No number is written without digits. -/
theorem ofNat_ne_nil (n : Nat) : ofNat n ≠ [] := toDigits_ne_nil 10 n (by decide)

/-- A number is read from its decimal digits. -/
theorem natural?_ofNat (n : Nat) : natural? 10 (ofNat n) = some n := by
  have hdigit : ∀ d < 10, digit? 10 (id (Nat.digitChar d)) = some d := by decide
  have hread := digitsFrom?_map_toDigits (by decide) hdigit n
  rw [List.map_id] at hread
  rw [natural?_of_ne_nil (ofNat_ne_nil n), ofNat, hread]

/-- Leading zeros do not matter. -/
theorem natural?_zeroPadded (width n : Nat) : natural? 10 (zeroPadded width n) = some n := by
  have hdigits := natural?_ofNat n
  rw [natural?_of_ne_nil (ofNat_ne_nil n)] at hdigits
  have hne : zeroPadded width n ≠ [] := List.append_ne_nil_of_right_ne_nil _ (ofNat_ne_nil n)
  rw [natural?_of_ne_nil hne, zeroPadded, zeroFilled, digitsFrom?_append,
    digitsFrom?_zeros (by decide), Option.bind_some, hdigits]

/-- A number is written by decimal digits. -/
theorem isDigit_of_mem_ofNat {c : Char} (h : c ∈ ofNat n) : c.isDigit = true :=
  Nat.isDigit_of_mem_toDigits (by decide) (by decide) h

/-- So it is with zeros in front. -/
theorem isDigit_of_mem_zeroPadded {width : Nat} {c : Char} (h : c ∈ zeroPadded width n) :
    c.isDigit = true := by
  rcases List.mem_append.1 h with hzero | hdigit
  · rw [List.eq_of_mem_replicate hzero]
    decide
  · exact isDigit_of_mem_ofNat hdigit

/-- The decimal digits of a number do not start with a sign. -/
theorem exists_ofNat_eq_cons (n : Nat) :
    ∃ c rest, ofNat n = c :: rest ∧ c ≠ '+' ∧ c ≠ '-' := by
  obtain ⟨c, rest, heq⟩ := List.exists_cons_of_ne_nil (ofNat_ne_nil n)
  have halphanum : c.isAlphanum = true :=
    isAlphanum_of_natural? (natural?_ofNat n) c (heq ▸ List.mem_cons_self)
  refine ⟨c, rest, heq, ?_, ?_⟩
  · rintro rfl
    exact absurd halphanum (by decide)
  · rintro rfl
    exact absurd halphanum (by decide)

/-- No number is written by nothing. -/
theorem ofInt_ne_nil (n : Int) : ofInt n ≠ [] := by
  cases n with
  | ofNat n => exact ofNat_ne_nil n
  | negSucc n => exact List.cons_ne_nil _ _

/-- Digits are read as their number if it is not too large. -/
theorem unsigned?_of_natural? {base bits : Nat} {t : Text} (h : natural? base t = some n)
    (hn : n < 2 ^ bits) : unsigned? base bits t = some n := by
  unfold unsigned?
  split
  · -- A sign is not a digit.
    exact absurd (isAlphanum_of_natural? h '+' List.mem_cons_self) (by decide)
  · simp only [h]
    exact Option.filter_some_pos (decide_eq_true hn)

/-- A number of 32 bits is read from its decimal digits. -/
theorem word32?_ofNat (h : n < 2 ^ 32) : word32? (ofNat n) = some n :=
  unsigned?_of_natural? (natural?_ofNat n) h

/-- A number with a sign is read back. -/
theorem integer?_ofInt (n : Int) : integer? (ofInt n) = some n := by
  cases n with
  | ofNat n =>
    obtain ⟨c, rest, heq, hplus, hminus⟩ := exists_ofNat_eq_cons n
    have hread := natural?_ofNat n
    rw [ofInt, heq]
    rw [heq] at hread
    unfold integer?
    split
    · rename_i h
      exact absurd (List.cons.inj h).1 hplus
    · rename_i h
      exact absurd (List.cons.inj h).1 hminus
    · rw [hread]
      rfl
  | negSucc n =>
    rw [ofInt, integer?, natural?_ofNat]
    rfl

/-- A number of 64 bits with a sign is read back. -/
theorem word?_ofInt {n : Int} (h : IsWord n) : word? (ofInt n) = some n := by
  rw [word?, integer?_ofInt]
  exact Option.filter_some_pos (decide_eq_true h)

/-! ## Tokens -/

/-- What is read as a number has no blanks and separators. -/
theorem isToken_of_natural? {base : Nat} {t : Text} (h : natural? base t = some n) :
    IsToken t := by
  intro c hc
  rw [isTokenChar, isAlphanum_of_natural? h c hc, Bool.true_or, Bool.true_or]

/-- Decimal digits are a token. -/
theorem isToken_ofNat (n : Nat) : IsToken (ofNat n) := isToken_of_natural? (natural?_ofNat n)

/-- Hexadecimal digits are a token. -/
theorem isToken_hex (width n : Nat) : IsToken (hex width n) :=
  isToken_of_natural? (natural?_hex width n)

/-- A number with a sign is a token. -/
theorem isToken_ofInt (n : Int) : IsToken (ofInt n) := by
  cases n with
  | ofNat n => exact isToken_ofNat n
  | negSucc n => exact Text.isToken_cons_iff.2 ⟨by decide, isToken_ofNat _⟩

/-- A token stays one with zeros in front. -/
theorem isToken_zeroFilled (width : Nat) {t : Text} (h : IsToken t) :
    IsToken (zeroFilled width t) := by
  refine Text.isToken_append_iff.2 ⟨fun c hc => ?_, h⟩
  rw [List.eq_of_mem_replicate hc]
  decide

/-- So do decimal digits. -/
theorem isToken_zeroPadded (width n : Nat) : IsToken (zeroPadded width n) :=
  isToken_zeroFilled width (isToken_ofNat n)

end Numeral

/-! ## Doubles -/

namespace Decimal

/-- Digits with a point are a token. -/
theorem isToken_pointed (decimals n : Nat) : IsToken (pointed decimals n) := by
  rw [pointed]
  split
  · exact Numeral.isToken_ofNat n
  · have hdigits := Numeral.isToken_zeroPadded (decimals + 1) n
    exact Text.isToken_append_iff.2 ⟨fun c hc => hdigits c (List.mem_of_mem_take hc),
      Text.isToken_cons_iff.2 ⟨by decide, fun c hc => hdigits c (List.mem_of_mem_drop hc)⟩⟩

/-- So is a decimal fraction. -/
theorem isToken_positional (n : Nat) (place : Int) : IsToken (positional n place) := by
  rw [positional]
  split
  · exact Numeral.isToken_ofNat _
  · exact isToken_pointed _ _

/-- And a token with a sign. -/
theorem isToken_signed (negative : Bool) {digits : Text} (h : IsToken digits) :
    IsToken (signed negative digits) := by
  rw [signed]
  split
  · exact Text.isToken_cons_iff.2 ⟨by decide, h⟩
  · exact h

/-- Every double is written as a token, also one that is no number or infinite. -/
theorem isToken_fixed (decimals : Nat) (x : Float) : IsToken (fixed decimals x) := by
  rw [fixed]
  split
  · decide
  · exact isToken_signed _ (by decide)
  · exact isToken_signed _ (isToken_pointed _ _)

/-- No number is written without digits, with a point or without. -/
theorem pointed_ne_nil (decimals n : Nat) : pointed decimals n ≠ [] := by
  rw [pointed]
  split
  · exact Numeral.ofNat_ne_nil n
  · exact List.append_ne_nil_of_right_ne_nil _ (List.cons_ne_nil _ _)

/-- Nor is any double. -/
theorem fixed_ne_nil (decimals : Nat) (x : Float) : fixed decimals x ≠ [] := by
  have hsigned : ∀ negative digits, digits ≠ [] → signed negative digits ≠ [] := by
    intro negative digits hne
    rw [signed]
    split
    · exact List.cons_ne_nil _ _
    · exact hne
  rw [fixed]
  split
  · decide
  · exact hsigned _ _ (by decide)
  · exact hsigned _ _ (pointed_ne_nil _ _)

/-- So it is with the fewest digits. -/
theorem isToken_shortest (x : Float) : IsToken (shortest x) := by
  rw [shortest]
  split
  · decide
  · exact isToken_signed _ (by decide)
  · exact isToken_signed _ (by decide)
  · exact isToken_signed _ (isToken_positional _ _)

/-- The zeros that are dropped only move the point. -/
theorem dropZeros_eq (limit n : Nat) : (dropZeros limit n).2 ≤ limit ∧
    (dropZeros limit n).1 * 10 ^ (limit - (dropZeros limit n).2) = n := by
  induction limit generalizing n with
  | zero => exact ⟨Nat.le_refl 0, Nat.mul_one n⟩
  | succ limit ih =>
    rw [dropZeros]
    split
    · next hzero =>
      obtain ⟨hle, hvalue⟩ := ih (n / 10)
      refine ⟨Nat.le_succ_of_le hle, ?_⟩
      rw [Nat.succ_sub hle, Nat.pow_succ, ← Nat.mul_assoc, hvalue,
        Nat.div_mul_cancel (Nat.dvd_of_mod_eq_zero hzero)]
    · exact ⟨Nat.le_refl _, by rw [Nat.sub_self, Nat.pow_zero, Nat.mul_one]⟩

end Decimal

namespace Reader

open Decimal (dropZeros dropZeros_eq pointed positional)
open Numeral (isDigit_of_mem_ofNat isDigit_of_mem_zeroPadded natural? natural?_ofNat
  natural?_zeroPadded ofNat_ne_nil)

variable {whole decimals t : Text} {n : Nat}

/-- What starts with a digit has no sign and is no word. -/
theorem number?_of_isDigit {c : Char} (hc : c.isDigit = true) (rest : Text) :
    number? (c :: rest) = unsigned? (c :: rest) := by
  have hother : ∀ (word : Text) (d : Char), word.head? = some d → d.isDigit = false →
      Text.upper (c :: rest) ≠ word := by
    rintro word d hhead hd rfl
    have hupper : c.toUpper = d := Option.some.inj hhead
    rw [← hupper, Text.isDigit_toUpper, hc] at hd
    exact absurd hd (by simp)
  have hinf := hother "INF".toList 'I' (by decide) (by decide)
  have hinfinity := hother "INFINITY".toList 'I' (by decide) (by decide)
  have hnan := hother "NAN".toList 'N' (by decide) (by decide)
  have hmagnitude : magnitude? (c :: rest) = unsigned? (c :: rest) := by
    simp only [magnitude?, hinf, hinfinity, hnan, decide_false, Bool.or_self, Bool.false_eq_true,
      if_false]
  rw [number?]
  · exact hmagnitude
  · rintro t ⟨⟩
    exact absurd hc (by decide)
  · rintro t ⟨⟩
    exact absurd hc (by decide)

/-- A whole number is read as the double of its value. -/
theorem unsigned?_of_isDigit (hne : t ≠ []) (ht : ∀ c ∈ t, c.isDigit = true)
    (hread : natural? 10 t = some n) : unsigned? t = some (scientific n 0) := by
  obtain ⟨htake, hdrop⟩ := Numeral.takeWhile_isDigit ht
  simp [unsigned?, htake, hdrop, hne, hread, exponent?]

/-- A decimal fraction is read as the double of its value. -/
theorem unsigned?_point (hne : whole ≠ []) (hwhole : ∀ c ∈ whole, c.isDigit = true)
    (hdecimals : ∀ c ∈ decimals, c.isDigit = true)
    (hread : natural? 10 (whole ++ decimals) = some n) :
    unsigned? (whole ++ '.' :: decimals) = some (scientific n (-decimals.length)) := by
  obtain ⟨htake, hdrop⟩ := Numeral.takeWhile_isDigit_append_cons hwhole
    (by decide : '.'.isDigit = false) decimals
  obtain ⟨hbehind, hend⟩ := Numeral.takeWhile_isDigit hdecimals
  simp [unsigned?, htake, hdrop, hbehind, hend, hne, hread, exponent?]

/-- So it is with several digits in front of anything. -/
theorem number?_append (hne : t ≠ []) (ht : ∀ c ∈ t, c.isDigit = true) (behind : Text) :
    number? (t ++ behind) = unsigned? (t ++ behind) := by
  obtain ⟨c, rest, rfl⟩ := List.exists_cons_of_ne_nil hne
  exact number?_of_isDigit (ht c List.mem_cons_self) _

/-- Digits are read as the double of their value, with a point in front of the last of them. -/
theorem number?_take_drop {digits : Text} {count : Nat} (hcount : count < digits.length)
    (hall : ∀ c ∈ digits, c.isDigit = true) (hread : natural? 10 digits = some n) :
    number? (digits.take (digits.length - count) ++ '.' :: digits.drop (digits.length - count)) =
      some (scientific n (-(count : Int))) := by
  have hwhole : digits.take (digits.length - count) ≠ [] := by
    rw [← List.length_pos_iff, List.length_take]
    omega
  have htake : ∀ c ∈ digits.take (digits.length - count), c.isDigit = true :=
    fun c hc => hall c (List.mem_of_mem_take hc)
  have hdrop : ∀ c ∈ digits.drop (digits.length - count), c.isDigit = true :=
    fun c hc => hall c (List.mem_of_mem_drop hc)
  have hlength : (digits.drop (digits.length - count)).length = count := by
    rw [List.length_drop]
    omega
  rw [number?_append hwhole htake, unsigned?_point hwhole htake hdrop, hlength]
  rwa [List.take_append_drop]

/-- A number with a point in front of its last digits is read as the double of its value. -/
theorem number?_pointed (decimals n : Nat) :
    number? (pointed decimals n) = some (scientific n (-(decimals : Int))) := by
  rw [pointed]
  split
  · next hnone =>
    -- Without decimals there is no point.
    have hall : ∀ c ∈ Numeral.ofNat n, c.isDigit = true := fun _ => isDigit_of_mem_ofNat
    have hread := number?_append (ofNat_ne_nil n) hall []
    rw [List.append_nil] at hread
    rw [hread, unsigned?_of_isDigit (ofNat_ne_nil n) hall (natural?_ofNat n), hnone]
    rfl
  · have hlong : decimals < (Numeral.zeroPadded (decimals + 1) n).length := by
      rw [Numeral.zeroPadded, Numeral.zeroFilled, List.length_append, List.length_replicate]
      omega
    exact number?_take_drop hlong (fun _ => isDigit_of_mem_zeroPadded) (natural?_zeroPadded _ n)

/-- A decimal fraction is read back as the double of its value, which is written with as many
decimals as it needs. -/
theorem number?_positional (n decimals : Nat) :
    ∃ k places : Nat, number? (positional n (-(decimals : Int))) =
      some (scientific k (-(places : Int))) ∧
      places ≤ decimals ∧ k * 10 ^ (decimals - places) = n := by
  obtain ⟨hle, hvalue⟩ := dropZeros_eq decimals n
  refine ⟨_, _, ?_, hle, hvalue⟩
  rw [← number?_pointed, positional]
  split
  · next hnone =>
    obtain rfl : decimals = 0 := by omega
    rw [pointed, if_pos (Nat.le_zero.1 hle)]
    exact congrArg (fun k => number? (Numeral.ofNat k)) (Nat.mul_one n)
  · rw [Int.neg_neg, Int.toNat_natCast]

end Reader

end WeatherBus
