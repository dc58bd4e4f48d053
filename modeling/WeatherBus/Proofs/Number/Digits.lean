import Mathlib.Algebra.Group.Nat.Defs
import WeatherBus.Number.Integer
import WeatherBus.Proofs.Text.Blank
import WeatherBus.Proofs.Text.Case

/-! # Digits of whole numbers

A base may spell its digits in its own way. If every digit is read back, so is every number.

* **`Numeral.digitsFrom?_append`** — digits are read from the left to the right, and
  **`Numeral.takeWhile_isDigit_append_cons`** up to what is no digit;
* **`Numeral.digitsFrom?_map_toDigits`** — what is written in a base is read back in it;
* **`Numeral.isAlphanum_of_natural?`** — what is read as a number are letters and digits only;
* **`Numeral.natural?_upper`** — the case of the letters does not matter. -/

namespace WeatherBus

namespace Numeral

variable {base n d : Nat} {c : Char} {t : Text} {spell : Char → Char}

/-! ## Reading -/

/-- The digits of a part go on with what was read before. -/
theorem digitsFrom?_append (base high : Nat) (a b : Text) : digitsFrom? base high (a ++ b) =
    (digitsFrom? base high a).bind fun high => digitsFrom? base high b := by
  induction a generalizing high with
  | nil => rfl
  | cons c a ih =>
    rw [List.cons_append, digitsFrom?, digitsFrom?]
    cases digit? base c with
    | none => rfl
    | some d => exact ih _

/-- A text with digits is read from zero on. -/
theorem natural?_of_ne_nil (h : t ≠ []) : natural? base t = digitsFrom? base 0 t := by
  obtain ⟨c, rest, rfl⟩ := List.exists_cons_of_ne_nil h
  rfl

/-- A digit is below the base. -/
theorem lt_of_digit? (h : digit? base c = some d) : d < base := by
  obtain ⟨hlt, heq⟩ := Option.ite_none_right_eq_some.1 h
  exact Option.some.inj heq ▸ hlt

/-- All digits are letters and digits of the basic alphabet. -/
theorem isAlphanum_of_digit? (h : digit? base c = some d) : c.isAlphanum = true := by
  rw [Text.isAlphanum_iff]
  refine Classical.byContradiction fun hother => ?_
  rw [not_or, not_or] at hother
  obtain ⟨hdigit, hcapital, hsmall⟩ := hother
  -- Any other character stands for a value that is too large.
  simp [digit?, hdigit, hcapital, hsmall] at h

/-- What is read as digits are letters and digits. -/
theorem isAlphanum_of_digitsFrom? {high : Nat} (h : digitsFrom? base high t = some n) :
    ∀ c ∈ t, c.isAlphanum = true := by
  induction t generalizing high with
  | nil => simp
  | cons c t ih =>
    rw [digitsFrom?] at h
    obtain ⟨d, hd, hrest⟩ := Option.bind_eq_some_iff.1 h
    intro b hb
    rcases List.mem_cons.1 hb with rfl | hb
    · exact isAlphanum_of_digit? hd
    · exact ih hrest b hb

/-- What is read as a number are letters and digits. -/
theorem isAlphanum_of_natural? (h : natural? base t = some n) : ∀ c ∈ t, c.isAlphanum = true := by
  cases t with
  | nil => simp
  | cons c t => exact isAlphanum_of_digitsFrom? h

/-- Leading zeros count for nothing. -/
theorem digitsFrom?_zeros (hb : 0 < base) (count : Nat) :
    digitsFrom? base 0 (List.replicate count '0') = some 0 := by
  have hzero : digit? base '0' = some 0 := if_pos hb
  induction count with
  | zero => rfl
  | succ count ih =>
    rw [List.replicate_succ, digitsFrom?, hzero, Option.bind_some, Nat.zero_mul]
    exact ih

/-- Decimal digits are taken to their end. -/
theorem takeWhile_isDigit (ht : ∀ c ∈ t, c.isDigit = true) :
    t.takeWhile Char.isDigit = t ∧ t.dropWhile Char.isDigit = [] := by
  rw [← List.append_nil t, List.takeWhile_append_of_pos ht, List.dropWhile_append_of_pos ht]
  exact ⟨rfl, rfl⟩

/-- Decimal digits are taken up to what is none. -/
theorem takeWhile_isDigit_append_cons (ht : ∀ c ∈ t, c.isDigit = true) (hc : c.isDigit = false)
    (rest : Text) : (t ++ c :: rest).takeWhile Char.isDigit = t ∧
      (t ++ c :: rest).dropWhile Char.isDigit = c :: rest := by
  rw [List.takeWhile_append_of_pos ht, List.dropWhile_append_of_pos ht, List.takeWhile_cons,
    List.dropWhile_cons, hc]
  exact ⟨List.append_nil t, rfl⟩

/-! ## Letter case -/

/-- A small letter stands for the same value as its capital. -/
theorem digit?_toUpper (base : Nat) (c : Char) : digit? base c.toUpper = digit? base c := by
  rw [digit?, digit?, Text.toNat_toUpper]
  split
  · rename_i h
    have hsmall : ¬(48 ≤ c.toNat - 32 ∧ c.toNat - 32 ≤ 57) := by omega
    have hcapital : 65 ≤ c.toNat - 32 ∧ c.toNat - 32 ≤ 90 := by omega
    have hdigit : ¬(48 ≤ c.toNat ∧ c.toNat ≤ 57) := by omega
    have hletter : ¬(65 ≤ c.toNat ∧ c.toNat ≤ 90) := by omega
    have hvalue : c.toNat - 32 - 55 = c.toNat - 87 := by omega
    simp only [Bool.and_eq_true, decide_eq_true_eq, if_neg hsmall, if_pos hcapital,
      if_neg hdigit, if_neg hletter, if_pos h, hvalue]
  · rfl

/-- Digits are read in any case. -/
theorem digitsFrom?_upper (high : Nat) (t : Text) :
    digitsFrom? base high (Text.upper t) = digitsFrom? base high t := by
  induction t generalizing high with
  | nil => rfl
  | cons c t ih =>
    rw [Text.upper, List.map_cons, digitsFrom?, digitsFrom?, digit?_toUpper]
    exact congrArg (digit? base c).bind (funext fun d => ih _)

/-- The case of the letters does not matter. -/
theorem natural?_upper (t : Text) : natural? base (Text.upper t) = natural? base t := by
  cases t with
  | nil => rfl
  | cons c t => exact digitsFrom?_upper 0 (c :: t)

/-! ## Writing -/

/-- The digits of a number are those of its quotient by the base and the last one. -/
theorem map_toDigits (hb : 1 < base) (n : Nat) : (Nat.toDigits base n).map spell =
    (if n < base then [] else (Nat.toDigits base (n / base)).map spell) ++
      [spell (Nat.digitChar (n % base))] := by
  split
  · rename_i h
    rw [Nat.toDigits_of_lt_base h, Nat.mod_eq_of_lt h]
    rfl
  · rename_i h
    rw [Nat.toDigits_of_base_le hb (Nat.le_of_not_lt h), List.map_append]
    rfl

/-- No number is written without digits. -/
theorem toDigits_ne_nil (base n : Nat) (hb : 1 < base) : Nat.toDigits base n ≠ [] := by
  have h : (Nat.toDigits base n).map id = _ := map_toDigits hb n
  rw [List.map_id] at h
  rw [h]
  exact List.append_ne_nil_of_right_ne_nil _ (List.cons_ne_nil _ _)

/-- If every digit is read back, so is every number. -/
theorem digitsFrom?_map_toDigits (hb : 1 < base)
    (hspell : ∀ d < base, digit? base (spell (Nat.digitChar d)) = some d) (n : Nat) :
    digitsFrom? base 0 ((Nat.toDigits base n).map spell) = some n := by
  have hone : ∀ high d, d < base →
      digitsFrom? base high [spell (Nat.digitChar d)] = some (high * base + d) := by
    intro high d hd
    rw [digitsFrom?, hspell d hd]
    rfl
  induction n using Nat.strongRecOn with
  | ind n ih =>
    -- The last digit is read behind those of the quotient.
    have hlast : n % base < base := Nat.mod_lt n (by omega)
    rw [map_toDigits hb, digitsFrom?_append]
    split
    · rename_i h
      rw [digitsFrom?, Option.bind_some, hone 0 _ hlast, Nat.mod_eq_of_lt h, Nat.zero_mul,
        Nat.zero_add]
    · rename_i h
      have hsmaller : n / base < n := Nat.div_lt_self (by omega) hb
      rw [ih (n / base) hsmaller, Option.bind_some, hone _ _ hlast, Nat.div_add_mod']

/-- A written number consists of digits as they are spelled. -/
theorem exists_digit_of_mem_map_toDigits (hb : 1 < base)
    (hc : c ∈ (Nat.toDigits base n).map spell) : ∃ d < base, c = spell (Nat.digitChar d) := by
  induction n using Nat.strongRecOn with
  | ind n ih =>
    rw [map_toDigits hb, List.mem_append, List.mem_singleton] at hc
    rcases hc with hc | hc
    · split at hc
      · exact absurd hc List.not_mem_nil
      · exact ih (n / base) (Nat.div_lt_self (by omega) hb) hc
    · exact ⟨n % base, Nat.mod_lt n (by omega), hc⟩

end Numeral

end WeatherBus
