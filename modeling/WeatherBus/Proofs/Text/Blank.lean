import WeatherBus.Text.Basic

/-! # Blanks at the ends of a text

* **`Text.isBlank_of_isAlphanum`** — letters and digits are no blanks;
* **`Text.trim_eq_self_iff`** — a text is its own trim exactly if it neither starts nor ends with a
  blank;
* **`Text.IsWord`** — a text without blanks, which is not empty;
* **`Text.margin`** — the blanks in front of a text, the only ones that are taken off when the text
  is followed by characters that are no blanks (`Text.trim_append`);
* **`Text.trimStart_trimEnd`** — blanks may be taken off the two ends in either order;
* **`Text.IsWord.trim_append`** — what is taken off a word with blanks in front of it and a text
  behind it. -/

namespace WeatherBus

namespace Text

variable {c : Char} {t rest : Text}

/-- The letters and digits of the basic alphabet by their numbers. -/
theorem isAlphanum_iff : c.isAlphanum = true ↔
    (48 ≤ c.toNat ∧ c.toNat ≤ 57) ∨ (65 ≤ c.toNat ∧ c.toNat ≤ 90) ∨
      (97 ≤ c.toNat ∧ c.toNat ≤ 122) := by
  have hparts : c.isAlphanum = ((c.isUpper || c.isLower) || c.isDigit) := rfl
  have hupper : c.isUpper = decide (65 ≤ c.toNat ∧ c.toNat ≤ 90) := rfl
  have hlower : c.isLower = (decide (97 ≤ c.toNat) && decide (c.toNat ≤ 122)) := rfl
  have hdigit : c.isDigit = (decide (48 ≤ c.toNat) && decide (c.toNat ≤ 57)) := rfl
  simp only [hparts, hupper, hlower, hdigit, Bool.or_eq_true, Bool.and_eq_true, decide_eq_true_eq]
  omega

/-- Letters and digits are no blanks. -/
theorem isBlank_of_isAlphanum (h : c.isAlphanum = true) : isBlank c = false := by
  rw [isAlphanum_iff] at h
  simp only [isBlank, Bool.or_eq_false_iff, Bool.and_eq_false_iff, decide_eq_false_iff_not,
    beq_eq_false_iff_ne]
  omega

/-! ## Texts that are their own trim -/

/-- A text without a blank in front stays as it is. -/
theorem trimStart_eq_self_iff : trimStart t = t ↔ ∀ c ∈ t.head?, isBlank c = false := by
  cases t with
  | nil => simp [trimStart]
  | cons c t =>
    rw [trimStart, List.dropWhile_cons]
    cases hc : isBlank c with
    | false => simp [hc]
    | true =>
      -- What is left of the text is shorter than the text.
      have hlength := (List.dropWhile_sublist (l := t) isBlank).length_le
      have hne : t.dropWhile isBlank ≠ c :: t := fun heq => by
        rw [heq, List.length_cons] at hlength
        omega
      simp [hc, hne]

/-- No blank is left in front of a text. -/
theorem notBlank_of_mem_head?_trimStart (h : c ∈ (trimStart t).head?) : isBlank c = false := by
  have hkept := List.head?_dropWhile_not isBlank t
  rw [trimStart] at h
  rw [h] at hkept
  exact hkept

/-- So does one without a blank behind. -/
theorem trimEnd_eq_self_iff : trimEnd t = t ↔ ∀ c ∈ t.getLast?, isBlank c = false := by
  rw [trimEnd, List.reverse_eq_iff, ← List.head?_reverse]
  exact trimStart_eq_self_iff

/-- Nothing is added in front. -/
theorem length_trimStart_le (t : Text) : (trimStart t).length ≤ t.length :=
  (List.dropWhile_sublist isBlank).length_le

/-- Nothing is added behind. -/
theorem length_trimEnd_le (t : Text) : (trimEnd t).length ≤ t.length := by
  calc (trimEnd t).length = (trimStart t.reverse).length := List.length_reverse
    _ ≤ t.reverse.length := length_trimStart_le t.reverse
    _ = t.length := List.length_reverse

/-- Nothing is added to a text. -/
theorem trim_subset (t : Text) : trim t ⊆ t := by
  intro c hc
  rw [trim, trimEnd, List.mem_reverse] at hc
  have hstart := List.mem_reverse.1 ((List.dropWhile_sublist isBlank).mem hc)
  exact (List.dropWhile_sublist isBlank).mem hstart

/-- A text is its own trim exactly if there are no blanks at its ends. -/
theorem trim_eq_self_iff : trim t = t ↔
    (∀ c ∈ t.head?, isBlank c = false) ∧ ∀ c ∈ t.getLast?, isBlank c = false := by
  rw [← trimStart_eq_self_iff, ← trimEnd_eq_self_iff]
  constructor
  · intro h
    -- Neither of the two steps can have taken anything off.
    have hstart : trimStart t = t := by
      refine (List.dropWhile_sublist isBlank).eq_of_length_le ?_
      calc t.length = (trim t).length := by rw [h]
        _ ≤ (trimStart t).length := length_trimEnd_le _
    rw [trim, hstart] at h
    exact ⟨hstart, h⟩
  · rintro ⟨hstart, hend⟩
    rw [trim, hstart, hend]

/-- A text without blanks has none to take off. -/
theorem trim_eq_self (h : ∀ c ∈ t, isBlank c = false) : trim t = t :=
  trim_eq_self_iff.2 ⟨fun c hc => h c (List.mem_of_mem_head? hc), fun c hc =>
    h c (List.mem_of_mem_getLast? hc)⟩

/-! ## Words -/

/-- A text without blanks that is not empty. -/
structure IsWord (t : Text) : Prop where
  ne_nil : t ≠ []
  notBlank : ∀ c ∈ t, isBlank c = false

/-- A word has no blanks around it. -/
theorem IsWord.trim_eq (h : IsWord t) : trim t = t := trim_eq_self h.notBlank

/-- Blanks at the front of a text do not matter for its trim. -/
theorem trim_cons_of_isBlank (h : isBlank c = true) (t : Text) : trim (c :: t) = trim t := by
  rw [trim, trimStart, List.dropWhile_cons, if_pos h, trim, trimStart]

/-- A word at the front of a text has no blanks in front of it. -/
theorem IsWord.trimStart_append (h : IsWord t) (rest : Text) :
    trimStart (t ++ rest) = t ++ rest := by
  obtain ⟨first, others, rfl⟩ := List.exists_cons_of_ne_nil h.ne_nil
  refine trimStart_eq_self_iff.2 fun c hc => h.notBlank c ?_
  rw [List.cons_append, List.head?_cons] at hc
  exact List.mem_of_mem_head? hc

/-- A blank behind a word is taken off. -/
theorem IsWord.trim_append_blank (h : IsWord t) (hc : isBlank c = true) :
    trim (t ++ [c]) = t := by
  have hend := trimEnd_eq_self_iff.2 fun b hb => h.notBlank b (List.mem_of_mem_getLast? hb)
  rw [trim, h.trimStart_append, trimEnd, List.reverse_append, List.reverse_singleton,
    List.singleton_append, List.dropWhile_cons, if_pos hc]
  exact hend

/-- A word and what follows it have no blanks to take off if what follows has none. -/
theorem IsWord.trim_append_cons (h : IsWord t) (hne : rest ≠ []) (hrest : trim rest = rest) :
    trim (t ++ c :: rest) = t ++ c :: rest := by
  rw [trim, h.trimStart_append, trimEnd_eq_self_iff]
  intro b hb
  rw [List.getLast?_append, List.getLast?_cons, List.getLast?_eq_some_getLast hne,
    Option.getD_some, Option.some_or, ← List.getLast?_eq_some_getLast hne] at hb
  exact (trim_eq_self_iff.1 hrest).2 b hb

/-! ## Blanks in front of a text -/

/-- The blanks in front of a text. -/
def margin (t : Text) : Text := t.takeWhile isBlank

/-- A text is its margin and what is behind. -/
theorem margin_append_trimStart (t : Text) : margin t ++ trimStart t = t :=
  List.takeWhile_append_dropWhile

/-- A text followed by characters that are no blanks loses its margin only. -/
theorem trim_append (hne : rest ≠ []) (hrest : ∀ c ∈ rest, isBlank c = false) :
    trim (t ++ rest) = trimStart t ++ rest := by
  have hstart : trimStart (t ++ rest) = trimStart t ++ rest := by
    have hkept : trimStart rest = rest :=
      trimStart_eq_self_iff.2 fun c hc => hrest c (List.mem_of_mem_head? hc)
    rw [trimStart, List.dropWhile_append]
    split
    · rename_i hblank
      rw [trimStart, List.isEmpty_iff.1 hblank, List.nil_append]
      exact hkept
    · rfl
  rw [trim, hstart, trimEnd_eq_self_iff]
  intro c hc
  rw [List.getLast?_append, List.getLast?_eq_some_getLast hne, Option.some_or] at hc
  exact hrest c (Option.some.inj hc ▸ List.getLast_mem hne)

/-! ## Blanks behind a text -/

/-- A text is its front up to the last character that is no blank, and blanks behind it. -/
theorem exists_eq_trimEnd_append (t : Text) :
    ∃ blanks, (∀ c ∈ blanks, isBlank c = true) ∧ t = trimEnd t ++ blanks := by
  refine ⟨(t.reverse.takeWhile isBlank).reverse, fun c hc => ?_, ?_⟩
  · exact List.all_eq_true.1 List.all_takeWhile c (List.mem_reverse.1 hc)
  · rw [trimEnd, ← List.reverse_append, List.takeWhile_append_dropWhile, List.reverse_reverse]

/-- More blanks in front do not matter. -/
theorem trimStart_append_of_isBlank {blanks : Text} (h : ∀ c ∈ blanks, isBlank c = true)
    (t : Text) : trimStart (blanks ++ t) = trimStart t := List.dropWhile_append_of_pos h

/-- More blanks behind do not matter. -/
theorem trimEnd_append_of_isBlank {blanks : Text} (h : ∀ c ∈ blanks, isBlank c = true) (t : Text) :
    trimEnd (t ++ blanks) = trimEnd t := by
  rw [trimEnd, List.reverse_append, List.dropWhile_append_of_pos, trimEnd]
  exact fun c hc => h c (List.mem_reverse.1 hc)

/-- Blanks behind a text do not matter for its trim. -/
theorem trim_append_of_isBlank {blanks : Text} (h : ∀ c ∈ blanks, isBlank c = true) (t : Text) :
    trim (t ++ blanks) = trim t := by
  have hnone : trimStart blanks = [] := by
    rw [← List.append_nil blanks, trimStart_append_of_isBlank h]
    rfl
  rw [trim, trimStart, List.dropWhile_append]
  split
  · rename_i hempty
    have hstart : trimStart t = [] := List.isEmpty_iff.1 hempty
    rw [trim, hstart]
    exact congrArg trimEnd hnone
  · exact trimEnd_append_of_isBlank h _

/-- Blanks behind may be dropped first. -/
theorem trim_trimEnd (t : Text) : trim (trimEnd t) = trim t := by
  obtain ⟨blanks, hblanks, heq⟩ := exists_eq_trimEnd_append t
  calc trim (trimEnd t) = trim (trimEnd t ++ blanks) := (trim_append_of_isBlank hblanks _).symm
    _ = trim t := by rw [← heq]

/-- A text has no blanks to take off when they have been taken off. -/
theorem trim_trim (t : Text) : trim (trim t) = trim t := by
  have hstart : trimStart (trimStart t) = trimStart t :=
    trimStart_eq_self_iff.2 fun c hc => notBlank_of_mem_head?_trimStart hc
  calc trim (trim t) = trim (trimStart t) := trim_trimEnd _
    _ = trim t := by rw [trim, hstart, trim]

/-- It does not matter at which end blanks are taken off first. -/
theorem trimStart_trimEnd (t : Text) : trimStart (trimEnd t) = trim t := by
  rw [← trim_trimEnd, trim, eq_comm, trimEnd_eq_self_iff]
  intro c hc
  -- The last character is that of the text before blanks are taken off at its front.
  obtain ⟨front, hfront⟩ : trimStart (trimEnd t) <:+ trimEnd t := List.dropWhile_suffix isBlank
  have hlast : c ∈ (trimEnd t).getLast? := by
    rw [← hfront, List.getLast?_append, hc, Option.some_or]
    rfl
  rw [trimEnd, List.getLast?_reverse] at hlast
  exact notBlank_of_mem_head?_trimStart hlast

/-- No blanks are left in front. -/
theorem trimStart_trim (t : Text) : trimStart (trim t) = trim t := by
  rw [← trimStart_trimEnd]
  exact trimStart_eq_self_iff.2 fun c hc => notBlank_of_mem_head?_trimStart hc

/-- Behind a word, blanks are taken off what follows it only. -/
theorem IsWord.trimEnd_append (h : IsWord t) (rest : Text) :
    trimEnd (t ++ rest) = t ++ trimEnd rest := by
  have hword : (t.reverse.dropWhile isBlank).reverse = t :=
    trimEnd_eq_self_iff.2 fun c hc => h.notBlank c (List.mem_of_mem_getLast? hc)
  rw [trimEnd, List.reverse_append, List.dropWhile_append, trimEnd]
  split
  · rename_i hempty
    rw [hword, List.isEmpty_iff.1 hempty, List.reverse_nil, List.append_nil]
  · rw [List.reverse_append, List.reverse_reverse]

/-- Behind a character that is no blank, blanks are taken off what follows it only. -/
theorem trimEnd_append_cons (hc : isBlank c = false) (t rest : Text) :
    trimEnd (t ++ c :: rest) = t ++ c :: trimEnd rest := by
  have hword : IsWord [c] := ⟨List.cons_ne_nil c [], List.forall_mem_singleton.2 hc⟩
  have hcons : ((c :: rest).reverse.dropWhile isBlank).reverse = c :: trimEnd rest :=
    hword.trimEnd_append rest
  have hkept : ((c :: rest).reverse.dropWhile isBlank).isEmpty = false := by
    rw [List.reverse_eq_iff.1 hcons, List.reverse_cons, List.isEmpty_eq_false_iff]
    exact List.concat_ne_nil _ _
  rw [trimEnd, List.reverse_append, List.dropWhile_append, hkept, if_neg Bool.false_ne_true,
    List.reverse_append, List.reverse_reverse, hcons]

/-- Blanks in front of a word, and blanks behind what follows it, are all that is taken off. -/
theorem IsWord.trim_append (h : IsWord t) {blanks : Text}
    (hblanks : ∀ c ∈ blanks, isBlank c = true) (rest : Text) :
    trim (blanks ++ (t ++ rest)) = t ++ trimEnd rest := by
  rw [trim, trimStart_append_of_isBlank hblanks, h.trimStart_append, h.trimEnd_append]

end Text

end WeatherBus
