/-! # Texts: blanks, letter case, and cutting into pieces

A text is the list of its characters, so that everything that reads one goes by cases on its first
character.

* **`Text.isBlank`** — the characters that separate words, `Text.trim` and `Text.words` built on it;
* **`Text.upper`** — capital letters, for the 26 letters of the basic alphabet only;
* **`Text.dropWord?`** — take a word off the front of a text, whatever the case of its letters;
* **`Text.pieces`** — cut a text at every separator;
* **`splitLast?`** — cut a list at the last element of a kind, `splitLast?_append` says where. -/

namespace WeatherBus

/-- A text is the list of its characters. -/
abbrev Text := List Char

namespace Text

/-! ## Blanks -/

/-- A blank is a character with the Unicode property `White_Space`. -/
def isBlank (c : Char) : Bool :=
  let n := c.toNat
  (0x09 ≤ n && n ≤ 0x0D) || n == 0x20 || n == 0x85 || n == 0xA0 || n == 0x1680 ||
    (0x2000 ≤ n && n ≤ 0x200A) || n == 0x2028 || n == 0x2029 || n == 0x202F || n == 0x205F ||
    n == 0x3000

/-- A text without the blanks at its front. -/
def trimStart (t : Text) : Text := t.dropWhile isBlank

/-- A text without the blanks at its end. -/
def trimEnd (t : Text) : Text := (t.reverse.dropWhile isBlank).reverse

/-- A text without the blanks at both of its ends. -/
def trim (t : Text) : Text := trimEnd (trimStart t)

/-! ## Letter case -/

/-- A text with the letters `a` to `z` made capital. All other characters stay as they are. -/
def upper (t : Text) : Text := t.map Char.toUpper

/-- A text with the letters `A` to `Z` made small. All other characters stay as they are. -/
def lower (t : Text) : Text := t.map Char.toLower

/-- Two texts are alike when they differ at most in the case of the letters `a` to `z`. -/
def alike (s t : Text) : Bool := upper s == upper t

/-- What follows `word` in a text that starts with it, the case of letters aside. -/
def dropWord? : (word : Text) → (t : Text) → Option Text
  | [], t => some t
  | _ :: _, [] => none
  | w :: word, c :: t => if c.toUpper = w.toUpper then dropWord? word t else none

/-- Every text starts with nothing. -/
@[simp] theorem dropWord?_nil (t : Text) : dropWord? [] t = some t := by
  cases t <;> rfl

/-- A text starts with a word exactly if it is a text like the word, followed by the rest. -/
theorem dropWord?_eq_some_iff {word t rest : Text} :
    dropWord? word t = some rest ↔ ∃ front, t = front ++ rest ∧ upper front = upper word := by
  induction word generalizing t with
  | nil =>
    simp only [dropWord?_nil, Option.some.injEq, upper, List.map_nil, List.map_eq_nil_iff]
    constructor
    · rintro rfl
      exact ⟨[], rfl, rfl⟩
    · rintro ⟨front, rfl, rfl⟩
      rfl
  | cons w word ih =>
    cases t with
    | nil => simp [dropWord?, upper]
    | cons c t =>
      simp only [dropWord?]
      constructor
      · intro h
        split at h
        · rename_i hc
          obtain ⟨front, rfl, hf⟩ := ih.1 h
          exact ⟨c :: front, rfl, by simpa [upper, hc] using hf⟩
        · simp at h
      · rintro ⟨front, ht, hf⟩
        cases front with
        | nil => simp [upper] at hf
        | cons d front =>
          simp only [List.cons_append, List.cons.injEq] at ht
          simp only [upper, List.map_cons, List.cons.injEq] at hf
          obtain ⟨rfl, rfl⟩ := ht
          rw [if_pos hf.1]
          exact ih.2 ⟨front, rfl, hf.2⟩

/-! ## Pieces and words -/

/-- The pieces of a text between the separators. A text without separator is its own piece. -/
def pieces (separates : Char → Bool) : Text → List Text
  | [] => [[]]
  | c :: t =>
    if separates c then [] :: pieces separates t
    else match pieces separates t with
      | [] => [[c]]
      | first :: others => (c :: first) :: others

/-- The words of a text: its longest runs without a blank. -/
def words (t : Text) : List Text := (pieces isBlank t).filter (· ≠ [])

/-- The front of a text up to the first separator and what follows it, `none` without one. -/
def cut? (separator : Char) : Text → Option (Text × Text)
  | [] => none
  | c :: t =>
    if c = separator then some ([], t)
    else (cut? separator t).map fun (front, rest) => (c :: front, rest)

/-! ## Fixed width -/

/-- A text moved to the right end of a field of `width` characters. -/
def padLeft (width : Nat) (t : Text) : Text := List.replicate (width - t.length) ' ' ++ t

/-- A text moved to the left end of a field of `width` characters. -/
def padRight (width : Nat) (t : Text) : Text := t ++ List.replicate (width - t.length) ' '

end Text

/-! ## Cutting a list at the last element of a kind -/

/-- What comes before and behind the last element with the property `p`. -/
def splitLast? {α : Type} (p : α → Bool) : List α → Option (List α × List α)
  | [] => none
  | a :: rest =>
    match splitLast? p rest with
    | some (front, back) => some (a :: front, back)
    | none => if p a then some ([], rest) else none

/-- A list without such an element is not split. -/
theorem splitLast?_eq_none {α : Type} {p : α → Bool} {l : List α} :
    splitLast? p l = none ↔ ∀ a ∈ l, p a = false := by
  induction l with
  | nil => simp [splitLast?]
  | cons a rest ih =>
    simp only [splitLast?, List.mem_cons, forall_eq_or_imp]
    cases h : splitLast? p rest with
    | none =>
      have hr := ih.1 h
      by_cases ha : p a = true
      · simp [ha]
      · have ha' : p a = false := by simpa using ha
        simpa [ha'] using hr
    | some fb =>
      simp only [reduceCtorEq, false_iff, not_and]
      intro _ hr
      rw [ih.2 hr] at h
      simp at h

/-- The cut is made at the last such element: behind it there is none. -/
theorem splitLast?_append {α : Type} {p : α → Bool} {a : α} {back : List α} (front : List α)
    (ha : p a = true) (hb : ∀ b ∈ back, p b = false) :
    splitLast? p (front ++ a :: back) = some (front, back) := by
  induction front with
  | nil => simp [splitLast?, splitLast?_eq_none.2 hb, ha]
  | cons c front ih => simp [splitLast?, ih]

end WeatherBus
