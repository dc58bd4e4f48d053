import WeatherBus.Proofs.Text.Blank
import WeatherBus.Proofs.Text.Case
import WeatherBus.Proofs.Text.Plain

/-! # Fields between separators

* **`Text.pieces_intercalate`**, **`Text.words_intercalate_append`** — fields that do not hold their
  separator are cut apart again;
* **`Text.mem_pieces_iff`** — the pieces of any text, by what stands at their ends;
* **`Text.cut?_eq_some_iff`** — the two parts of a text that is cut once;
* **`Text.IsToken`** — texts of letters, digits, signs and points, as words and numbers are
  written. They hold neither blanks nor any separator, whatever the case of their letters. -/

namespace WeatherBus

namespace Text

variable {separates : Char → Bool} {separator c : Char} {s t front rest : Text}
  {fields : List Text}

/-! ## Cutting fields apart -/

/-- A text without separators is its own piece. -/
theorem pieces_eq_singleton (h : ∀ c ∈ t, separates c = false) : pieces separates t = [t] := by
  induction t with
  | nil => rfl
  | cons c t ih =>
    rw [List.forall_mem_cons] at h
    simp only [pieces, h.1, ih h.2, Bool.false_eq_true, if_false]

/-- The first piece ends at the first separator. -/
theorem pieces_append_of_separates (hs : ∀ c ∈ s, separates c = false) (hc : separates c = true)
    (t : Text) : pieces separates (s ++ c :: t) = s :: pieces separates t := by
  induction s with
  | nil => simp only [List.nil_append, pieces, hc, if_true]
  | cons b s ih =>
    rw [List.forall_mem_cons] at hs
    simp only [List.cons_append, pieces, hs.1, ih hs.2, Bool.false_eq_true, if_false]

/-- The first piece ends at the first separator. -/
theorem pieces_append_cons (h : separator ∉ s) (t : Text) :
    pieces (· == separator) (s ++ separator :: t) = s :: pieces (· == separator) t :=
  pieces_append_of_separates
    (fun c hc => beq_eq_false_iff_ne.2 fun heq : c = separator => h (heq ▸ hc))
    (beq_self_eq_true separator) t

/-- Fields that do not hold their separator are cut apart again. -/
theorem pieces_intercalate (hne : fields ≠ []) (h : ∀ field ∈ fields, separator ∉ field) :
    pieces (· == separator) (List.intercalate [separator] fields) = fields := by
  induction fields with
  | nil => exact absurd rfl hne
  | cons first others ih =>
    rw [List.forall_mem_cons] at h
    cases others with
    | nil =>
      rw [List.intercalate_singleton]
      exact pieces_eq_singleton fun c hc => beq_eq_false_iff_ne.2 fun heq => h.1 (heq ▸ hc)
    | cons second others =>
      rw [List.intercalate_cons_cons, List.append_assoc, List.singleton_append,
        pieces_append_cons h.1, ih (List.cons_ne_nil _ _) h.2]

/-- Fields that can travel in a block can do so with their separators. -/
theorem isPlain_intercalate (hs : IsPlain [separator]) (h : ∀ field ∈ fields, IsPlain field) :
    IsPlain (List.intercalate [separator] fields) := by
  induction fields with
  | nil => exact List.forall_mem_nil _
  | cons first others ih =>
    rw [List.forall_mem_cons] at h
    cases others with
    | nil =>
      rw [List.intercalate_singleton]
      exact h.1
    | cons second others =>
      rw [List.intercalate_cons_cons]
      exact (h.1.append hs).append (ih h.2)

/-- A word is the only one in it. -/
theorem IsWord.words_eq (h : IsWord t) : words t = [t] := by
  rw [words, pieces_eq_singleton h.notBlank]
  simp [h.ne_nil]

/-- The first word ends at the first blank. -/
theorem IsWord.words_append_cons (h : IsWord s) (hc : isBlank c = true) (t : Text) :
    words (s ++ c :: t) = s :: words t := by
  rw [words, pieces_append_of_separates h.notBlank hc, List.filter_cons_of_pos, words]
  exact decide_eq_true h.ne_nil

/-- A blank in front begins no word. -/
theorem words_cons_of_isBlank (hc : isBlank c = true) (t : Text) : words (c :: t) = words t := by
  have hpieces := pieces_append_of_separates (List.forall_mem_nil _) hc t
  rw [words, ← List.nil_append (c :: t), hpieces, List.filter_cons_of_neg (by simp), words]

/-- Words with blanks between them are cut apart again, if what follows them does not lengthen the
last one. -/
theorem words_intercalate_append (hne : fields ≠ []) (h : ∀ field ∈ fields, IsWord field)
    (hend : ∀ field, IsWord field → words (field ++ t) = field :: words t) :
    words (List.intercalate [' '] fields ++ t) = fields ++ words t := by
  induction fields with
  | nil => exact absurd rfl hne
  | cons first others ih =>
    rw [List.forall_mem_cons] at h
    cases others with
    | nil =>
      rw [List.intercalate_singleton]
      exact hend first h.1
    | cons second others =>
      rw [List.intercalate_cons_cons, List.append_assoc, List.append_assoc,
        List.singleton_append, h.1.words_append_cons (by decide), ih (List.cons_ne_nil _ _) h.2]
      rfl

/-! ## Pieces of any text -/

/-- A text is a piece of its own, or begins with a piece and a separator. -/
theorem pieces_induction (separates : Char → Bool) {p : Text → Prop}
    (last : ∀ t, (∀ c ∈ t, separates c = false) → p t)
    (cons : ∀ s c t, (∀ c ∈ s, separates c = false) → separates c = true → p t →
      p (s ++ c :: t)) (t : Text) : p t := by
  suffices h : ∀ s, (∀ c ∈ s, separates c = false) → p (s ++ t) from
    h [] (List.forall_mem_nil _)
  induction t with
  | nil =>
    intro s hs
    rw [List.append_nil]
    exact last s hs
  | cons c t ih =>
    intro s hs
    cases hc : separates c with
    | true => exact cons s c t hs hc (ih [] (List.forall_mem_nil _))
    | false =>
      rw [List.append_cons]
      exact ih (s ++ [c]) (List.forall_mem_append.2 ⟨hs, List.forall_mem_singleton.2 hc⟩)

/-- The pieces in front of a separator and those behind it. -/
theorem pieces_append_separator (hc : separates c = true) (s t : Text) :
    pieces separates (s ++ c :: t) = pieces separates s ++ pieces separates t := by
  induction s using pieces_induction separates with
  | last s hs =>
    rw [pieces_append_of_separates hs hc, pieces_eq_singleton hs, List.singleton_append]
  | cons s b rest hs hb ih =>
    rw [List.append_assoc, List.cons_append, pieces_append_of_separates hs hb, ih,
      pieces_append_of_separates hs hb, List.cons_append]

/-- A piece holds no separator, and at each of its ends there is one, or the text ends. -/
theorem mem_pieces_iff : s ∈ pieces separates t ↔
    (∀ c ∈ s, separates c = false) ∧ ∃ before behind, t = before ++ s ++ behind ∧
      (∀ c ∈ before.getLast?, separates c = true) ∧ ∀ c ∈ behind.head?, separates c = true := by
  constructor
  · intro h
    induction t using pieces_induction separates with
    | last t ht =>
      rw [pieces_eq_singleton ht, List.mem_singleton] at h
      subst h
      exact ⟨ht, [], [], by simp, by simp, by simp⟩
    | cons front c t hfront hc ih =>
      rw [pieces_append_of_separates hfront hc, List.mem_cons] at h
      rcases h with rfl | hmem
      · exact ⟨hfront, [], c :: t, by simp, by simp, by simpa using hc⟩
      · obtain ⟨hs, before, behind, rfl, hbefore, hbehind⟩ := ih hmem
        refine ⟨hs, front ++ c :: before, behind, by simp, ?_, hbehind⟩
        intro b hb
        rw [List.getLast?_append, List.getLast?_cons, Option.some_or] at hb
        cases hlast : before.getLast? with
        | none =>
          rw [hlast] at hb
          exact Option.some.inj hb ▸ hc
        | some d =>
          rw [hlast] at hb
          exact Option.some.inj hb ▸ hbefore d hlast
  · rintro ⟨hs, before, behind, rfl, hbefore, hbehind⟩
    -- What is behind the piece starts with a separator, what is in front of it ends with one.
    have hfirst : s ∈ pieces separates (s ++ behind) := by
      cases behind with
      | nil =>
        rw [List.append_nil, pieces_eq_singleton hs]
        exact List.mem_singleton_self s
      | cons c behind =>
        rw [pieces_append_of_separates hs (hbehind c rfl)]
        exact List.mem_cons_self
    rcases List.eq_nil_or_concat before with rfl | ⟨front, c, rfl⟩
    · exact hfirst
    · rw [List.concat_eq_append, List.append_assoc, List.append_assoc, List.singleton_append,
        pieces_append_separator (hbefore c (by simp))]
      exact List.mem_append_right _ hfirst

/-! ## Cutting once -/

/-- A text is cut at the first separator. -/
theorem cut?_append_cons (h : separator ∉ front) (rest : Text) :
    cut? separator (front ++ separator :: rest) = some (front, rest) := by
  induction front with
  | nil => simp [cut?]
  | cons c front ih =>
    rw [List.mem_cons, not_or] at h
    rw [List.cons_append, cut?, if_neg (Ne.symm h.1), ih h.2, Option.map_some]

/-- A text without a separator is not cut. -/
theorem cut?_eq_none (h : separator ∉ t) : cut? separator t = none := by
  induction t with
  | nil => rfl
  | cons c t ih =>
    rw [List.mem_cons, not_or] at h
    rw [cut?, if_neg (Ne.symm h.1), ih h.2, Option.map_none]

/-- The cut is made at the first separator. -/
theorem cut?_eq_some_iff : cut? separator t = some (front, rest) ↔
    t = front ++ separator :: rest ∧ separator ∉ front := by
  constructor
  · intro h
    by_cases hmem : separator ∈ t
    · obtain ⟨front', rest', rfl, hfront⟩ := List.eq_append_cons_of_mem hmem
      rw [cut?_append_cons hfront] at h
      obtain ⟨rfl, rfl⟩ := Prod.mk.inj (Option.some.inj h)
      exact ⟨rfl, hfront⟩
    · rw [cut?_eq_none hmem] at h
      exact absurd h (Option.some_ne_none _).symm
  · rintro ⟨rfl, hfront⟩
    exact cut?_append_cons hfront rest

/-! ## Tokens -/

/-- A letter, a digit, a sign or a point. -/
def isTokenChar (c : Char) : Bool := c.isAlphanum || c == '-' || c == '.'

/-- A text of letters, digits, signs and points. -/
def IsToken (t : Text) : Prop := ∀ c ∈ t, isTokenChar c = true

instance (t : Text) : Decidable (IsToken t) := List.decidableBAll _ t

/-- These characters by their numbers. -/
theorem isTokenChar_iff : isTokenChar c = true ↔
    (48 ≤ c.toNat ∧ c.toNat ≤ 57) ∨ (65 ≤ c.toNat ∧ c.toNat ≤ 90) ∨
      (97 ≤ c.toNat ∧ c.toNat ≤ 122) ∨ c.toNat = 45 ∨ c.toNat = 46 := by
  have hminus : c = '-' ↔ c.toNat = 45 := Char.toNat_inj.symm
  have hpoint : c = '.' ↔ c.toNat = 46 := Char.toNat_inj.symm
  rw [isTokenChar, Bool.or_eq_true, Bool.or_eq_true, beq_iff_eq, beq_iff_eq, isAlphanum_iff,
    hminus, hpoint]
  omega

/-- A letter and its capital are both allowed in a token, or neither is. -/
theorem isTokenChar_toUpper (c : Char) : isTokenChar c.toUpper = isTokenChar c := by
  rw [Bool.eq_iff_iff, isTokenChar_iff, isTokenChar_iff, toNat_toUpper]
  split
  · omega
  · rfl

/-- Two tokens side by side are a token. -/
theorem isToken_append_iff : IsToken (s ++ t) ↔ IsToken s ∧ IsToken t := List.forall_mem_append

/-- A token is one by its first character and by the others. -/
theorem isToken_cons_iff : IsToken (c :: t) ↔ isTokenChar c = true ∧ IsToken t :=
  List.forall_mem_cons

/-- The case of letters does not matter for what is a token. -/
theorem IsToken.of_alike (ht : IsToken t) (h : alike s t = true) : IsToken s :=
  forall_of_alike (p := fun c => isTokenChar c = true) (fun c => by rw [isTokenChar_toUpper]) h ht

/-- The characters of a token are no blanks. -/
theorem isBlank_of_isTokenChar (h : isTokenChar c = true) : isBlank c = false := by
  rw [isTokenChar_iff] at h
  simp only [isBlank, Bool.or_eq_false_iff, Bool.and_eq_false_iff, decide_eq_false_iff_not,
    beq_eq_false_iff_ne]
  omega

/-- A token with characters is a word. -/
theorem IsToken.isWord (h : IsToken t) (hne : t ≠ []) : IsWord t :=
  ⟨hne, fun c hc => isBlank_of_isTokenChar (h c hc)⟩

/-- What is alike to such a token is a word, too. -/
theorem IsToken.isWord_of_alike (ht : IsToken t) (hne : t ≠ []) (h : alike s t = true) :
    IsWord s := by
  refine (ht.of_alike h).isWord fun hnil => hne ?_
  rw [← List.length_eq_zero_iff, ← length_of_alike h, hnil, List.length_nil]

/-- A token has no blanks to take off. -/
theorem IsToken.trim_eq (h : IsToken t) : trim t = t :=
  trim_eq_self fun c hc => isBlank_of_isTokenChar (h c hc)

/-- A token holds no colon. -/
theorem IsToken.notMem_colon (h : IsToken t) : ':' ∉ t := fun hmem =>
  absurd (h ':' hmem) (by decide)

/-- Tokens between colons are cut apart again, and have no blanks to take off. -/
theorem map_trim_pieces (hne : fields ≠ []) (h : ∀ field ∈ fields, IsToken field) :
    (pieces (· == ':') (List.intercalate [':'] fields)).map trim = fields := by
  rw [pieces_intercalate hne fun field hf => (h field hf).notMem_colon]
  calc fields.map trim = fields.map id := List.map_congr_left fun field hf => (h field hf).trim_eq
    _ = fields := List.map_id fields

/-- A token can travel in a block. -/
theorem IsToken.isPlain (h : IsToken t) : IsPlain t := by
  intro c hc
  have hchar := h c hc
  refine ⟨?_, ?_⟩
  · rintro rfl
    exact absurd hchar (by decide)
  · rintro rfl
    exact absurd hchar (by decide)

end Text

end WeatherBus
