import WeatherBus.Keyword
import WeatherBus.Proofs.Text.Field

/-! # Keywords that are found

* **`Text.Diverges`** — no text starts with both of two words;
* **`Keyword.Table.Discrete`** — the words of a table diverge from each other;
* **`Keyword.Table.Discrete.lookup_eq`** — every keyword of such a table is found at the front of a
  text, in letters of either case;
* **`Keyword.longest?_cons`** — the longest word by the better one of two at a time, and
  `Keyword.exists_longest?` — none that is shorter than any other is found;
* **`Keyword.longest?_eq_some`** — an entry is found if all others that a text starts with are
  shorter;
* **`Keyword.Table.mem_of_lookup`** — what is found in any table is an entry and a part of the
  text;
* **`Keyword.Table.IsPlain.lookup_eq_find?`** — where a keyword may start with another one, the word
  up to the boundary is looked up. -/

namespace WeatherBus

/-- Two words differ in a letter before either of them ends. -/
def Text.Diverges (s t : Text) : Prop := ¬upper s <+: upper t ∧ ¬upper t <+: upper s

instance (s t : Text) : Decidable (Text.Diverges s t) := inferInstanceAs (Decidable (_ ∧ _))

/-- A text that starts with a word does not start with one that diverges from it. -/
theorem Text.dropWord?_of_diverges {other keyword word : Text} (h : Diverges other keyword)
    (hw : alike word keyword = true) (tail : Text) : dropWord? other (word ++ tail) = none := by
  rw [Option.eq_none_iff_forall_ne_some]
  intro rest hrest
  obtain ⟨front, heq, hfront⟩ := dropWord?_eq_some_iff.1 hrest
  have hword := alike_iff.1 hw
  -- Of two fronts of one text, the shorter one is a front of the longer one.
  rcases List.prefix_or_prefix_of_prefix (List.prefix_append front rest)
    (heq ▸ List.prefix_append word tail) with hshort | hlong
  · have hupper : upper front <+: upper word := hshort.map Char.toUpper
    rw [hfront, hword] at hupper
    exact h.1 hupper
  · have hupper : upper word <+: upper front := hlong.map Char.toUpper
    rw [hfront, hword] at hupper
    exact h.2 hupper

namespace Keyword

variable {κ : Type} {admits : Text → Bool} {entries : List (Text × κ)} {keyword word tail t : Text}
  {kind : κ}

/-- Nothing is found if no entry starts the text. -/
theorem longest?_eq_none (h : ∀ entry ∈ entries, Text.dropWord? entry.1 t = none) :
    longest? admits entries t = none := by
  induction entries with
  | nil => rfl
  | cons entry others ih =>
    rw [List.forall_mem_cons] at h
    simp only [longest?, h.1, ih h.2, Option.filter_none]

/-- The word of an entry that diverges from all others is found. -/
theorem longest?_of_mem (hd : (entries.map Prod.fst).Pairwise Text.Diverges)
    (hmem : (keyword, kind) ∈ entries) (hw : Text.alike word keyword = true)
    (htail : admits tail = true) :
    longest? admits entries (word ++ tail) = some (kind, tail) := by
  induction entries with
  | nil => exact absurd hmem List.not_mem_nil
  | cons entry others ih =>
    rw [List.map_cons, List.pairwise_cons] at hd
    rcases List.mem_cons.1 hmem with rfl | hmem
    · -- None of the other words is there.
      have hfound : Text.dropWord? keyword (word ++ tail) = some tail :=
        Text.dropWord?_eq_some_iff.2 ⟨word, rfl, Text.alike_iff.1 hw⟩
      have hothers : longest? admits others (word ++ tail) = none := by
        refine longest?_eq_none fun entry hentry => ?_
        have hdiverges := hd.1 entry.1 (List.mem_map_of_mem hentry)
        exact Text.dropWord?_of_diverges ⟨hdiverges.2, hdiverges.1⟩ hw tail
      simp only [longest?, hfound, hothers, Option.filter_some_pos htail]
    · have hdiverges := hd.1 keyword (List.mem_map_of_mem hmem)
      have hfirst := Text.dropWord?_of_diverges hdiverges hw tail
      simp only [longest?, hfirst, ih hd.2 hmem, Option.filter_none]

/-! ## The better of two -/

/-- What leaves less of a text, the first one if both leave as much. -/
def better : Option (κ × Text) → Option (κ × Text) → Option (κ × Text)
  | none, found => found
  | some found, none => some found
  | some found, some other => if other.2.length < found.2.length then some other else some found

/-- The first entry is compared with what the others find. -/
theorem longest?_cons (admits : Text → Bool) (entry : Text × κ) (entries : List (Text × κ))
    (t : Text) : longest? admits (entry :: entries) t =
      better (((Text.dropWord? entry.1 t).filter admits).map (entry.2, ·))
        (longest? admits entries t) := by
  obtain ⟨word, kind⟩ := entry
  simp only [longest?]
  cases (Text.dropWord? word t).filter admits with
  | none => rfl
  | some rest =>
    cases longest? admits entries t with
    | none => rfl
    | some other => rfl

/-- Nothing is no better than what was found. -/
theorem better_none (found : Option (κ × Text)) : better found none = found := by
  cases found <;> rfl

/-- In which order three are compared does not matter. -/
theorem better_assoc (a b c : Option (κ × Text)) :
    better (better a b) c = better a (better b c) := by
  cases a with
  | none => rfl
  | some a =>
    cases b with
    | none => rfl
    | some b =>
      cases c with
      | none => rw [better_none, better_none]
      | some c =>
        by_cases hab : b.2.length < a.2.length
        · by_cases hbc : c.2.length < b.2.length
          · simp only [better, if_pos hab, if_pos hbc, if_pos (Nat.lt_trans hbc hab)]
          · simp only [better, if_pos hab, if_neg hbc]
        · by_cases hbc : c.2.length < b.2.length
          · simp only [better, if_neg hab, if_pos hbc]
          · have hac : ¬c.2.length < a.2.length := by omega
            simp only [better, if_neg hab, if_neg hbc, if_neg hac]

/-- The better of two leaves no more of the text than the first. -/
theorem exists_better_left (found : κ × Text) (other : Option (κ × Text)) :
    ∃ best, better (some found) other = some best ∧ best.2.length ≤ found.2.length := by
  cases other with
  | none => exact ⟨found, rfl, Nat.le_refl _⟩
  | some other =>
    rw [better]
    split
    · exact ⟨other, rfl, by omega⟩
    · exact ⟨found, rfl, Nat.le_refl _⟩

/-- Nor does it leave more than the second. -/
theorem exists_better_right (found : κ × Text) (other : Option (κ × Text)) :
    ∃ best, better other (some found) = some best ∧ best.2.length ≤ found.2.length := by
  cases other with
  | none => exact ⟨found, rfl, Nat.le_refl _⟩
  | some other =>
    rw [better]
    split
    · exact ⟨found, rfl, Nat.le_refl _⟩
    · exact ⟨other, rfl, by omega⟩

/-- If any entry is at the front of a text, one is found that leaves no more of the text. -/
theorem exists_longest? {entry : Text × κ} {rest : Text} (hmem : entry ∈ entries)
    (hdrop : Text.dropWord? entry.1 t = some rest) (hrest : admits rest = true) :
    ∃ best, longest? admits entries t = some best ∧ best.2.length ≤ rest.length := by
  induction entries with
  | nil => exact absurd hmem List.not_mem_nil
  | cons first others ih =>
    rw [longest?_cons]
    rcases List.mem_cons.1 hmem with rfl | hmem
    · rw [hdrop, Option.filter_some_pos hrest]
      exact exists_better_left (entry.2, rest) _
    · obtain ⟨best, hbest, hlength⟩ := ih hmem
      obtain ⟨next, hnext, hle⟩ := exists_better_right best
        (((Text.dropWord? first.1 t).filter admits).map (first.2, ·))
      exact ⟨next, hbest ▸ hnext, Nat.le_trans hle hlength⟩

/-! ## What is found -/

/-- What is found is an entry of the table, and its word stands in front of the rest. -/
theorem exists_front_of_longest? {rest : Text}
    (h : longest? admits entries t = some (kind, rest)) :
    ∃ keyword front, (keyword, kind) ∈ entries ∧ t = front ++ rest ∧
      Text.alike front keyword = true := by
  obtain ⟨keyword, hmem, hdrop, -⟩ := exists_dropWord?_of_longest? h
  obtain ⟨front, heq, hfront⟩ := Text.dropWord?_eq_some_iff.1 hdrop
  exact ⟨keyword, front, hmem, heq, Text.alike_iff.2 hfront⟩

/-- An entry is found if all others that a text starts with leave more of it. -/
theorem longest?_eq_some {rest : Text} (hmem : (keyword, kind) ∈ entries)
    (hdrop : Text.dropWord? keyword t = some rest) (hrest : admits rest = true)
    (hothers : ∀ entry ∈ entries, ∀ other, Text.dropWord? entry.1 t = some other →
      (entry.2 = kind ∧ other = rest) ∨ rest.length < other.length) :
    longest? admits entries t = some (kind, rest) := by
  obtain ⟨⟨otherKind, other⟩, hfound, hle⟩ := exists_longest? hmem hdrop hrest
  obtain ⟨word, front, hword, heq, halike⟩ := exists_front_of_longest? hfound
  have hother := Text.dropWord?_eq_some_iff.2 ⟨front, heq, Text.alike_iff.1 halike⟩
  rcases hothers _ hword other hother with ⟨rfl, rfl⟩ | hlt
  · exact hfound
  · exact absurd hle (Nat.not_le.2 hlt)

/-- What follows a keyword is part of the text. -/
theorem Table.mem_of_lookup {table : Table κ} {rest : Text}
    (h : table.lookup t = some (kind, rest)) :
    (∃ keyword, (keyword, kind) ∈ table.entries) ∧ ∀ c ∈ rest, c ∈ t := by
  obtain ⟨keyword, front, hmem, heq, -⟩ := exists_front_of_longest? h
  refine ⟨⟨keyword, hmem⟩, fun c hc => ?_⟩
  have hstart : c ∈ Text.trimStart t := heq ▸ List.mem_append_right front hc
  exact (List.dropWhile_sublist Text.isBlank).mem hstart

/-- Where a word ends in front of a text, it ends in front of every part at its front. -/
theorem Table.endsWord_of_append {table : Table κ} {s : Text}
    (h : table.endsWord (s ++ t) = true) : table.endsWord s = true := by
  cases s with
  | nil => rfl
  | cons c s => exact h

/-- The keywords of a table cannot be mistaken for each other. -/
structure Table.Discrete (table : Table κ) : Prop where
  diverges : (table.entries.map Prod.fst).Pairwise Text.Diverges
  isToken : ∀ keyword ∈ table.entries.map Prod.fst, keyword ≠ [] ∧ Text.IsToken keyword

namespace Table.Discrete

variable {table : Table κ}

/-- What is looked up is an entry. -/
theorem mem_entries (h : table.entries.lookup keyword = some kind) :
    (keyword, kind) ∈ table.entries := by
  obtain ⟨front, back, heq, -⟩ := List.lookup_eq_some_iff.1 h
  rw [heq]
  exact List.mem_append_right front List.mem_cons_self

/-- A keyword in letters of either case is a word without separators. -/
theorem isToken_of_alike (ht : table.Discrete) (h : table.entries.lookup keyword = some kind)
    (hw : Text.alike word keyword = true) : word.IsWord ∧ word.IsToken := by
  obtain ⟨hne, htoken⟩ := ht.isToken keyword (List.mem_map_of_mem (mem_entries h))
  exact ⟨htoken.isWord_of_alike hne hw, htoken.of_alike hw⟩

/-- Every keyword is found at the front of a text, in letters of either case. -/
theorem lookup_eq (ht : table.Discrete) (h : table.entries.lookup keyword = some kind)
    (hw : Text.alike word keyword = true) (htail : table.endsWord tail = true) :
    table.lookup (word ++ tail) = some (kind, tail) := by
  rw [lookup, (ht.isToken_of_alike h hw).1.trimStart_append,
    longest?_of_mem ht.diverges (mem_entries h) hw htail]

end Table.Discrete

/-! ## Keywords that other keywords start with

A table may hold a keyword that another one starts with. Then a word is still told apart by the
boundary behind it. -/

/-- A table of words in which nothing but blanks, `?` and `=` ends a word. A single character may
be any. -/
structure Table.IsPlain (table : Table κ) : Prop where
  boundaries_eq : table.boundaries = []
  isToken : ∀ entry ∈ table.entries, entry.1.IsToken ∨ entry.1.length ≤ 1

/-- What stands at a boundary does not belong to a word. -/
theorem Table.IsPlain.isTokenChar_eq {table : Table κ} (ht : table.IsPlain) {c : Char}
    (h : table.endsWord (c :: t) = true) : Text.isTokenChar c = false := by
  have hbase : (Text.isBlank c || c == '?' || c == '=') = true := by
    rwa [endsWord, ht.boundaries_eq, List.contains_nil, Bool.or_false] at h
  rw [← Bool.not_eq_true]
  intro htoken
  rw [Text.isBlank_of_isTokenChar htoken, Bool.false_or, Bool.or_eq_true, beq_iff_eq,
    beq_iff_eq] at hbase
  rcases hbase with rfl | rfl
  · exact absurd htoken (by decide)
  · exact absurd htoken (by decide)

/-- A keyword that stands in front of a text and ends there is the whole word in front. -/
theorem Table.IsPlain.alike_of_dropWord? {table : Table κ} (ht : table.IsPlain)
    (hmem : (keyword, kind) ∈ table.entries) (hne : word ≠ []) (hword : word.IsToken)
    (htail : table.endsWord tail = true) {rest : Text}
    (h : Text.dropWord? keyword (word ++ tail) = some rest) (hrest : table.endsWord rest = true) :
    Text.alike keyword word = true := by
  obtain ⟨front, heq, hfront⟩ := Text.dropWord?_eq_some_iff.1 h
  rcases List.append_eq_append_iff.1 heq with ⟨more, hmore, hsplit⟩ | ⟨more, hmore, hsplit⟩
  · -- The keyword reaches beyond the word, so there is a boundary in it.
    cases more with
    | nil =>
      rw [List.append_nil] at hmore
      rw [Text.alike_iff, ← hmore, hfront]
    | cons c more =>
      exfalso
      rcases ht.isToken _ hmem with htoken | hshort
      · have hc : Text.isTokenChar c = true := by
          refine (htoken.of_alike (Text.alike_iff.2 hfront)) c ?_
          rw [hmore]
          exact List.mem_append_right word List.mem_cons_self
        rw [hsplit] at htail
        rw [ht.isTokenChar_eq htail] at hc
        exact Bool.false_ne_true hc
      · have hlength := Text.length_of_alike (Text.alike_iff.2 hfront)
        have hpos := List.length_pos_iff.2 hne
        have hone : keyword.length ≤ 1 := hshort
        rw [hmore, List.length_append, List.length_cons] at hlength
        omega
  · -- The keyword ends within the word, so there is a boundary in the word.
    cases more with
    | nil =>
      rw [List.append_nil] at hmore
      rw [Text.alike_iff, hmore, hfront]
    | cons c more =>
      exfalso
      have hc : Text.isTokenChar c = true := by
        refine hword c ?_
        rw [hmore]
        exact List.mem_append_right front List.mem_cons_self
      rw [hsplit] at hrest
      rw [ht.isTokenChar_eq hrest] at hc
      exact Bool.false_ne_true hc

/-- If only words like the one in front are found, the first such entry counts. -/
theorem longest?_eq_find? (hfound : ∀ entry ∈ entries, ∀ rest,
      Text.dropWord? entry.1 (word ++ tail) = some rest → admits rest = true →
        Text.alike entry.1 word = true) (htail : admits tail = true) :
    longest? admits entries (word ++ tail) =
      (entries.find? fun entry => Text.alike entry.1 word).map fun entry => (entry.2, tail) := by
  induction entries with
  | nil => rfl
  | cons entry others ih =>
    rw [List.forall_mem_cons] at hfound
    have hothers := ih hfound.2
    cases halike : Text.alike entry.1 word with
    | true =>
      have hdrop : Text.dropWord? entry.1 (word ++ tail) = some tail :=
        Text.dropWord?_eq_some_iff.2 ⟨word, rfl, (Text.alike_iff.1 halike).symm⟩
      simp only [longest?, hdrop, Option.filter_some_pos htail, hothers, List.find?_cons, halike]
      cases others.find? fun entry => Text.alike entry.1 word with
      | none => rfl
      | some other => simp only [Option.map_some, Nat.lt_irrefl, if_false]
    | false =>
      have hnone : (Text.dropWord? entry.1 (word ++ tail)).filter admits = none := by
        rw [Option.filter_eq_none_iff]
        intro rest hrest hadmits
        rw [hfound.1 rest hrest hadmits] at halike
        exact Bool.false_ne_true halike.symm
      simp only [longest?, hnone, hothers, List.find?_cons, halike]

/-- In a plain table a word is found that stands in it, whatever other words there are. -/
theorem Table.IsPlain.lookup_eq_find? {table : Table κ} (ht : table.IsPlain) (hne : word ≠ [])
    (hword : word.IsToken) (htail : table.endsWord tail = true) :
    table.lookup (word ++ tail) =
      (table.entries.find? fun entry => Text.alike entry.1 word).map fun entry =>
        (entry.2, tail) := by
  rw [lookup, (hword.isWord hne).trimStart_append]
  refine longest?_eq_find? (fun entry hentry rest hrest hadmits => ?_) htail
  exact ht.alike_of_dropWord? hentry hne hword htail hrest hadmits

end Keyword

end WeatherBus
