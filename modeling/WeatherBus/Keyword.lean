import WeatherBus.Text.Basic

/-! # Finding a keyword at the front of a text

* **`Keyword.longest?`** — the longest word of a table that a text starts with, the case of letters
  aside;
* **`Keyword.Table.lookup`** — the same, but only where the word ends at a boundary, so that a
  keyword is never found inside a longer word. -/

namespace WeatherBus

namespace Keyword

/-- The entry of a table whose word is the longest that the text starts with, among those whose rest
is admitted, and that rest. Of two entries with words of the same length the first one counts. -/
def longest? {κ : Type} (admits : Text → Bool) : List (Text × κ) → Text → Option (κ × Text)
  | [], _ => none
  | (word, kind) :: table, t =>
    match (Text.dropWord? word t).filter admits, longest? admits table t with
    | none, found => found
    | some rest, none => some (kind, rest)
    | some rest, some (other, shorter) =>
      if shorter.length < rest.length then some (other, shorter) else some (kind, rest)

/-- What is found is an entry of the table at the front of the text, and the rest is admitted. -/
theorem exists_dropWord?_of_longest? {κ : Type} {admits : Text → Bool} {table : List (Text × κ)}
    {t rest : Text} {kind : κ} (h : longest? admits table t = some (kind, rest)) :
    ∃ word, (word, kind) ∈ table ∧ Text.dropWord? word t = some rest ∧ admits rest = true := by
  induction table generalizing kind rest with
  | nil => simp [longest?] at h
  | cons entry table ih =>
    obtain ⟨word, k⟩ := entry
    have hfirst {r : Text} (hr : (Text.dropWord? word t).filter admits = some r) :
        ∃ w, (w, k) ∈ (word, k) :: table ∧ Text.dropWord? w t = some r ∧ admits r = true :=
      ⟨word, List.mem_cons_self, Option.filter_eq_some_iff.1 hr⟩
    have hlater {k' : κ} {r : Text} (hr : longest? admits table t = some (k', r)) :
        ∃ w, (w, k') ∈ (word, k) :: table ∧ Text.dropWord? w t = some r ∧ admits r = true :=
      (ih hr).imp fun _ hw => ⟨List.mem_cons_of_mem _ hw.1, hw.2⟩
    simp only [longest?] at h
    split at h
    · exact hlater h
    · rename_i r hr _
      obtain ⟨rfl, rfl⟩ := Prod.mk.inj (Option.some.inj h)
      exact hfirst hr
    · rename_i r other shorter hr ho
      split at h
      · obtain ⟨rfl, rfl⟩ := Prod.mk.inj (Option.some.inj h)
        exact hlater ho
      · obtain ⟨rfl, rfl⟩ := Prod.mk.inj (Option.some.inj h)
        exact hfirst hr

/-- Keywords with what they mean. -/
structure Table (κ : Type) where
  /-- The words, each with its meaning. -/
  entries : List (Text × κ)
  /-- Characters besides blanks, `?` and `=` at which a word ends. -/
  boundaries : List Char := []

/-- Whether a keyword may end in front of the given rest: at the end of the text or at a
boundary. -/
def Table.endsWord {κ : Type} (table : Table κ) : Text → Bool
  | [] => true
  | c :: _ => Text.isBlank c || c == '?' || c == '=' || table.boundaries.contains c

/-- The longest keyword at the front of a text, blanks in front of it aside, and what follows it. -/
def Table.lookup {κ : Type} (table : Table κ) (t : Text) : Option (κ × Text) :=
  longest? table.endsWord table.entries (Text.trimStart t)

end Keyword

end WeatherBus
