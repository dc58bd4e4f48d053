import Mathlib.Data.List.Pairwise
import WeatherBus.Proofs.Keyword
import WeatherBus.Text.Utf8

/-! # The longest keyword counts

Several keywords of a table may stand at the front of a text. Of those that end at a boundary, the
longest one is found.

* **`Keyword.Table.Fits`** — a word stands at the front of a text and ends at a boundary;
* **`Keyword.Table.lookup_eq_some_iff`** — what is found is the longest word that fits, in a table
  whose words differ in more than the case of their letters;
* **`Keyword.Table.lookupByPosition`** — the same by going through the entries and counting bytes,
  where every cut is checked; `Keyword.Table.lookupByPosition_eq` says that no check fails;
* **`Keyword.Table.finds_longest`** — so the order of the entries does not matter, and no keyword is
  found inside of a longer word. -/

namespace WeatherBus

/-! ## Sizes -/

namespace Utf8

/-- A letter has as many bytes as its capital. -/
theorem utf8Size_toUpper (c : Char) : c.toUpper.utf8Size = c.utf8Size := by
  have hnumber := Text.toNat_toUpper c
  split at hnumber
  · rename_i hletter
    have hone : ∀ d : Char, d.toNat ≤ 127 → d.utf8Size = 1 := fun d hd =>
      Char.utf8Size_eq_one_iff.2 (UInt32.le_iff_toNat_le.2 hd)
    rw [hone c (by omega), hone c.toUpper (by omega)]
  · have hsame : c.toUpper = c := by rw [← Char.ofNat_toNat c.toUpper, hnumber, Char.ofNat_toNat]
    rw [hsame]

/-- Texts that are alike take the same number of bytes. -/
theorem size_eq_of_alike {s t : Text} (h : Text.alike s t = true) : size s = size t := by
  have hupper : ∀ u : Text, size (Text.upper u) = size u := by
    intro u
    induction u with
    | nil => rfl
    | cons c u ih =>
      show c.toUpper.utf8Size + size (Text.upper u) = c.utf8Size + size u
      rw [utf8Size_toUpper, ih]
  rw [← hupper s, Text.alike_iff.1 h, hupper]

/-- What is taken from a text stands at its front. -/
theorem prefix_of_takeBytes? {count : Nat} {t front : Text} (h : takeBytes? count t = some front) :
    front <+: t := by
  induction t generalizing count front with
  | nil =>
    cases count with
    | zero => exact Option.some.inj h ▸ List.nil_prefix
    | succ count => exact absurd h (by simp [takeBytes?])
  | cons c t ih =>
    cases count with
    | zero => exact Option.some.inj h ▸ List.nil_prefix
    | succ count =>
      rw [takeBytes?] at h
      split at h
      · obtain ⟨rest, hrest, rfl⟩ := Option.map_eq_some_iff.1 h
        exact List.cons_prefix_cons.2 ⟨rfl, ih hrest⟩
      · exact absurd h (by simp)

/-- The longer the front of a text, the less is left of the text. -/
theorem size_lt_iff {front rest other behind : Text} (h : front ++ rest = other ++ behind) :
    size front < size other ↔ behind.length < rest.length := by
  rcases List.append_eq_append_iff.1 h with ⟨more, rfl, rfl⟩ | ⟨more, rfl, rfl⟩
  · rw [size_append, List.length_append]
    have hsize := length_le_size more
    cases more with
    | nil => simp [size]
    | cons c more =>
      rw [List.length_cons] at hsize ⊢
      omega
  · rw [size_append, List.length_append]
    omega

end Utf8

namespace Keyword

namespace Table

variable {κ : Type} {table : Table κ} {t rest : Text} {kind : κ}

/-! ## Words that fit -/

/-- A character at which every word ends: a blank, `?`, `=`, or one that the table adds to these. -/
def IsBoundary (table : Table κ) (c : Char) : Prop :=
  Text.isBlank c = true ∨ c = '?' ∨ c = '=' ∨ c ∈ table.boundaries

/-- A word stands at the front of a text, in letters of either case, and the rest of the text is
empty or begins with a boundary. -/
structure Fits (table : Table κ) (t word rest : Text) : Prop where
  exists_front : ∃ front, t = front ++ rest ∧ Text.alike front word = true
  isBoundary : ∀ c ∈ rest.head?, table.IsBoundary c

/-- The words of a table differ in more than the case of their letters. -/
def Distinct (table : Table κ) : Prop :=
  table.entries.Pairwise fun a b => Text.alike a.1 b.1 = false

/-- Words that are not alike are so the other way round, too. -/
theorem alike_symm_eq_false {s t : Text} (h : Text.alike s t = false) :
    Text.alike t s = false := by
  rw [← Bool.not_eq_true, Text.alike_iff] at h ⊢
  exact fun heq => h heq.symm

instance : Std.Symm fun a b : Text × κ => Text.alike a.1 b.1 = false where
  symm _ _ := alike_symm_eq_false

/-- A word ends at the end of the text and in front of a boundary. -/
theorem endsWord_iff : table.endsWord rest = true ↔ ∀ c ∈ rest.head?, table.IsBoundary c := by
  cases rest with
  | nil => simp [endsWord]
  | cons c rest =>
    simp [endsWord, IsBoundary, or_assoc]

/-- A word fits if it starts the text and ends there. -/
theorem fits_iff {word : Text} :
    table.Fits t word rest ↔ Text.dropWord? word t = some rest ∧ table.endsWord rest = true := by
  rw [Text.dropWord?_eq_some_iff, endsWord_iff]
  constructor
  · rintro ⟨⟨front, heq, halike⟩, hrest⟩
    exact ⟨⟨front, heq, Text.alike_iff.1 halike⟩, hrest⟩
  · rintro ⟨⟨front, heq, hupper⟩, hrest⟩
    exact ⟨⟨front, heq, Text.alike_iff.2 hupper⟩, hrest⟩

/-- The length of a word that fits is what it takes from the text. -/
theorem Fits.length_eq {word : Text} (h : table.Fits t word rest) :
    t.length = word.length + rest.length := by
  obtain ⟨front, rfl, halike⟩ := h.exists_front
  rw [List.length_append, Text.length_of_alike halike]

/-- Of two words that fit and are of the same length, each is the other one. -/
theorem Fits.alike {word other tail : Text} (h : table.Fits t word rest)
    (hother : table.Fits t other tail) (hlength : word.length = other.length) :
    Text.alike word other = true ∧ rest = tail := by
  obtain ⟨front, rfl, halike⟩ := h.exists_front
  obtain ⟨front', heq, halike'⟩ := hother.exists_front
  have hfront : front.length = front'.length := by
    rw [Text.length_of_alike halike, Text.length_of_alike halike', hlength]
  obtain ⟨rfl, rfl⟩ := List.append_inj heq hfront
  rw [Text.alike_iff] at halike halike' ⊢
  exact ⟨halike.symm.trans halike', rfl⟩

/-- In a table with different words, words that are alike are the same entry. -/
theorem Distinct.eq_of_alike (hd : table.Distinct) {a b : Text × κ} (ha : a ∈ table.entries)
    (hb : b ∈ table.entries) (h : Text.alike a.1 b.1 = true) : a = b := by
  refine Classical.byContradiction fun hne => ?_
  have hapart := List.Pairwise.forall hd ha hb hne
  exact Bool.false_ne_true (hapart.symm.trans h)

/-- What is found is the longest word that fits. -/
theorem lookup_eq_some_iff (hd : table.Distinct) : table.lookup t = some (kind, rest) ↔
    ∃ word, (word, kind) ∈ table.entries ∧ table.Fits (Text.trimStart t) word rest ∧
      ∀ other ∈ table.entries, ∀ tail, table.Fits (Text.trimStart t) other.1 tail →
        other.1.length ≤ word.length := by
  have hsound : ∀ {kind rest}, table.lookup t = some (kind, rest) →
      ∃ word, (word, kind) ∈ table.entries ∧ table.Fits (Text.trimStart t) word rest ∧
        ∀ other ∈ table.entries, ∀ tail, table.Fits (Text.trimStart t) other.1 tail →
          other.1.length ≤ word.length := by
    intro kind rest h
    obtain ⟨word, hmem, hdrop, hends⟩ := exists_dropWord?_of_longest? h
    have hfits : table.Fits (Text.trimStart t) word rest := fits_iff.2 ⟨hdrop, hends⟩
    refine ⟨word, hmem, hfits, fun other hother tail htail => ?_⟩
    obtain ⟨hdrop, hends⟩ := fits_iff.1 htail
    obtain ⟨best, hbest, hle⟩ := exists_longest? hother hdrop hends
    obtain rfl := Option.some.inj (h.symm.trans hbest)
    have hlength := hfits.length_eq
    have hlength' := htail.length_eq
    have hle' : rest.length ≤ tail.length := hle
    omega
  refine ⟨hsound, ?_⟩
  rintro ⟨word, hmem, hfits, hlongest⟩
  obtain ⟨hdrop, hends⟩ := fits_iff.1 hfits
  obtain ⟨⟨kind', rest'⟩, hbest, -⟩ := exists_longest? hmem hdrop hends
  have hfound : table.lookup t = some (kind', rest') := hbest
  obtain ⟨word', hmem', hfits', hlongest'⟩ := hsound hfound
  -- Neither of the two words is longer, so they are the same word of the table.
  have hlength : word.length = word'.length :=
    Nat.le_antisymm (hlongest' _ hmem _ hfits) (hlongest _ hmem' _ hfits')
  obtain ⟨halike, rfl⟩ := hfits.alike hfits' hlength
  obtain ⟨-, rfl⟩ := Prod.mk.inj (hd.eq_of_alike hmem hmem' halike)
  exact hfound

/-- The order of the entries does not matter, nor does that of the boundaries. -/
theorem lookup_eq_of_perm (hd : table.Distinct) {other : Table κ}
    (hentries : other.entries.Perm table.entries)
    (hboundaries : ∀ c, c ∈ other.boundaries ↔ c ∈ table.boundaries) (t : Text) :
    other.lookup t = table.lookup t := by
  have hother : other.Distinct := hentries.symm.pairwise hd alike_symm_eq_false
  have hfits : ∀ {word rest}, other.Fits (Text.trimStart t) word rest ↔
      table.Fits (Text.trimStart t) word rest := by
    have hsame : ∀ c, other.IsBoundary c ↔ table.IsBoundary c := fun c => by
      rw [IsBoundary, IsBoundary, hboundaries]
    intro word rest
    exact ⟨fun h => ⟨h.1, fun c hc => (hsame c).1 (h.2 c hc)⟩,
      fun h => ⟨h.1, fun c hc => (hsame c).2 (h.2 c hc)⟩⟩
  refine Option.ext fun ⟨kind, rest⟩ => ?_
  rw [lookup_eq_some_iff hother, lookup_eq_some_iff hd]
  simp only [hentries.mem_iff, hfits]

/-! ## Counting bytes -/

/-- One entry against the best one so far, of which the number of bytes is known. Without a result,
a cut would be inside of a character. -/
def tryEntry (table : Table κ) (t : Text) (best : Option (Nat × κ)) (entry : Text × κ) :
    Option (Option (Nat × κ)) :=
  match Utf8.takeBytes? (Utf8.size entry.1) t with
  | none => some best
  | some front =>
    if Text.alike front entry.1 then do
      let behind ← Utf8.dropBytes? (Utf8.size entry.1) t
      if table.endsWord behind && best.all (·.1 < Utf8.size entry.1) then
        some (some (Utf8.size entry.1, entry.2))
      else some best
    else some best

/-- The longest keyword at the front of a text, found by going through all entries and counting
bytes. Without a result, a cut would be inside of a character. -/
def lookupByPosition (table : Table κ) (t : Text) : Option (Option (κ × Text)) := do
  match ← table.entries.foldlM (table.tryEntry (Text.trimStart t)) none with
  | none => some none
  | some (count, kind) =>
    let behind ← Utf8.dropBytes? count (Text.trimStart t)
    some (some (kind, behind))

/-- A number of bytes counts up to what is left of a text. -/
inductive Counts (t : Text) : Option (Nat × κ) → Option (κ × Text) → Prop where
  | none : Counts t none none
  | some {front rest : Text} {kind : κ} (h : t = front ++ rest) :
    Counts t (some (Utf8.size front, kind)) (some (kind, rest))

/-- One entry is as good counted in bytes as it is by what it leaves of the text. -/
theorem exists_tryEntry (table : Table κ) {best : Option (Nat × κ)} {found : Option (κ × Text)}
    (h : Counts t best found) (entry : Text × κ) :
    ∃ next, table.tryEntry t best entry = some next ∧ Counts t next (better found
      (((Text.dropWord? entry.1 t).filter table.endsWord).map (entry.2, ·))) := by
  -- Bytes can be counted off in any text, but they are the word only if it can be dropped.
  cases hdrop : Text.dropWord? entry.1 t with
  | none =>
    refine ⟨best, ?_, by rwa [Option.filter_none, Option.map_none, better_none]⟩
    rw [tryEntry]
    cases htake : Utf8.takeBytes? (Utf8.size entry.1) t with
    | none => rfl
    | some front =>
      have hnot : ¬Text.alike front entry.1 = true := by
        intro halike
        obtain ⟨behind, rfl⟩ := Utf8.prefix_of_takeBytes? htake
        rw [Text.dropWord?_eq_some_iff.2 ⟨front, rfl, Text.alike_iff.1 halike⟩] at hdrop
        exact absurd hdrop (by simp)
      simp only [if_neg hnot]
  | some rest =>
    obtain ⟨front, rfl, hupper⟩ := Text.dropWord?_eq_some_iff.1 hdrop
    have halike := Text.alike_iff.2 hupper
    -- The bytes of the word and of what stands in its place are as many.
    have hsize := Utf8.size_eq_of_alike halike
    rw [tryEntry, ← hsize, Utf8.takeBytes?_append]
    simp only [if_pos halike, Utf8.dropBytes?_append, Option.bind_eq_bind, Option.bind_some]
    cases hends : table.endsWord rest with
    | false =>
      refine ⟨best, by simp, ?_⟩
      rw [Option.filter_some, hends]
      simpa [better_none] using h
    | true =>
      rw [Option.filter_some_pos hends, Option.map_some, Bool.true_and]
      cases h with
      | none => exact ⟨_, rfl, .some rfl⟩
      | @some other behind kind heq =>
        have hless := Utf8.size_lt_iff heq.symm
        rw [better, Option.all_some]
        by_cases hlonger : rest.length < behind.length
        · rw [if_pos hlonger, if_pos (decide_eq_true (hless.2 hlonger))]
          exact ⟨_, rfl, .some rfl⟩
        · rw [if_neg hlonger, if_neg (by simpa using fun hlt => hlonger (hless.1 hlt))]
          exact ⟨_, rfl, .some heq⟩

/-- The words are tried one after the other, and no position is out of range on the way. -/
theorem exists_foldlM_tryEntry (table : Table κ) {best : Option (Nat × κ)}
    {found : Option (κ × Text)} (h : Counts t best found) (entries : List (Text × κ)) :
    ∃ last, entries.foldlM (table.tryEntry t) best = some last ∧
      Counts t last (better found (longest? table.endsWord entries t)) := by
  -- The fold goes from the left and the longest word is defined from the right, but `better` is
  -- associative.
  induction entries generalizing best found with
  | nil => exact ⟨best, rfl, by rwa [longest?, better_none]⟩
  | cons entry others ih =>
    obtain ⟨next, hnext, hcounts⟩ := exists_tryEntry table h entry
    obtain ⟨last, hlast, hcounted⟩ := ih hcounts
    refine ⟨last, ?_, ?_⟩
    · rw [List.foldlM_cons, hnext]
      exact hlast
    · rwa [longest?_cons, ← better_assoc]

/-- No cut is inside of a character, and what is found by counting is what is found. -/
theorem lookupByPosition_eq (table : Table κ) (t : Text) :
    table.lookupByPosition t = some (table.lookup t) := by
  obtain ⟨last, hlast, hcounts⟩ :=
    exists_foldlM_tryEntry table (Counts.none (t := Text.trimStart t)) table.entries
  rw [lookupByPosition, hlast, lookup]
  change Counts _ last (longest? _ _ _) at hcounts
  generalize longest? table.endsWord table.entries (Text.trimStart t) = found at hcounts ⊢
  cases hcounts with
  | none => rfl
  | @some front rest kind heq =>
    simp only [Option.bind_eq_bind, Option.bind_some, heq, Utf8.dropBytes?_append]

/-! ## Keywords -/

/-- In a table whose words differ in more than the case of their letters, a keyword is found if and
only if it stands at the front of a text, blanks in front of it aside, ends at a boundary, and no
longer word of the table does so. In which order the entries come does not matter, what follows a
keyword begins with a boundary, and no text is cut inside of a character. -/
theorem finds_longest (table : Table κ) (hd : table.Distinct) (t : Text) :
    (∀ kind rest, table.lookup t = some (kind, rest) ↔
      ∃ word, (word, kind) ∈ table.entries ∧ table.Fits (Text.trimStart t) word rest ∧
        ∀ other ∈ table.entries, ∀ tail, table.Fits (Text.trimStart t) other.1 tail →
          other.1.length ≤ word.length) ∧
    (∀ other : Table κ, other.entries.Perm table.entries →
      (∀ c, c ∈ other.boundaries ↔ c ∈ table.boundaries) → other.lookup t = table.lookup t) ∧
    (∀ kind c rest, table.lookup t = some (kind, c :: rest) → table.IsBoundary c) ∧
    table.lookupByPosition t = some (table.lookup t) := by
  refine ⟨fun kind rest => lookup_eq_some_iff hd,
    fun other hentries hboundaries => lookup_eq_of_perm hd hentries hboundaries t, ?_,
    lookupByPosition_eq table t⟩
  intro kind c rest h
  obtain ⟨word, -, hfits, -⟩ := (lookup_eq_some_iff hd).1 h
  exact hfits.isBoundary c rfl

/-- Three words with the same first letter, one of which holds a boundary. -/
def overlapping : Table Nat where
  entries := [("R".toList, 0), ("R-X".toList, 1), ("RESET".toList, 2)]
  boundaries := ['-']

/-- Of two words that overlap in a table the longer one is found, in either order of the table, and
by positions as well. -/
theorem finds_longest_overlapping : overlapping.Distinct ∧
    overlapping.lookup "  r-x é".toList = some (1, " é".toList) ∧
    (Table.mk overlapping.entries.reverse ['-']).lookup "  r-x é".toList =
      some (1, " é".toList) ∧
    overlapping.lookupByPosition "  r-x é".toList = some (some (1, " é".toList)) := by
  have hd : overlapping.Distinct := by
    unfold Distinct
    decide
  obtain ⟨-, hperm, -, hposition⟩ := finds_longest overlapping hd "  r-x é".toList
  have hfound : overlapping.lookup "  r-x é".toList = some (1, " é".toList) := by decide
  refine ⟨hd, hfound, ?_, ?_⟩
  · rw [hperm ⟨overlapping.entries.reverse, ['-']⟩ (List.reverse_perm _) (fun _ => Iff.rfl), hfound]
  · rw [hposition, hfound]

end Table

end Keyword

end WeatherBus
