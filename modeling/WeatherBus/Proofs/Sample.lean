import Mathlib.Data.Finset.Card
import WeatherBus.Proofs.Text.Field
import WeatherBus.Sample

/-! # The pairs in a line of measurements

A line is made of tokens with separators between them. Some of the tokens are pairs of a name and a
value, and nothing else in the line matters.

* **`Sample.Pair`**, **`Sample.Line`** — pairs, and the lines in which they stand among other
  tokens;
* **`Sample.filterMap_pieces`** — the pairs of a line are what is found in it;
* **`Sample.text?_gather`**, **`Sample.size_gather`** — pairs are taken in one after the other, and
  of those with the same name the last one counts;
* **`Sample.decodes_pairs`** — what is known from a line, in which order its pairs may come, and
  which lines tell nothing. -/

namespace WeatherBus

namespace Sample

/-! ## Lines -/

/-- A text without separators. -/
def IsUnbroken (t : Text) : Prop := ∀ c ∈ t, separates c = false

/-- A text of separators, at least one of them. -/
def IsBreak (t : Text) : Prop := t ≠ [] ∧ ∀ c ∈ t, separates c = true

instance (t : Text) : Decidable (IsUnbroken t) := List.decidableBAll _ t

instance (t : Text) : Decidable (IsBreak t) :=
  @instDecidableAnd _ _ inferInstance (List.decidableBAll _ t)

/-- A pair as it can stand in a line. Its name ends at the first `=`, its value may be empty. -/
structure Pair where
  name : Text
  value : Text
  name_ne_nil : name ≠ []
  notMem_name : '=' ∉ name
  isUnbroken_name : IsUnbroken name
  isUnbroken_value : IsUnbroken value

namespace Pair

/-- How a pair is written. -/
def text (pair : Pair) : Text := pair.name ++ '=' :: pair.value

/-- A pair stands in a text as a whole: at each of its ends is a separator, or the text ends. -/
def StandsIn (pair : Pair) (t : Text) : Prop :=
  ∃ before behind, t = before ++ pair.text ++ behind ∧
    (∀ c ∈ before.getLast?, separates c = true) ∧ ∀ c ∈ behind.head?, separates c = true

end Pair

/-- The pairs with a name, the case of its letters aside. -/
def named (n : Text) (pairs : List Pair) : List Pair :=
  pairs.filter fun pair => Text.alike pair.name n

/-- A text between separators that is no pair: there is no `=` in it, or no name in front of it. -/
structure Filler where
  text : Text
  isUnbroken_text : IsUnbroken text
  nameless : '=' ∉ text ∨ text.head? = some '='

/-- What stands between separators. -/
inductive Token where
  | pair (pair : Pair)
  | filler (filler : Filler)

namespace Token

/-- How a token is written. -/
def text : Token → Text
  | pair p => p.text
  | filler f => f.text

/-- The pair that a token is, if it is one. -/
def toPair? : Token → Option Pair
  | pair p => some p
  | filler _ => none

end Token

/-- What stands between two tokens. -/
structure Gap where
  text : Text
  isBreak_text : IsBreak text

/-- Tokens and the gaps between them. Separators at the ends of a line are gaps as well, with empty
tokens on their outer sides. -/
structure Line where
  first : Token
  others : List (Gap × Token)

namespace Line

/-- How a line is written. -/
def text (line : Line) : Text :=
  line.first.text ++ line.others.flatMap fun other => other.1.text ++ other.2.text

/-- The tokens of a line from left to right. -/
def tokens (line : Line) : List Token := line.first :: line.others.map Prod.snd

/-- The pairs of a line from left to right. -/
def pairs (line : Line) : List Pair := line.tokens.filterMap Token.toPair?

end Line

/-! ## Reading tokens -/

variable {c : Char} {t name value n : Text}

/-- What does not separate is no blank. -/
theorem isBlank_of_separates (h : separates c = false) : Text.isBlank c = false := by
  rw [separates, Bool.or_eq_false_iff] at h
  exact h.2

/-- A pair is written without separators. -/
theorem Pair.isUnbroken_text (pair : Pair) : IsUnbroken pair.text := by
  refine List.forall_mem_append.2 ⟨pair.isUnbroken_name, List.forall_mem_cons.2 ⟨by decide, ?_⟩⟩
  exact pair.isUnbroken_value

/-- So is every token. -/
theorem Token.isUnbroken_text (token : Token) : IsUnbroken token.text := by
  cases token with
  | pair p => exact p.isUnbroken_text
  | filler f => exact f.isUnbroken_text

/-- A text without separators has no blanks to take off. -/
theorem IsUnbroken.trim_eq (h : IsUnbroken t) : Text.trim t = t :=
  Text.trim_eq_self fun c hc => isBlank_of_separates (h c hc)

/-- What is taken in of a pair. -/
def Pair.entry (pair : Pair) : Text × Text := (Text.upper pair.name, pair.value)

/-- A pair is read back. -/
theorem Pair.pair?_text (pair : Pair) : pair? pair.text = some pair.entry := by
  have hne : pair.name.isEmpty = false := List.isEmpty_eq_false_iff.2 pair.name_ne_nil
  simp only [pair?, Pair.text, Text.cut?_append_cons pair.notMem_name,
    pair.isUnbroken_name.trim_eq, pair.isUnbroken_value.trim_eq, hne, Bool.false_eq_true, if_false,
    Pair.entry]

/-- A filler is no pair. -/
theorem Filler.pair?_text (filler : Filler) : pair? filler.text = none := by
  rw [pair?]
  rcases filler.nameless with hnone | hfirst
  · rw [Text.cut?_eq_none hnone]
  · obtain ⟨rest, hrest⟩ := List.head?_eq_some_iff.1 hfirst
    have hcut : Text.cut? '=' filler.text = some ([], rest) := by
      rw [hrest]
      exact Text.cut?_append_cons (List.not_mem_nil) rest
    rw [hcut]
    rfl

/-- A token is read as the pair that it is, if it is one. -/
theorem Token.pair?_text (token : Token) :
    pair? token.text = token.toPair?.map Pair.entry := by
  cases token with
  | pair p => exact p.pair?_text
  | filler f => exact f.pair?_text

/-- Only pairs are taken for pairs. -/
theorem exists_pair (ht : IsUnbroken t) (h : pair? t ≠ none) :
    ∃ pair : Pair, pair.text = t := by
  rw [pair?] at h
  cases hcut : Text.cut? '=' t with
  | none =>
    rw [hcut] at h
    exact absurd rfl h
  | some parts =>
    obtain ⟨name, value⟩ := parts
    obtain ⟨rfl, hname⟩ := Text.cut?_eq_some_iff.1 hcut
    obtain ⟨hplain, hrest⟩ := List.forall_mem_append.1 ht
    refine ⟨⟨name, value, ?_, hname, hplain, (List.forall_mem_cons.1 hrest).2⟩, rfl⟩
    rintro rfl
    rw [hcut] at h
    exact h rfl

/-! ## Reading lines -/

/-- Separators in front of a text hold no pair. -/
theorem filterMap_pieces_append {gap : Text} (h : ∀ c ∈ gap, separates c = true) (t : Text) :
    (Text.pieces separates (gap ++ t)).filterMap pair? =
      (Text.pieces separates t).filterMap pair? := by
  induction gap with
  | nil => rfl
  | cons c gap ih =>
    rw [List.forall_mem_cons] at h
    have hpieces := Text.pieces_append_of_separates (List.forall_mem_nil _) h.1 (gap ++ t)
    have hempty : pair? [] = none := rfl
    rw [List.cons_append, ← List.nil_append (c :: _), hpieces,
      List.filterMap_cons_none hempty, ih h.2]

/-- The pairs of a line are what is read of its tokens. -/
theorem map_entry_pairs (line : Line) :
    line.pairs.map Pair.entry = line.tokens.filterMap fun token => pair? token.text := by
  rw [Line.pairs, List.map_filterMap]
  exact List.filterMap_congr fun token _ => token.pair?_text.symm

/-- The pairs of a line are what is found in it. -/
theorem filterMap_pieces (line : Line) :
    (Text.pieces separates line.text).filterMap pair? = line.pairs.map Pair.entry := by
  obtain ⟨first, others⟩ := line
  induction others generalizing first with
  | nil =>
    rw [Line.text, List.flatMap_nil, List.append_nil,
      Text.pieces_eq_singleton first.isUnbroken_text, map_entry_pairs]
    rfl
  | cons other others ih =>
    obtain ⟨gap, token⟩ := other
    obtain ⟨c, more, hgap⟩ := List.exists_cons_of_ne_nil gap.isBreak_text.1
    have hseparates := List.forall_mem_cons.1 (hgap ▸ gap.isBreak_text.2)
    have htext : Line.text ⟨first, (gap, token) :: others⟩ =
        first.text ++ c :: (more ++ Line.text ⟨token, others⟩) := by
      simp only [Line.text, List.flatMap_cons, hgap, List.cons_append, List.append_assoc]
    rw [htext, Text.pieces_append_of_separates first.isUnbroken_text hseparates.1,
      List.filterMap_cons, filterMap_pieces_append hseparates.2, ih token, map_entry_pairs,
      map_entry_pairs, Line.tokens, List.filterMap_cons]
    rfl

/-! ## Taking in pairs -/

/-- The names that have a value. -/
def names (sample : Sample) : List Text := sample.fields.map Prod.fst

/-- Take in pairs of a name and a value from left to right. -/
def gather (entries : List (Text × Text)) : Sample :=
  entries.foldl (fun sample entry => sample.put entry.1 entry.2) ⟨[]⟩

/-- The last entry is put behind the others. -/
theorem gather_concat (entries : List (Text × Text)) (entry : Text × Text) :
    gather (entries ++ [entry]) = (gather entries).put entry.1 entry.2 := by
  rw [gather, List.foldl_append, List.foldl_cons, List.foldl_nil, gather]

/-- The value of a name is the one that was put there last. -/
theorem text?_put (sample : Sample) : (sample.put name value).text? n =
    if Text.upper n = name then some value else sample.text? n := by
  rw [text?, put, List.lookup_cons]
  split
  · rename_i h
    rw [if_pos (beq_iff_eq.1 h)]
  · rename_i h
    have hne : Text.upper n ≠ name := beq_eq_false_iff_ne.1 h
    rw [if_neg hne, text?, List.lookup_eq_findSome?, List.lookup_eq_findSome?,
      ← List.head?_filterMap, ← List.head?_filterMap, List.filterMap_filter]
    -- An entry that was taken away does not have the name that is asked for.
    refine congrArg List.head? (List.filterMap_congr fun field _ => ?_)
    by_cases hfield : field.1 = name
    · rw [if_neg (by simpa using hfield), if_neg (by simpa [hfield] using hne)]
    · rw [if_pos (by simpa using hfield)]

/-- A sample has the names that it had, and the one that was put into it. -/
theorem mem_names_put (sample : Sample) : n ∈ (sample.put name value).names ↔
    n = name ∨ n ∈ sample.names := by
  by_cases hn : n = name
  · simp [names, put, hn]
  · simp [names, put, hn]

/-- A name never has two values. -/
theorem nodup_names_put {sample : Sample} (h : sample.names.Nodup) :
    (sample.put name value).names.Nodup := by
  refine List.nodup_cons.2 ⟨?_, h.sublist (List.filter_sublist.map _)⟩
  simp

/-- The names of a sample are those of its entries. -/
theorem mem_names_gather {entries : List (Text × Text)} :
    n ∈ (gather entries).names ↔ n ∈ entries.map Prod.fst := by
  induction entries using List.reverseRecOn with
  | nil => exact Iff.rfl
  | append_singleton entries entry ih =>
    rw [gather_concat, mem_names_put, ih, List.map_append, List.mem_append, or_comm]
    simp

/-- No name of a sample is there twice. -/
theorem nodup_names_gather (entries : List (Text × Text)) : (gather entries).names.Nodup := by
  induction entries using List.reverseRecOn with
  | nil => exact List.nodup_nil
  | append_singleton entries entry ih =>
    rw [gather_concat]
    exact nodup_names_put ih

/-- A name has the value of the last pair with this name. -/
theorem text?_gather (pairs : List Pair) (n : Text) :
    (gather (pairs.map Pair.entry)).text? n = (named n pairs).getLast?.map Pair.value := by
  induction pairs using List.reverseRecOn with
  | nil => rfl
  | append_singleton pairs pair ih =>
    rw [List.map_append, List.map_singleton, gather_concat, text?_put, ih, named, named,
      List.filter_append, List.filter_singleton]
    cases halike : Text.alike pair.name n with
    | true =>
      have hname : Text.upper n = pair.entry.1 := (Text.alike_iff.1 halike).symm
      rw [if_pos hname, cond_true, List.getLast?_concat]
      rfl
    | false =>
      have hname : Text.upper n ≠ pair.entry.1 := fun heq =>
        Bool.eq_false_iff.1 halike (Text.alike_iff.2 heq.symm)
      rw [if_neg hname, cond_false, List.append_nil]

/-- There are as many values as there are different names. -/
theorem size_gather (pairs : List Pair) :
    (gather (pairs.map Pair.entry)).size =
      (pairs.map fun pair => Text.upper pair.name).toFinset.card := by
  have hnames : (gather (pairs.map Pair.entry)).names.toFinset =
      (pairs.map fun pair => Text.upper pair.name).toFinset := by
    ext n
    rw [List.mem_toFinset, List.mem_toFinset, mem_names_gather, List.map_map]
    rfl
  rw [← hnames, List.toFinset_card_of_nodup (nodup_names_gather _), names, List.length_map, size]

/-! ## Lines that tell the same -/

/-- Two lists hold the same pairs in an order in which at most pairs with different names have
changed places: of every name, the pairs come one after the other as before. -/
def Rearranged (first second : List Pair) : Prop := ∀ n, named n first = named n second

namespace Rearranged

variable {first second third : List Pair} {p q pair : Pair}

/-- Lines that are rearranged twice are rearranged. -/
theorem trans (h : Rearranged first second) (h' : Rearranged second third) :
    Rearranged first third := fun n => (h n).trans (h' n)

/-- Two neighbours with different names may change places. -/
theorem swap (front back : List Pair) (h : Text.alike p.name q.name = false) :
    Rearranged (front ++ p :: q :: back) (front ++ q :: p :: back) := by
  intro n
  -- No name is that of both, so one of the two is left out in either order.
  have hone : Text.alike p.name n = false ∨ Text.alike q.name n = false := by
    by_contra hboth
    simp only [not_or, Bool.not_eq_false, Text.alike_iff] at hboth
    exact Bool.eq_false_iff.1 h (Text.alike_iff.2 (hboth.1.trans hboth.2.symm))
  rw [named, named, List.filter_append, List.filter_append]
  refine congrArg (front.filter _ ++ ·) ?_
  rcases hone with hp | hq
  · simp only [List.filter_cons, hp, Bool.false_eq_true, if_false]
  · simp only [List.filter_cons, hq, Bool.false_eq_true, if_false]

/-- The pairs are the same. -/
theorem mem_iff (h : Rearranged first second) : pair ∈ first ↔ pair ∈ second := by
  have hnamed : ∀ pairs : List Pair, pair ∈ named pair.name pairs ↔ pair ∈ pairs := fun pairs => by
    rw [named, List.mem_filter]
    exact and_iff_left (Text.alike_iff.2 rfl)
  rw [← hnamed first, h, hnamed second]

/-- So are the values and how many there are. -/
theorem text?_gather_eq (h : Rearranged first second) (n : Text) :
    (gather (second.map Pair.entry)).text? n = (gather (first.map Pair.entry)).text? n := by
  rw [text?_gather, text?_gather, h]

/-- Lines that are rearranged have the same number of names. -/
theorem size_gather_eq (h : Rearranged first second) :
    (gather (second.map Pair.entry)).size = (gather (first.map Pair.entry)).size := by
  rw [size_gather, size_gather]
  congr 1
  ext n
  simp only [List.mem_toFinset, List.mem_map, h.mem_iff]

/-- If one has pairs, so has the other. -/
theorem ne_nil (h : Rearranged first second) (hne : first ≠ []) : second ≠ [] := by
  obtain ⟨pair, hpair⟩ := List.exists_mem_of_ne_nil first hne
  exact List.ne_nil_of_mem (h.mem_iff.1 hpair)

end Rearranged

/-! ## Samples -/

/-- The sample of a line with pairs. -/
theorem parse?_text {line : Line} (hne : line.pairs ≠ []) :
    parse? line.text = some (gather (line.pairs.map Pair.entry)) := by
  rw [parse?, filterMap_pieces]
  cases hpairs : line.pairs with
  | nil => exact absurd hpairs hne
  | cons pair pairs => rfl

/-- A text tells nothing if and only if no pair stands in it. -/
theorem parse?_eq_none_iff : parse? t = none ↔ ¬∃ pair : Pair, pair.StandsIn t := by
  have hnone : parse? t = none ↔ ∀ piece ∈ Text.pieces separates t, pair? piece = none := by
    rw [← List.filterMap_eq_nil_iff, parse?]
    cases (Text.pieces separates t).filterMap pair? <;> simp
  rw [hnone]
  constructor
  · rintro h ⟨pair, hstands⟩
    have hmem := Text.mem_pieces_iff.2 ⟨pair.isUnbroken_text, hstands⟩
    exact Option.some_ne_none _ (pair.pair?_text.symm.trans (h _ hmem))
  · intro h piece hpiece
    by_contra hpair
    obtain ⟨hplain, hstands⟩ := Text.mem_pieces_iff.1 hpiece
    obtain ⟨pair, rfl⟩ := exists_pair hplain hpair
    exact h ⟨pair, hstands⟩

/-- From a line with pairs, among whatever other tokens, each name is known by the value of the last
pair with this name, the case of letters aside, and there are as many values as there are different
names. Pairs with different names may be written in any order. A text tells nothing if and only if
none of its tokens has a name in front of an `=`. -/
theorem decodes_pairs :
    (∀ line : Line, line.pairs ≠ [] → ∃ sample, parse? line.text = some sample ∧
      (∀ n, sample.text? n = (named n line.pairs).getLast?.map Pair.value) ∧
      sample.size = (line.pairs.map fun pair => Text.upper pair.name).toFinset.card ∧
      ∀ other : Line, Rearranged line.pairs other.pairs →
        ∃ sample', parse? other.text = some sample' ∧ (∀ n, sample'.text? n = sample.text? n) ∧
          sample'.size = sample.size) ∧
    ∀ t, parse? t = none ↔ ¬∃ pair : Pair, pair.StandsIn t := by
  refine ⟨fun line hne => ⟨_, parse?_text hne, text?_gather _, size_gather _, ?_⟩,
    fun t => parse?_eq_none_iff⟩
  intro other h
  exact ⟨_, parse?_text (h.ne_nil hne), h.text?_gather_eq, h.size_gather_eq⟩

/-- The second of three pairs has the name of the first one and no value, and the third one has a
value that begins with `=`. -/
theorem decodes_pairs_repeated :
    let low : Pair := ⟨"p1".toList, "1000.1".toList, by decide, by decide, by decide, by decide⟩
    let none : Pair := ⟨"P1".toList, [], by decide, by decide, by decide, by decide⟩
    let odd : Pair := ⟨"T".toList, "=b".toList, by decide, by decide, by decide, by decide⟩
    let word : Filler := ⟨"x".toList, by decide, by decide⟩
    let nameless : Filler := ⟨"=7".toList, by decide, by decide⟩
    let gap : Gap := ⟨";; ".toList, by decide⟩
    let comma : Gap := ⟨[','], by decide⟩
    let line : Line := ⟨.pair low, [(gap, .filler word), (comma, .filler nameless),
      (comma, .pair none), (gap, .pair odd)]⟩
    let other : Line := ⟨.pair odd, [(comma, .pair low), (gap, .pair none)]⟩
    line.text = "p1=1000.1;; x,=7,P1=;; T==b".toList ∧ line.pairs ≠ [] ∧
    Rearranged line.pairs other.pairs ∧
    (∃ sample, parse? line.text = some sample ∧ sample.text? "p1".toList = some [] ∧
      sample.text? "t".toList = some "=b".toList ∧ sample.size = 2 ∧
      ∃ sample', parse? other.text = some sample' ∧ sample'.text? "P1".toList = some [] ∧
        sample'.size = 2) ∧
    ¬∃ pair : Pair, pair.StandsIn "1013.25 =5".toList := by
  intro low none odd word nameless gap comma line other
  have hne : line.pairs ≠ [] := List.cons_ne_nil _ _
  have hrearranged : Rearranged line.pairs other.pairs :=
    Rearranged.trans (.swap [low] [] (by decide)) (.swap [] [none] (by decide))
  obtain ⟨hline, hnone⟩ := decodes_pairs
  obtain ⟨sample, hsample, htext, hsize, hother⟩ := hline line hne
  obtain ⟨sample', hsample', htext', hsize'⟩ := hother other hrearranged
  have hp : sample.text? "P1".toList = some [] := (htext _).trans (by decide)
  have hcount : sample.size = 2 := hsize.trans (by decide)
  exact ⟨by decide, hne, hrearranged, ⟨sample, hsample, (htext _).trans (by decide),
    (htext _).trans (by decide), hcount, sample', hsample', (htext' _).trans hp,
    hsize'.trans hcount⟩, (hnone _).1 (by decide)⟩

end Sample

end WeatherBus
