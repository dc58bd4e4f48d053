import WeatherBus.DigitalBarometer.Variable
import WeatherBus.HumidityProbe.Variable
import WeatherBus.Proofs.Format.Reading
import WeatherBus.Proofs.Number.Written

/-! # Written formats are read back

The rules of the format language compete at every place of a text. Between blanks each item is still
read as itself.

* **`Format.Vocabulary.IsLegible`** — the names of variables that no other rule takes, and of which
  the longest is meant;
* **`Format.Item.marks`** — what is found where an item is written, `Format.finds_print`;
* **`Format.compile_print`** — a list of items is read back over any legible vocabulary;
* **`Format.reads_back_formats`** — the vocabularies of the instruments are legible. -/

namespace WeatherBus

namespace Format

variable {V S : Type} {words : Vocabulary V S} {tail : Text}

/-! ## Behind an item -/

/-- Behind an item the text ends, or a blank stands there. -/
def EndsItem (tail : Text) : Prop := ∀ c ∈ tail.head?, c = ' '

/-- An item ends at the end of the text. -/
theorem endsItem_nil : EndsItem [] := fun _ h => absurd h (Option.not_mem_none _)

/-- It ends at a blank. -/
theorem endsItem_blank (t : Text) : EndsItem (' ' :: t) := fun _ h => (Option.some.inj h).symm

/-- A blank is passed over. -/
theorem finds_blank (words : Vocabulary V S) (t : Text) :
    finds words (' ' :: t) = .nothing :: finds words t := by
  rw [finds_cons]
  rfl

/-! ## Numbers -/

/-- A length that is not too large is read as it is. -/
theorem limited_ofNat {n : Nat} (h : n ≤ maxLength) : limited (Numeral.ofNat n) = n := by
  rw [limited, Numeral.natural?_ofNat, Option.getD_some, Nat.min_eq_left h]

/-- A width and a precision are found in front of a blank. -/
theorem finds_size {width precision : Nat} (hwidth : width ≤ maxLength)
    (hprecision : precision ≤ maxLength) (t : Text) :
    finds words (Numeral.ofNat width ++ '.' :: Numeral.ofNat precision ++ ' ' :: t) =
      .size width precision :: .nothing :: finds words t := by
  have hw : ∀ c ∈ Numeral.ofNat width, c.isDigit = true := fun c => Numeral.isDigit_of_mem_ofNat
  have hp : ∀ c ∈ Numeral.ofNat precision, c.isDigit = true := fun c => Numeral.isDigit_of_mem_ofNat
  have hwidth := limited_ofNat hwidth
  have hprecision := limited_ofNat hprecision
  obtain ⟨c, front, hfront⟩ := List.exists_cons_of_ne_nil (Numeral.ofNat_ne_nil width)
  obtain ⟨d, back, hback⟩ := List.exists_cons_of_ne_nil (Numeral.ofNat_ne_nil precision)
  rw [hfront] at hw hwidth ⊢
  rw [hback] at hp hprecision ⊢
  rw [List.forall_mem_cons] at hw hp
  have hother : '.'.isDigit = false ∧ ' '.isDigit = false := by decide
  obtain ⟨hpoint, hrest⟩ :=
    Numeral.takeWhile_isDigit_append_cons hw.2 hother.1 (d :: back ++ ' ' :: t)
  obtain ⟨hblank, hend⟩ := Numeral.takeWhile_isDigit_append_cons hp.2 hother.2 t
  have hdecimals : decimals ('.' :: (d :: back ++ ' ' :: t)) = (precision, ' ' :: t) := by
    rw [List.cons_append, decimals, if_pos hp.1, hblank, hend, hprecision]
  have hfind : find words.table c (front ++ '.' :: (d :: back ++ ' ' :: t)) =
      (.size width precision, ' ' :: t) := by
    rw [find, if_pos hw.1, hpoint, hrest, hdecimals, hwidth]
  rw [List.append_assoc, List.cons_append, List.cons_append, finds_cons, hfind, finds_blank]

/-- The width of a unit is found. -/
theorem unitWidth_append {width : Nat} (hwidth : width ≤ maxUnitWidth) (htail : EndsItem tail) :
    unitWidth ((if width = 0 then [] else Numeral.ofNat width) ++ tail) = (width, tail) := by
  split
  · rename_i hzero
    rw [List.nil_append, hzero]
    cases tail with
    | nil => rfl
    | cons c t =>
      obtain rfl := htail c rfl
      rfl
  · have hall : ∀ width ≤ maxUnitWidth, Numeral.ofNat width = [Nat.digitChar width] ∧
        (Nat.digitChar width).isDigit = true ∧ limited [Nat.digitChar width] = width := by
      decide
    obtain ⟨hdigits, hdigit, hvalue⟩ := hall width hwidth
    rw [hdigits, List.singleton_append, unitWidth, if_pos hdigit, hvalue]

/-- A unit is found with its width. -/
theorem finds_unit {width : Nat} (hwidth : width ≤ maxUnitWidth) (htail : EndsItem tail) :
    finds words ('U' :: ((if width = 0 then [] else Numeral.ofNat width) ++ tail)) =
      .item (.unit width) :: finds words tail := by
  rw [finds_cons]
  simp only [find, unitWidth_append hwidth htail]
  rfl

/-! ## Literals -/

/-- A text between quotes is found as a whole. -/
theorem finds_literal {text : Text} (hquote : '"' ∉ text) (hsize : Utf8.size text ≤ maxLiteral)
    (tail : Text) : finds words ('"' :: (text ++ '"' :: tail)) =
      .item (.literal text) :: finds words tail := by
  have hinside : ∀ c ∈ text, decide (c ≠ '"') = true := fun c hc =>
    decide_eq_true fun heq => hquote (heq ▸ hc)
  have htext : (text ++ '"' :: tail).takeWhile (· ≠ '"') = text := by
    rw [List.takeWhile_append_of_pos hinside]
    exact List.append_nil text
  have hrest : (text ++ '"' :: tail).dropWhile (· ≠ '"') = '"' :: tail := by
    rw [List.dropWhile_append_of_pos hinside]
    rfl
  rw [finds_cons, find, if_neg (by decide), if_pos rfl, hrest, htext,
    Utf8.takeBytes_eq_self hsize]

/-! ## Names -/

/-- A letter other than that of units starts the name of a checksum or of a variable. -/
theorem find_letter {names : List (Text × V)} {c : Char} (hletter : c.isAlpha = true)
    (hunit : c.toUpper ≠ 'U') (t : Text) :
    find names c t =
      match leading? checks (c :: t) with
      | some (check, rest) => (.item (.check check), rest)
      | none =>
        match leading? names (c :: t) with
        | some (name, rest) => (.name name, rest)
        | none => (.nothing, t) := by
  have hdigit : ¬c.isDigit = true := by
    have hparts : c.isAlpha = (decide (65 ≤ c.toNat ∧ c.toNat ≤ 90) ||
      (decide (97 ≤ c.toNat) && decide (c.toNat ≤ 122))) := rfl
    have hbounds : c.isDigit = (decide (48 ≤ c.toNat) && decide (c.toNat ≤ 57)) := rfl
    simp only [hparts, Bool.or_eq_true, Bool.and_eq_true, decide_eq_true_eq] at hletter
    simp only [hbounds, Bool.and_eq_true, decide_eq_true_eq]
    omega
  have hother : ∀ d, d.isAlpha = false → c ≠ d := by
    rintro d hd rfl
    rw [hd] at hletter
    exact Bool.false_ne_true hletter
  have hescape : ¬(c = '\\' || c = '#') = true := by
    rw [decide_eq_false (hother '\\' (by decide)), decide_eq_false (hother '#' (by decide))]
    exact Bool.false_ne_true
  -- None of the rules in front applies.
  calc find names c t = _ := if_neg hdigit
    _ = _ := if_neg (hother '"' (by decide))
    _ = _ := if_neg hescape
    _ = _ := if_neg hunit
    _ = _ := if_pos hletter

/-- The names of a vocabulary are told from each other and from all other items. -/
structure Vocabulary.IsLegible (words : Vocabulary V S) : Prop where
  /-- A name starts with a letter, but not with that of units. -/
  head : ∀ v ∈ words.known, (words.name v).head?.any fun c => c.isAlpha && c.toUpper != 'U'
  isToken : ∀ v ∈ words.known, (words.name v).IsToken
  /-- No name and no checksum start with each other. -/
  diverges : ∀ v ∈ words.known, ∀ check ∈ checks, Text.Diverges check.1 (words.name v)
  eq_of_alike : ∀ v ∈ words.known, ∀ w ∈ words.known,
    Text.alike (words.name v) (words.name w) = true → v = w

/-- Of all names that stand in front of a text, the whole word is found. -/
theorem leading?_name (hwords : words.IsLegible) {name : V} (hname : name ∈ words.known)
    (htail : EndsItem tail) :
    leading? words.table (words.name name ++ tail) = some (name, tail) := by
  have hdrop : Text.dropWord? (words.name name) (words.name name ++ tail) = some tail :=
    Text.dropWord?_eq_some_iff.2 ⟨words.name name, rfl, rfl⟩
  refine Keyword.longest?_eq_some (List.mem_reverse.2 (List.mem_map_of_mem hname)) hdrop rfl ?_
  intro entry hentry other hother
  obtain ⟨v, hv, rfl⟩ := List.mem_map.1 (List.mem_reverse.1 hentry)
  obtain ⟨front, heq, hfront⟩ := Text.dropWord?_eq_some_iff.1 hother
  have halike : Text.alike front (words.name v) = true := Text.alike_iff.2 hfront
  have hsame (h : front = words.name name) : v = name := by
    rw [h] at halike
    exact (hwords.eq_of_alike name hname v hv halike).symm
  rcases List.append_eq_append_iff.1 heq with ⟨more, hmore, hsplit⟩ | ⟨more, hmore, hsplit⟩
  · cases more with
    | nil =>
      rw [List.append_nil] at hmore
      exact .inl ⟨hsame hmore, hsplit.symm⟩
    | cons c more =>
      -- A name that reaches beyond the word would hold the blank behind it.
      exfalso
      have hblank : c = ' ' := by
        refine htail c ?_
        rw [hsplit]
        rfl
      have hc : c ∈ front := by
        rw [hmore]
        exact List.mem_append_right _ List.mem_cons_self
      have hchar := (hwords.isToken v hv).of_alike halike c hc
      rw [hblank] at hchar
      exact absurd hchar (by decide)
  · cases more with
    | nil =>
      rw [List.append_nil] at hmore
      exact .inl ⟨hsame hmore.symm, hsplit⟩
    | cons c more =>
      refine .inr ?_
      rw [hsplit, List.length_append, List.length_cons]
      omega

/-- The name of a variable is found as it. -/
theorem finds_name (hwords : words.IsLegible) {name : V} (hname : name ∈ words.known)
    (htail : EndsItem tail) :
    finds words (words.name name ++ tail) = .name name :: finds words tail := by
  have hname? := leading?_name hwords hname htail
  have hcheck? : leading? checks (words.name name ++ tail) = none :=
    Keyword.longest?_eq_none fun check hcheck =>
      Text.dropWord?_of_diverges (hwords.diverges name hname check (List.mem_reverse.1 hcheck))
        (Text.alike_iff.2 rfl) tail
  have hhead := hwords.head name hname
  cases hword : words.name name with
  | nil =>
    rw [hword] at hhead
    exact absurd hhead Bool.false_ne_true
  | cons c word =>
    rw [hword] at hhead hname? hcheck?
    rw [List.cons_append] at hname? hcheck? ⊢
    obtain ⟨hletter, hunit⟩ := Bool.and_eq_true_iff.1 hhead
    have hfind : find words.table c (word ++ tail) = (.name name, tail) := by
      rw [find_letter hletter (bne_iff_ne.1 hunit), hcheck?, hname?]
    rw [finds_cons, hfind]

/-! ## Checksums -/

/-- The name of a checksum. -/
def Check.name : Check → Text
  | .xor => "CS2".toList
  | .crc => "CS4".toList
  | .sum => "CSX".toList

/-- A checksum is found before any variable. -/
theorem finds_check (words : Vocabulary V S) (kind : Check) (tail : Text) :
    finds words (kind.name ++ tail) = .item (.check kind) :: finds words tail := by
  have hmem : (kind.name, kind) ∈ checks.reverse := by cases kind <;> decide
  have hfound : leading? checks (kind.name ++ tail) = some (kind, tail) :=
    Keyword.longest?_of_mem (by decide) hmem (Text.alike_iff.2 rfl) rfl
  have hhead : ∃ rest, kind.name = 'C' :: rest := by cases kind <;> exact ⟨_, rfl⟩
  obtain ⟨rest, hrest⟩ := hhead
  rw [hrest, List.cons_append] at hfound ⊢
  rw [finds_cons, find_letter (by decide) (by decide), hfound]

/-! ## Items -/

/-- What is found where an item is written. -/
def Item.marks : Item V → List (Found V)
  | .quantity name width precision =>
    if width = 0 && precision = 0 then [.name name]
    else [.size width precision, .nothing, .name name]
  | item => [.item item]

/-- An item as it can be read from a format text. -/
def Item.IsWritable (words : Vocabulary V S) (item : Item V) : Prop :=
  item.IsBounded ∧
    match item with
    | .literal text => '"' ∉ text
    | .quantity name _ _ => name ∈ words.known
    | .unit _ | .check _ => True

instance [DecidableEq V] (words : Vocabulary V S) :
    (item : Item V) → Decidable (item.IsWritable words)
  | .literal text => inferInstanceAs (Decidable (Utf8.size text ≤ maxLiteral ∧ '"' ∉ text))
  | .quantity name width precision => inferInstanceAs
      (Decidable ((width ≤ maxLength ∧ precision ≤ maxLength) ∧ name ∈ words.known))
  | .unit width => inferInstanceAs (Decidable (width ≤ maxUnitWidth ∧ True))
  | .check _ => .isTrue ⟨trivial, trivial⟩

/-- Every item that is written in front of a blank is found. -/
theorem finds_print (hwords : words.IsLegible) {item : Item V} (hitem : item.IsWritable words)
    (htail : EndsItem tail) :
    finds words (item.print words ++ tail) = item.marks ++ finds words tail := by
  obtain ⟨hbounded, hwritable⟩ := hitem
  cases item with
  | literal text =>
    have hprint : (Item.literal text).print words ++ tail = '"' :: (text ++ '"' :: tail) := by
      rw [Item.print, List.cons_append, List.cons_append, List.append_assoc]
      rfl
    rw [hprint]
    exact finds_literal hwritable hbounded tail
  | quantity name width precision =>
    rw [Item.print, Item.marks, printSize, List.append_assoc]
    split
    · exact finds_name hwords hwritable htail
    · have hprint : Numeral.ofNat width ++ '.' :: Numeral.ofNat precision ++ [' '] ++
          (words.name name ++ tail) = Numeral.ofNat width ++ '.' :: Numeral.ofNat precision ++
            ' ' :: (words.name name ++ tail) := by
        rw [List.append_assoc _ [' '], List.singleton_append]
      rw [hprint, finds_size hbounded.1 hbounded.2, finds_name hwords hwritable htail]
      rfl
  | unit width => exact finds_unit hbounded htail
  | check kind =>
    have hname : (Item.check kind).print words = kind.name := by cases kind <;> rfl
    rw [hname]
    exact finds_check _ kind tail

/-- Items are put together one by one. -/
theorem assemble_marks (item : Item V) (found : List (Found V)) :
    assemble 0 0 (item.marks ++ found) = (item :: ·) <$> assemble 0 0 found := by
  cases item with
  | literal | unit | check => rfl
  | quantity name width precision =>
    rw [Item.marks]
    split
    · rename_i h
      rw [Bool.and_eq_true, decide_eq_true_eq, decide_eq_true_eq] at h
      rw [h.1, h.2]
      rfl
    · rfl

/-- Items between blanks are read back. -/
theorem assemble_finds_print (hwords : words.IsLegible) {items : List (Item V)}
    (hitems : ∀ item ∈ items, item.IsWritable words) :
    assemble 0 0 (finds words (print words items)) = .ok items := by
  induction items with
  | nil =>
    rw [print, List.map_nil, List.intercalate_nil, finds_nil, assemble]
  | cons item rest ih =>
    rw [List.forall_mem_cons] at hitems
    have hrest := ih hitems.2
    cases rest with
    | nil =>
      have hprint : print words [item] = item.print words ++ [] := by
        rw [print, List.map_singleton, List.intercalate_singleton, List.append_nil]
      rw [hprint, finds_print hwords hitems.1 endsItem_nil, assemble_marks, finds_nil, assemble]
      rfl
    | cons next rest =>
      have hprint : print words (item :: next :: rest) =
          item.print words ++ ' ' :: print words (next :: rest) := by
        rw [print, List.map_cons, List.map_cons, List.intercalate_cons_cons, List.append_assoc]
        rfl
      rw [hprint, finds_print hwords hitems.1 (endsItem_blank _), assemble_marks, finds_blank,
        assemble, hrest]
      rfl

/-- A list of items is read back from the text that asks for it. -/
theorem compile_print (hwords : words.IsLegible) {items : List (Item V)}
    (hitems : ∀ item ∈ items, item.IsWritable words)
    (hsize : Utf8.size (print words items) ≤ maxLength) :
    compile words (print words items) = .ok { items, source := print words items } := by
  rw [compile_of_size_le hsize, assemble_finds_print hwords hitems]
  rfl

/-! ## The vocabularies of the instruments -/

/-- Every list of items is read back from the text that asks for it, as long as a text may be. -/
def Vocabulary.ReadsBack (words : Vocabulary V S) : Prop :=
  ∀ items : List (Item V), (∀ item ∈ items, item.IsWritable words) →
    Utf8.size (print words items) ≤ maxLength →
      compile words (print words items) = .ok { items, source := print words items }

/-- A legible vocabulary reads back what is written in it. -/
theorem Vocabulary.IsLegible.readsBack (hwords : words.IsLegible) : words.ReadsBack :=
  fun _ hitems hsize => compile_print hwords hitems hsize

/-- The variables of digital barometers can be told apart in a text. -/
theorem isLegible_digitalBarometer : DigitalBarometer.vocabulary.IsLegible :=
  ⟨by decide, by decide, by decide, by decide⟩

/-- So can those of humidity probes. -/
theorem isLegible_humidityProbe : HumidityProbe.vocabulary.IsLegible :=
  ⟨by decide, by decide, by decide, by decide⟩

/-- And so can those of barometers. -/
theorem isLegible_busBarometer : BusBarometer.vocabulary.IsLegible :=
  ⟨by decide, by decide, by decide, by decide⟩

/-- All instruments read back the formats that are written in their variables. -/
theorem reads_back_formats :
    DigitalBarometer.vocabulary.ReadsBack ∧ HumidityProbe.vocabulary.ReadsBack ∧
      BusBarometer.vocabulary.ReadsBack :=
  ⟨isLegible_digitalBarometer.readsBack, isLegible_humidityProbe.readsBack,
    isLegible_busBarometer.readsBack⟩

/-- Names that start with each other, and a literal that looks like other items. -/
theorem reads_back_formats_alike :
    let items : List (Item HumidityProbe.Variable) :=
      [.quantity .frostPoint 256 256, .unit 9, .quantity .dewPoint 0 0, .literal "U CS2 µ".toList,
        .quantity .temperature 0 5, .unit 0, .check .sum]
    (∀ item ∈ items, item.IsWritable HumidityProbe.vocabulary) ∧
      print HumidityProbe.vocabulary items =
        "256.256 TDF U9 TD \"U CS2 µ\" 0.5 T U CSX".toList ∧
      compile HumidityProbe.vocabulary (print HumidityProbe.vocabulary items) =
        .ok { items, source := print HumidityProbe.vocabulary items } :=
  have hitems := by decide
  ⟨hitems, by decide, reads_back_formats.2.1 _ hitems (by decide)⟩

end Format

end WeatherBus
