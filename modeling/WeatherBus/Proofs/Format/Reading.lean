import Mathlib.Data.List.TakeWhile
import WeatherBus.BusBarometer.Format
import WeatherBus.Format.Compile
import WeatherBus.Proofs.Frame.Block
import WeatherBus.Proofs.Keyword

/-! # Format texts of any kind

A reader of a format text finds one thing after the other, and then goes on with what is left of the
text. The items are put together from what it finds.

* **`Format.Completes`** — over some table, a reader comes to the end of a text;
* **`Format.rounds`**, **`Format.assemble`** — what is found with what is left behind it, and the
  items of it; `Format.completes_rounds` and `Format.readItems_eq_assemble` say that this is how a
  text is read;
* **`Format.FoundAt`** — what can be found in front of a text; `Format.foundAt_find` says that
  nothing else can;
* **`Format.suffix_of_mem_rounds`**, **`Format.pairwise_rounds`** — what is left is always a part
  of the text up to its end, and always shorter than before;
* **`Format.openQuote_mem_iff`** — a quote stays open exactly if their number is odd;
* **`Format.reads_safely`** — what becomes of a format text, whatever is in it, if no name is empty
  or holds a quote; `Format.reads_unsafely` says what becomes of it otherwise. -/

namespace WeatherBus

namespace Format

variable {V S : Type} {words : Vocabulary V S} {names : List (Text × V)}

/-! ## Rounds of a reader -/

/-- A reader comes to the end of a text, having found one thing after the other, each with what was
left of the text then. Over a table in which a name is empty it need not come to an end. -/
inductive Completes (names : List (Text × V)) : Text → List (Found V × Text) → Prop where
  | done : Completes names [] []
  | round {c : Char} {t : Text} {later : List (Found V × Text)}
      (tail : Completes names (find names c t).2 later) :
      Completes names (c :: t) (find names c t :: later)

/-- What is found in a text, one thing after the other, each with what is left of the text. -/
def rounds (words : Vocabulary V S) : Text → List (Found V × Text)
  | [] => []
  | c :: t => find words.table c t :: rounds words (find words.table c t).2
termination_by t => t.length
decreasing_by exact Nat.lt_succ_of_le (length_find_le words.ne_nil_of_mem_table c t)

/-- What is found in a text. -/
def finds (words : Vocabulary V S) (t : Text) : List (Found V) := (rounds words t).map Prod.fst

/-- The items of what is found, with the width and the precision of the next variable so far. -/
def assemble : (width precision : Nat) → List (Found V) → Except Fault (List (Item V))
  | _, _, [] => .ok []
  | _, _, .size width precision :: rest => assemble width precision rest
  | width, precision, .item item :: rest => (item :: ·) <$> assemble width precision rest
  | width, precision, .name name :: rest =>
    (.quantity name width precision :: ·) <$> assemble 0 0 rest
  | width, precision, .nothing :: rest => assemble width precision rest
  | _, _, .openQuote :: _ => .error (.invalidParameter "unterminated literal")

/-- Over a vocabulary, in which no name is empty, a reader comes to the end of every text. -/
theorem completes_rounds (words : Vocabulary V S) (t : Text) :
    Completes words.table t (rounds words t) := by
  fun_induction rounds words t with
  | case1 => exact .done
  | case2 c t ih => exact .round ih

/-- Nothing is found in an empty text. -/
@[simp] theorem finds_nil : finds words [] = [] := by
  rw [finds, rounds, List.map_nil]

/-- Behind what is found first, the rest of the text is gone through. -/
theorem finds_cons (c : Char) (t : Text) : finds words (c :: t) =
    (find words.table c t).1 :: finds words (find words.table c t).2 := by
  rw [finds, rounds, List.map_cons, finds]

/-- The items of a text are those of what is found in it. -/
theorem readItems_eq_assemble (width precision : Nat) (t : Text) :
    readItems words width precision t = assemble width precision (finds words t) := by
  fun_induction readItems words width precision t with
  | case1 => rw [finds_nil, assemble]
  | case2 _ _ c t _ _ _ rest hfind ih => rw [finds_cons, hfind, assemble, ih]
  | case3 _ _ c t _ _ rest hfind ih => rw [finds_cons, hfind, assemble, ih]
  | case4 _ _ c t _ _ rest hfind ih => rw [finds_cons, hfind, assemble, ih]
  | case5 _ _ c t _ rest hfind ih => rw [finds_cons, hfind, assemble, ih]
  | case6 _ _ c t _ _ hfind => rw [finds_cons, hfind, assemble]

/-! ## What can be found -/

/-- The largest width of a unit. -/
def maxUnitWidth : Nat := 9

/-- The limits of literals, widths and precisions. -/
def Item.IsBounded : Item V → Prop
  | .literal text => Utf8.size text ≤ maxLiteral
  | .quantity _ width precision => width ≤ maxLength ∧ precision ≤ maxLength
  | .unit width => width ≤ maxUnitWidth
  | .check _ => True

/-- What can be found in front of a text, and what is left of the text then. -/
inductive FoundAt (names : List (Text × V)) : Text → Found V × Text → Prop where
  | size {front rest : Text} {width precision : Nat} (hne : front ≠ []) (hquote : '"' ∉ front)
      (hwidth : width ≤ maxLength) (hprecision : precision ≤ maxLength) :
      FoundAt names (front ++ rest) (.size width precision, rest)
  /-- The text between two quotes. -/
  | literal {inside rest : Text} (hquote : '"' ∉ inside) :
      FoundAt names ('"' :: inside ++ '"' :: rest)
        (.item (.literal (Utf8.takeBytes maxLiteral inside)), rest)
  /-- There is no second quote. -/
  | openQuote {inside : Text} (hquote : '"' ∉ inside) :
      FoundAt names ('"' :: inside) (.openQuote, [])
  | escape {front rest word text : Text} (hne : front ≠ []) (hquote : '"' ∉ front)
      (hmem : (word, text) ∈ escapes) :
      FoundAt names (front ++ rest) (.item (.literal text), rest)
  | unit {front rest : Text} {width : Nat} (hne : front ≠ []) (hquote : '"' ∉ front)
      (hwidth : width ≤ maxUnitWidth) :
      FoundAt names (front ++ rest) (.item (.unit width), rest)
  | check {front rest : Text} {kind : Check} (hne : front ≠ []) (hquote : '"' ∉ front) :
      FoundAt names (front ++ rest) (.item (.check kind), rest)
  /-- A name in letters of either case. -/
  | name {front rest word : Text} {name : V} (hne : front ≠ [])
      (hword : Text.alike front word = true) (hmem : (word, name) ∈ names) :
      FoundAt names (front ++ rest) (.name name, rest)
  | nothing {c : Char} {rest : Text} (hquote : c ≠ '"') :
      FoundAt names (c :: rest) (.nothing, rest)

/-- No number in a format text is larger than the longest text. -/
theorem limited_le (digits : Text) : limited digits ≤ maxLength := Nat.min_le_right _ _

/-- A single digit is at most nine. -/
theorem limited_singleton_le (c : Char) : limited [c] ≤ maxUnitWidth := by
  have hvalue : (Numeral.natural? 10 [c]).getD 0 ≤ 9 := by
    cases h : Numeral.natural? 10 [c] with
    | none => exact Nat.zero_le 9
    | some n =>
      obtain ⟨d, hd, hn⟩ := Option.bind_eq_some_iff.1 h
      obtain rfl := Option.some.inj hn
      have hlt := Numeral.lt_of_digit? hd
      rw [Option.getD_some]
      omega
  exact Nat.le_trans (Nat.min_le_left _ _) hvalue

/-- A digit is no quote. -/
theorem notMem_quote_of_isDigit {digits : Text} (h : ∀ c ∈ digits, c.isDigit = true) :
    '"' ∉ digits := fun hmem => absurd (h _ hmem) (by decide)

/-- Decimals are digits behind a point. -/
theorem exists_front_of_decimals (t : Text) : ∃ front, t = front ++ (decimals t).2 ∧
    '"' ∉ front ∧ (decimals t).1 ≤ maxLength := by
  unfold decimals
  split
  · rename_i d t
    split
    · rename_i hdigit
      have hdigits : '"' ∉ d :: t.takeWhile Char.isDigit :=
        notMem_quote_of_isDigit (List.forall_mem_cons.2 ⟨hdigit, fun _ => List.mem_takeWhile_imp⟩)
      refine ⟨'.' :: d :: t.takeWhile Char.isDigit, ?_, ?_, limited_le _⟩
      · rw [List.cons_append, List.cons_append, List.takeWhile_append_dropWhile]
      · exact fun hmem => (List.mem_cons.1 hmem).elim (by decide) hdigits
    · exact ⟨[], rfl, List.not_mem_nil, Nat.zero_le _⟩
  · exact ⟨[], rfl, List.not_mem_nil, Nat.zero_le _⟩

/-- The width of a unit is a digit. -/
theorem exists_front_of_unitWidth (t : Text) : ∃ front, t = front ++ (unitWidth t).2 ∧
    '"' ∉ front ∧ (unitWidth t).1 ≤ maxUnitWidth := by
  unfold unitWidth
  split
  · rename_i d t
    split
    · rename_i hdigit
      exact ⟨[d], rfl, notMem_quote_of_isDigit (List.forall_mem_singleton.2 hdigit),
        limited_singleton_le d⟩
    · exact ⟨[], rfl, List.not_mem_nil, Nat.zero_le _⟩
  · exact ⟨[], rfl, List.not_mem_nil, Nat.zero_le _⟩

/-- A word of a table takes at least one character, if no word of the table is empty. -/
theorem exists_front_of_leading? {κ : Type} {table : List (Text × κ)} {t rest : Text} {kind : κ}
    (htable : ∀ entry ∈ table, entry.1 ≠ []) (h : leading? table t = some (kind, rest)) :
    ∃ word front, (word, kind) ∈ table ∧ t = front ++ rest ∧ front ≠ [] ∧
      Text.alike front word = true := by
  obtain ⟨word, front, hmem, heq, halike⟩ := Keyword.exists_front_of_longest? h
  refine ⟨word, front, List.mem_reverse.1 hmem, heq, ?_, halike⟩
  rintro rfl
  have hlength := length_of_leading? htable h
  rw [heq, List.nil_append] at hlength
  exact absurd hlength (Nat.lt_irrefl _)

/-- The case of letters does not matter for where quotes are. -/
theorem notMem_quote_of_alike {front word : Text} (h : Text.alike front word = true)
    (hword : '"' ∉ word) : '"' ∉ front := by
  have hupper (c : Char) : c.toUpper ≠ '"' ↔ c ≠ '"' := by
    rw [ne_eq, ne_eq, ← Char.toNat_inj, ← Char.toNat_inj, Text.toNat_toUpper]
    have hquote : '"'.toNat = 34 := rfl
    split
    · omega
    · rfl
  have hall := Text.forall_of_alike (p := (· ≠ '"')) hupper h fun c hc heq => hword (heq ▸ hc)
  exact fun hmem => hall '"' hmem rfl

/-- Behind a quote, the text up to the next one is found, or that there is none. -/
theorem foundAt_quote (t : Text) : FoundAt names ('"' :: t)
    (match t.dropWhile (· ≠ '"') with
      | _ :: rest =>
        (.item (.literal (Utf8.takeBytes maxLiteral (t.takeWhile (· ≠ '"')))), rest)
      | [] => (.openQuote, [])) := by
  have hinside : '"' ∉ t.takeWhile (· ≠ '"') := by
    intro hmem
    have hne := List.mem_takeWhile_imp hmem
    exact of_decide_eq_true hne rfl
  have heq : t = t.takeWhile (· ≠ '"') ++ t.dropWhile (· ≠ '"') :=
    List.takeWhile_append_dropWhile.symm
  split
  · rename_i d rest hrest
    -- What stands where the text between the quotes ends is a quote.
    have hd : d = '"' := by
      have hhead := List.head?_dropWhile_not (fun x => decide (x ≠ '"')) t
      rw [hrest] at hhead
      simpa using hhead
    have hplace : '"' :: t = '"' :: t.takeWhile (· ≠ '"') ++ '"' :: rest := by
      rw [hd] at hrest
      rw [List.cons_append, ← hrest, ← heq]
    rw [hplace]
    exact .literal hinside
  · rename_i hrest
    rw [hrest, List.append_nil] at heq
    rw [heq]
    exact .openQuote hinside

/-- Behind a digit, further digits and decimals are found. -/
theorem foundAt_digits {c : Char} (hdigit : c.isDigit = true) (t : Text) :
    FoundAt names (c :: t)
      (.size (limited (c :: t.takeWhile Char.isDigit)) (decimals (t.dropWhile Char.isDigit)).1,
        (decimals (t.dropWhile Char.isDigit)).2) := by
  obtain ⟨front, heq, hquote, hprecision⟩ := exists_front_of_decimals (t.dropWhile Char.isDigit)
  have hall : c :: t = (c :: t.takeWhile Char.isDigit ++ front) ++
      (decimals (t.dropWhile Char.isDigit)).2 := by
    rw [List.append_assoc, ← heq, List.cons_append, List.takeWhile_append_dropWhile]
  have hdigits : '"' ∉ c :: t.takeWhile Char.isDigit :=
    notMem_quote_of_isDigit (List.forall_mem_cons.2 ⟨hdigit, fun _ => List.mem_takeWhile_imp⟩)
  have hfront : '"' ∉ c :: t.takeWhile Char.isDigit ++ front := fun hmem =>
    (List.mem_append.1 hmem).elim hdigits hquote
  rw [hall]
  exact .size (List.cons_ne_nil _ _) hfront (limited_le _) hprecision

/-- Nothing else can be found. -/
theorem foundAt_find (words : Vocabulary V S) (c : Char) (t : Text) :
    FoundAt words.table (c :: t) (find words.table c t) := by
  unfold find
  split
  · rename_i hdigit
    exact foundAt_digits hdigit t
  split
  · rename_i hc
    rw [hc]
    exact foundAt_quote t
  rename_i hquote
  have hcons {front : Text} (hfront : '"' ∉ front) : '"' ∉ c :: front := fun hmem =>
    (List.mem_cons.1 hmem).elim (Ne.symm hquote) hfront
  split
  · split
    · rename_i text rest hleading
      obtain ⟨word, front, hmem, heq, -, halike⟩ :=
        exists_front_of_leading? ne_nil_of_mem_escapes hleading
      have hwords : ∀ escape ∈ escapes, '"' ∉ escape.1 := by decide
      have hall : c :: t = (c :: front) ++ rest := by rw [List.cons_append, ← heq]
      rw [hall]
      exact .escape (List.cons_ne_nil _ _)
        (hcons (notMem_quote_of_alike halike (hwords _ hmem))) hmem
    · exact .nothing hquote
  split
  · obtain ⟨front, heq, hfront, hwidth⟩ := exists_front_of_unitWidth t
    have hall : c :: t = (c :: front) ++ (unitWidth t).2 := by
      rw [List.cons_append, ← heq]
    rw [hall]
    exact .unit (List.cons_ne_nil _ _) (hcons hfront) hwidth
  split
  · split
    · rename_i kind rest hleading
      obtain ⟨word, front, hmem, heq, hne, halike⟩ :=
        exists_front_of_leading? ne_nil_of_mem_checks hleading
      have hwords : ∀ check ∈ checks, '"' ∉ check.1 := by decide
      rw [heq]
      exact .check hne (notMem_quote_of_alike halike (hwords _ hmem))
    · split
      · rename_i name rest hleading
        obtain ⟨word, front, hmem, heq, hne, halike⟩ :=
          exists_front_of_leading? words.ne_nil_of_mem_table hleading
        rw [heq]
        exact .name hne halike hmem
      · exact .nothing hquote
  · exact .nothing hquote

/-! ## What is left -/

/-- What is left is what stands behind at least one character. -/
theorem FoundAt.exists_front {place : Text} {result : Found V × Text}
    (h : FoundAt names place result) : ∃ front, front ≠ [] ∧ place = front ++ result.2 := by
  cases h with
  | size hne => exact ⟨_, hne, rfl⟩
  | @literal inside rest =>
    refine ⟨'"' :: inside ++ ['"'], List.cons_ne_nil _ _, ?_⟩
    rw [List.append_assoc, List.singleton_append]
  | openQuote => exact ⟨_, List.cons_ne_nil _ _, (List.append_nil _).symm⟩
  | escape hne => exact ⟨_, hne, rfl⟩
  | unit hne => exact ⟨_, hne, rfl⟩
  | check hne => exact ⟨_, hne, rfl⟩
  | name hne => exact ⟨_, hne, rfl⟩
  | @nothing c => exact ⟨[c], List.cons_ne_nil _ _, rfl⟩

/-- What is found is found in front of what is left of the text. -/
theorem exists_place_of_mem_rounds {t : Text} {round : Found V × Text}
    (h : round ∈ rounds words t) : ∃ place, place <:+ t ∧ FoundAt words.table place round := by
  fun_induction rounds words t with
  | case1 => exact absurd h List.not_mem_nil
  | case2 c t ih =>
    -- The place of a later round is a suffix of what the first round has left.
    have hfound := foundAt_find words c t
    rcases List.mem_cons.1 h with rfl | h
    · exact ⟨c :: t, List.suffix_refl _, hfound⟩
    · obtain ⟨place, hplace, hround⟩ := ih h
      obtain ⟨front, -, heq⟩ := hfound.exists_front
      exact ⟨place, hplace.trans ⟨front, heq.symm⟩, hround⟩

/-- What is left is the end of the text, cut off between two characters. -/
theorem suffix_of_mem_rounds {t : Text} {round : Found V × Text} (h : round ∈ rounds words t) :
    round.2 <:+ t := by
  obtain ⟨place, hplace, hround⟩ := exists_place_of_mem_rounds h
  obtain ⟨front, -, rfl⟩ := hround.exists_front
  exact (List.suffix_append front round.2).trans hplace

/-- In every round less is left than before. -/
theorem pairwise_rounds (words : Vocabulary V S) (t : Text) :
    (t :: (rounds words t).map Prod.snd).Pairwise fun earlier later =>
      Utf8.size later < Utf8.size earlier := by
  fun_induction rounds words t with
  | case1 => exact List.pairwise_singleton _ _
  | case2 c t ih =>
    obtain ⟨front, hne, heq⟩ := (foundAt_find words c t).exists_front
    have hstep : Utf8.size (find words.table c t).2 < Utf8.size (c :: t) := by
      rw [heq, Utf8.size_append]
      have hfront := Utf8.length_le_size front
      have hpos := List.length_pos_iff.2 hne
      omega
    rw [List.map_cons, List.pairwise_cons]
    refine ⟨fun later hlater => ?_, ih⟩
    rcases List.mem_cons.1 hlater with rfl | hlater
    · exact hstep
    · exact Nat.lt_trans ((List.pairwise_cons.1 ih).1 later hlater) hstep

/-! ## Quotes -/

/-- Quotes are passed two by two, if no name holds one. -/
theorem FoundAt.count_quote (hnames : ∀ entry ∈ names, '"' ∉ entry.1) {place : Text}
    {result : Found V × Text} (h : FoundAt names place result) :
    (result.1 = .openQuote ∧ place.count '"' = 1) ∨
      result.1 ≠ .openQuote ∧ place.count '"' % 2 = result.2.count '"' % 2 := by
  have hplain {front rest : Text} (hfront : '"' ∉ front) :
      (front ++ rest).count '"' = rest.count '"' := by
    rw [List.count_append, List.count_eq_zero.2 hfront, Nat.zero_add]
  cases h with
  | size _ hquote => exact .inr ⟨nofun, by rw [hplain hquote]⟩
  | @literal inside rest hquote =>
    refine .inr ⟨nofun, ?_⟩
    rw [List.cons_append, List.count_cons_self, hplain hquote, List.count_cons_self]
    exact Nat.add_mod_right (rest.count '"') 2
  | openQuote hquote =>
    refine .inl ⟨rfl, ?_⟩
    rw [List.count_cons_self, List.count_eq_zero.2 hquote]
  | escape _ hquote => exact .inr ⟨nofun, by rw [hplain hquote]⟩
  | unit _ hquote => exact .inr ⟨nofun, by rw [hplain hquote]⟩
  | check _ hquote => exact .inr ⟨nofun, by rw [hplain hquote]⟩
  | name _ hword hmem =>
    exact .inr ⟨nofun, by rw [hplain (notMem_quote_of_alike hword (hnames _ hmem))]⟩
  | nothing hquote => exact .inr ⟨nofun, by rw [List.count_cons_of_ne hquote]⟩

/-- A quote stays open exactly if their number is odd. -/
theorem openQuote_mem_iff (hnames : ∀ v ∈ words.known, '"' ∉ words.name v) (t : Text) :
    .openQuote ∈ finds words t ↔ t.count '"' % 2 = 1 := by
  fun_induction rounds words t with
  | case1 => simp
  | case2 c t ih =>
    have htable : ∀ entry ∈ words.table, '"' ∉ entry.1 := by
      intro entry hentry
      obtain ⟨v, hv, rfl⟩ := List.mem_map.1 hentry
      exact hnames v hv
    rw [finds_cons, List.mem_cons]
    rcases (foundAt_find words c t).count_quote htable with ⟨hopen, hcount⟩ | ⟨hne, hcount⟩
    · rw [hopen, hcount]
      exact ⟨fun _ => rfl, fun _ => .inl rfl⟩
    · rw [hcount, ← ih]
      exact ⟨fun hmem => hmem.resolve_left (Ne.symm hne), .inr⟩

/-! ## Items -/

/-- Copied text stands in the format text, if it is not what an escape stands for. -/
def Item.ComesFrom (source : Text) : Item V → Prop
  | .literal text => text <:+: source ∨ text ∈ escapes.map Prod.snd
  | .quantity .. | .unit _ | .check _ => True

/-- What is found keeps within the limits, and holds no text of its own. -/
def Found.IsBounded (source : Text) : Found V → Prop
  | .size width precision => width ≤ maxLength ∧ precision ≤ maxLength
  | .item found => found.IsBounded ∧ found.ComesFrom source
  | .name _ | .nothing | .openQuote => True

/-- What is found in a part of a text keeps within the limits. -/
theorem FoundAt.isBounded {place source : Text} {result : Found V × Text}
    (h : FoundAt names place result) (hplace : place <:+ source) :
    result.1.IsBounded source := by
  cases h with
  | size _ _ hwidth hprecision => exact ⟨hwidth, hprecision⟩
  | @literal inside rest =>
    refine ⟨Utf8.size_takeBytes_le maxLiteral inside, .inl ?_⟩
    have hinside : inside <:+: '"' :: inside ++ '"' :: rest := ⟨['"'], '"' :: rest, rfl⟩
    exact ((Utf8.takeBytes_prefix maxLiteral inside).isInfix.trans hinside).trans hplace.isInfix
  | escape _ _ hmem =>
    have hbytes : ∀ escape ∈ escapes, Utf8.size escape.2 ≤ maxLiteral := by decide
    exact ⟨hbytes _ hmem, .inr (List.mem_map_of_mem hmem)⟩
  | unit _ _ hwidth => exact ⟨hwidth, trivial⟩
  | check => exact ⟨trivial, trivial⟩
  | openQuote | name | nothing => trivial

/-- Whatever is found in a text keeps within the limits. -/
theorem isBounded_of_mem_finds {t : Text} {found : Found V} (h : found ∈ finds words t) :
    found.IsBounded t := by
  obtain ⟨round, hround, rfl⟩ := List.mem_map.1 h
  obtain ⟨place, hplace, hfound⟩ := exists_place_of_mem_rounds hround
  exact hfound.isBounded hplace

/-- Items can be put together unless a quote stays open. -/
theorem assemble_cases (width precision : Nat) (found : List (Found V)) :
    (.openQuote ∈ found ∧
      assemble width precision found = .error (.invalidParameter "unterminated literal")) ∨
    .openQuote ∉ found ∧ ∃ items, assemble width precision found = .ok items := by
  have hskip (first : Found V) (found : List (Found V)) (hne : .openQuote ≠ first) :
      .openQuote ∈ first :: found ↔ .openQuote ∈ found :=
    List.mem_cons.trans (or_iff_right hne)
  fun_induction assemble width precision found with
  | case1 => exact .inr ⟨List.not_mem_nil, [], rfl⟩
  | case2 _ _ w d rest ih => rwa [hskip (.size w d) rest nofun]
  | case3 _ _ item rest ih =>
    rw [hskip (.item item) rest nofun]
    rcases ih with ⟨hmem, heq⟩ | ⟨hmem, items, heq⟩
    · exact .inl ⟨hmem, by rw [heq]; rfl⟩
    · exact .inr ⟨hmem, item :: items, by rw [heq]; rfl⟩
  | case4 w d name rest ih =>
    rw [hskip (.name name) rest nofun]
    rcases ih with ⟨hmem, heq⟩ | ⟨hmem, items, heq⟩
    · exact .inl ⟨hmem, by rw [heq]; rfl⟩
    · exact .inr ⟨hmem, .quantity name w d :: items, by rw [heq]; rfl⟩
  | case5 _ _ rest ih => rwa [hskip .nothing rest nofun]
  | case6 => exact .inl ⟨List.mem_cons_self, rfl⟩

/-- Items that are put together from what keeps within the limits do so, too. -/
theorem item_isBounded_of_assemble {source : Text} {found : List (Found V)}
    {width precision : Nat} (hfound : ∀ f ∈ found, f.IsBounded source) (hwidth : width ≤ maxLength)
    (hprecision : precision ≤ maxLength) {items : List (Item V)}
    (h : assemble width precision found = .ok items) :
    ∀ item ∈ items, item.IsBounded ∧ item.ComesFrom source := by
  fun_induction assemble width precision found generalizing items with
  | case1 =>
    obtain rfl := Except.ok.inj h
    exact List.forall_mem_nil _
  | case2 _ _ w d rest ih =>
    rw [List.forall_mem_cons] at hfound
    exact ih hfound.2 hfound.1.1 hfound.1.2 h
  | case3 _ _ item rest ih =>
    rw [List.forall_mem_cons] at hfound
    obtain ⟨others, hothers, rfl⟩ := map_eq_ok_iff.1 h
    exact List.forall_mem_cons.2 ⟨hfound.1, ih hfound.2 hwidth hprecision hothers⟩
  | case4 w d name rest ih =>
    rw [List.forall_mem_cons] at hfound
    obtain ⟨others, hothers, rfl⟩ := map_eq_ok_iff.1 h
    have hrest := ih hfound.2 (Nat.zero_le _) (Nat.zero_le _) hothers
    exact List.forall_mem_cons.2 ⟨⟨⟨hwidth, hprecision⟩, trivial⟩, hrest⟩
  | case5 _ _ rest ih =>
    rw [List.forall_mem_cons] at hfound
    exact ih hfound.2 hwidth hprecision h
  | case6 => exact absurd h nofun

/-! ## Formats -/

/-- A format text is gone through from the front to the end, and between characters only. -/
structure IsScanned (words : Vocabulary V S) (source : Text) : Prop where
  /-- The reader comes to the end of the text. -/
  completes : Completes words.table source (rounds words source)
  /-- What is left after a round starts within the text and between two characters of it. -/
  cut : ∀ round ∈ rounds words source,
    Utf8.dropBytes? (Utf8.size source - Utf8.size round.2) source = some round.2
  /-- Every round takes at least one byte. -/
  advance : (source :: (rounds words source).map Prod.snd).Pairwise fun earlier later =>
    Utf8.size later < Utf8.size earlier
  /-- The items are those of the rounds. -/
  compile_eq : Utf8.size source ≤ maxLength → compile words source =
    (fun items => { items, source }) <$> assemble 0 0 (finds words source)

/-- What becomes of a format text, whatever is in it. -/
structure ReadsSafely (words : Vocabulary V S) (source : Text) : Prop
    extends IsScanned words source where
  outOfRange_iff : (∃ parameter value low high,
    compile words source = .error (.outOfRange parameter value low high)) ↔
      maxLength < Utf8.size source
  invalidParameter_iff : (∃ reason, compile words source = .error (.invalidParameter reason)) ↔
    Utf8.size source ≤ maxLength ∧ source.count '"' % 2 = 1
  ok_iff : (∃ format, compile words source = .ok format) ↔
    Utf8.size source ≤ maxLength ∧ source.count '"' % 2 = 0
  /-- Copied text is a part of the format text or an escape, and no limit is passed. -/
  of_ok : ∀ format, compile words source = .ok format → format.source = source ∧
    ∀ item ∈ format.items, item.IsBounded ∧ item.ComesFrom source

/-- The items of a text that is not too long are put together from what is found in it. -/
theorem compile_of_size_le {source : Text} (h : Utf8.size source ≤ maxLength) :
    compile words source =
      (fun items => { items, source }) <$> assemble 0 0 (finds words source) := by
  rw [compile, if_neg (Nat.not_lt_of_le h), readItems_eq_assemble]
  rfl

/-- A text is too long, or a quote stays open in it, or items are put together from it. -/
theorem compile_cases (hnames : ∀ v ∈ words.known, '"' ∉ words.name v) (source : Text) :
    (maxLength < Utf8.size source ∧ compile words source =
      .error (.outOfWholeRange "format length" (Utf8.size source) 0 maxLength)) ∨
    Utf8.size source ≤ maxLength ∧
      ((source.count '"' % 2 = 1 ∧
        compile words source = .error (.invalidParameter "unterminated literal")) ∨
      source.count '"' % 2 = 0 ∧ ∃ items, assemble 0 0 (finds words source) = .ok items ∧
        compile words source = .ok { items, source }) := by
  have hopen := openQuote_mem_iff hnames source
  rcases Nat.lt_or_ge maxLength (Utf8.size source) with hlong | hshort
  · exact .inl ⟨hlong, by rw [compile, if_pos hlong]⟩
  · refine .inr ⟨hshort, ?_⟩
    rw [compile_of_size_le hshort]
    rcases assemble_cases 0 0 (finds words source) with ⟨hmem, heq⟩ | ⟨hmem, items, heq⟩
    · exact .inl ⟨hopen.1 hmem, by rw [heq]; rfl⟩
    · have heven := Nat.mod_two_ne_one.1 fun hodd => hmem (hopen.2 hodd)
      exact .inr ⟨heven, items, heq, by rw [heq]; rfl⟩

/-- Any text is gone through safely. -/
theorem isScanned (words : Vocabulary V S) (source : Text) : IsScanned words source where
  completes := completes_rounds words source
  cut round hround := by
    obtain ⟨front, heq⟩ := suffix_of_mem_rounds hround
    have hoffset : Utf8.size source - Utf8.size round.2 = Utf8.size front := by
      rw [← heq, Utf8.size_append, Nat.add_sub_cancel]
    rw [hoffset, ← heq]
    exact Utf8.dropBytes?_append front round.2
  advance := pairwise_rounds words source
  compile_eq := compile_of_size_le

/-- Over a vocabulary, in which no name is empty, and with names that hold no quote, format texts
are read from the first character to the last one, whatever they hold: a text is refused if it is
too long or if a quote stays open, and what is read from any other is limited. -/
theorem reads_safely (words : Vocabulary V S) (hnames : ∀ v ∈ words.known, '"' ∉ words.name v)
    (source : Text) : ReadsSafely words source := by
  have hscanned := isScanned words source
  rcases compile_cases hnames source with
    ⟨hlong, heq⟩ | ⟨hshort, ⟨hodd, heq⟩ | ⟨heven, items, hitems, heq⟩⟩
  · have hnot {p : Prop} : ¬(Utf8.size source ≤ maxLength ∧ p) := fun h =>
      Nat.not_lt_of_le h.1 hlong
    exact { hscanned with
      outOfRange_iff := ⟨fun _ => hlong, fun _ => ⟨_, _, _, _, heq⟩⟩
      invalidParameter_iff := iff_of_false (fun ⟨_, h⟩ => nomatch heq.symm.trans h) hnot
      ok_iff := iff_of_false (fun ⟨_, h⟩ => nomatch heq.symm.trans h) hnot
      of_ok := fun _ h => nomatch heq.symm.trans h }
  · have hnot : ¬(Utf8.size source ≤ maxLength ∧ source.count '"' % 2 = 0) := by omega
    exact { hscanned with
      outOfRange_iff := iff_of_false (fun ⟨_, _, _, _, h⟩ => nomatch heq.symm.trans h)
        (Nat.not_lt_of_le hshort)
      invalidParameter_iff := ⟨fun _ => ⟨hshort, hodd⟩, fun _ => ⟨_, heq⟩⟩
      ok_iff := iff_of_false (fun ⟨_, h⟩ => nomatch heq.symm.trans h) hnot
      of_ok := fun _ h => nomatch heq.symm.trans h }
  · have hnot : ¬(Utf8.size source ≤ maxLength ∧ source.count '"' % 2 = 1) := by omega
    exact { hscanned with
      outOfRange_iff := iff_of_false (fun ⟨_, _, _, _, h⟩ => nomatch heq.symm.trans h)
        (Nat.not_lt_of_le hshort)
      invalidParameter_iff := iff_of_false (fun ⟨_, h⟩ => nomatch heq.symm.trans h) hnot
      ok_iff := ⟨fun _ => ⟨hshort, heven⟩, fun _ => ⟨_, heq⟩⟩
      of_ok := fun format h => by
        obtain rfl := Except.ok.inj (heq.symm.trans h)
        exact ⟨rfl, item_isBounded_of_assemble (fun _ => isBounded_of_mem_finds)
          (Nat.zero_le _) (Nat.zero_le _) hitems⟩ }

/-- Accents, a width of many digits, a point of another variable and an open quote. -/
theorem reads_safely_accents :
    (∀ v ∈ BusBarometer.vocabulary.known, '"' ∉ BusBarometer.vocabulary.name v) ∧
      ReadsSafely BusBarometer.vocabulary "é\"äß\"98765432109876543210.5Pü\"€".toList ∧
      finds BusBarometer.vocabulary "é\"äß\"98765432109876543210.5Pü\"€".toList =
        [.nothing, .item (.literal "äß".toList), .size maxLength 5, .name .pressure, .nothing,
          .openQuote] :=
  have hnames : ∀ v ∈ BusBarometer.vocabulary.known, '"' ∉ BusBarometer.vocabulary.name v := by
    decide
  ⟨hnames, reads_safely BusBarometer.vocabulary hnames _, by decide +kernel⟩

/-- A vocabulary of one variable, whose name holds a quote. -/
def quotedName : Vocabulary Unit Unit where
  known := [()]
  name _ := ['P', '"']
  value _ _ := .missing
  unit _ _ := none
  fallbackUnit _ := []
  name_ne_nil := by decide

/-- A name with a quote takes the quote from what stands behind it, so that a text with one quote is
read to its end. Over a table with an empty name a reader does not come to the end of a single
letter, which starts no other name: it finds the empty name again and again. -/
theorem reads_unsafely :
    (['P', '"'].count '"' % 2 = 1 ∧
      compile quotedName ['P', '"'] = .ok ⟨[.quantity () 0 0], ['P', '"']⟩) ∧
    ∀ rounds, ¬Completes [([], ())] ['A'] rounds := by
  refine ⟨⟨by decide, by decide +kernel⟩, fun rounds => ?_⟩
  have hfind : find [([], ())] 'A' [] = (.name (), ['A']) := by decide
  induction rounds with
  | nil => exact nofun
  | cons round later ih =>
    intro h
    cases h with
    | round tail =>
      rw [hfind] at tail
      exact ih tail

end Format

end WeatherBus
