import WeatherBus.Format.Basic
import WeatherBus.Fault
import WeatherBus.Keyword

/-! # The language of output formats

A format text is read from left to right; at each place the first rule that applies is taken:

1. digits, with an optional point and further digits, set width and precision of the next variable;
2. text in double quotes is copied, up to 64 bytes of it;
3. `\` or `#` and `T`, `R`, `N` or `RN` write a tab, CR, LF, or CR LF;
4. `U` writes the unit of the variable in front of it, in as many characters as a digit behind says;
5. `CS2`, `CS4` and `CSX` write a checksum of the output so far;
6. the longest name of a variable writes its value;
7. everything else is skipped.

* **`Format.compile`** — the items of a format text;
* **`Format.print`** — the text that writes a list of items in this language. -/

namespace WeatherBus

namespace Format

/-- The longest format text in bytes. -/
def maxLength : Nat := 256

/-- The longest literal in bytes. -/
def maxLiteral : Nat := 64

/-- The checksums by their names. -/
def checks : List (Text × Check) :=
  [("CS2".toList, .xor), ("CS4".toList, .crc), ("CSX".toList, .sum)]

/-! ## Reading -/

/-- The number of a run of digits, cut to the largest width. -/
def limited (digits : Text) : Nat := min ((Numeral.natural? 10 digits).getD 0) maxLength

/-- The decimals behind a point, if a digit follows the point, and the rest of the text. -/
def decimals : Text → Nat × Text
  | '.' :: d :: t =>
    if d.isDigit then (limited (d :: t.takeWhile Char.isDigit), t.dropWhile Char.isDigit)
    else (0, '.' :: d :: t)
  | t => (0, t)

/-- Reading decimals does not make a text longer. -/
theorem length_decimals_le (t : Text) : (decimals t).2.length ≤ t.length := by
  unfold decimals
  split
  · split
    · have := (List.dropWhile_sublist Char.isDigit (l := ‹List Char›)).length_le
      simp only [List.length_cons]
      omega
    · exact Nat.le_refl _
  · exact Nat.le_refl _

/-- The longest word of a table that a text starts with. Of words of the same length the last one
counts. -/
def leading? {κ : Type} (table : List (Text × κ)) (t : Text) : Option (κ × Text) :=
  Keyword.longest? (fun _ => true) table.reverse t

/-- Something of the text is taken, if no word of the table is empty. -/
theorem length_of_leading? {κ : Type} {table : List (Text × κ)} {t rest : Text} {kind : κ}
    (htable : ∀ entry ∈ table, entry.1 ≠ []) (h : leading? table t = some (kind, rest)) :
    rest.length < t.length := by
  obtain ⟨word, hmem, hdrop, -⟩ := Keyword.exists_dropWord?_of_longest? h
  obtain ⟨front, rfl, hfront⟩ := Text.dropWord?_eq_some_iff.1 hdrop
  have hword : 0 < word.length := List.length_pos_iff.2 (htable _ (List.mem_reverse.1 hmem))
  have hlength : front.length = word.length := by
    simpa [Text.upper] using congrArg List.length hfront
  rw [List.length_append]
  omega

/-- The characters that are written for what follows a `\` or `#`. -/
def escapes : List (Text × Text) :=
  [(['R', 'N'], ['\r', '\n']), (['T'], ['\t']), (['R'], ['\r']), (['N'], ['\n'])]

/-- Every escape has letters. -/
theorem ne_nil_of_mem_escapes : ∀ entry ∈ escapes, entry.1 ≠ [] := by decide

/-- Every name of a checksum has letters. -/
theorem ne_nil_of_mem_checks : ∀ entry ∈ checks, entry.1 ≠ [] := by decide

/-- The width behind `U`, 0 without a digit, and the rest of the text. -/
def unitWidth : Text → Nat × Text
  | d :: t => if d.isDigit then (limited [d], t) else (0, d :: t)
  | [] => (0, [])

/-- Reading the width behind `U` does not make a text longer. -/
theorem length_unitWidth_le (t : Text) : (unitWidth t).2.length ≤ t.length := by
  unfold unitWidth
  split
  · split
    · exact Nat.le_succ _
    · exact Nat.le_refl _
  · exact Nat.le_refl _

/-- What stands at a place of a format text. -/
inductive Found (V : Type) where
  /-- Width and precision of the next variable. -/
  | size (width precision : Nat)
  /-- An item that is complete. -/
  | item (item : Item V)
  /-- The name of a variable. -/
  | name (name : V)
  /-- A character that is skipped. -/
  | nothing
  /-- A quote without a closing one. -/
  | openQuote
deriving DecidableEq, Repr

/-- What stands at the front of the text `c :: t`, and the rest of the text. -/
def find {V : Type} (names : List (Text × V)) (c : Char) (t : Text) : Found V × Text :=
  if c.isDigit then
    let (precision, rest) := decimals (t.dropWhile Char.isDigit)
    (.size (limited (c :: t.takeWhile Char.isDigit)) precision, rest)
  else if c = '"' then
    match t.dropWhile (· ≠ '"') with
    | _ :: rest => (.item (.literal (Utf8.takeBytes maxLiteral (t.takeWhile (· ≠ '"')))), rest)
    | [] => (.openQuote, [])
  else if c = '\\' || c = '#' then
    match leading? escapes t with
    | some (text, rest) => (.item (.literal text), rest)
    | none => (.nothing, t)
  else if c.toUpper = 'U' then
    let (width, rest) := unitWidth t
    (.item (.unit width), rest)
  else if c.isAlpha then
    match leading? checks (c :: t) with
    | some (check, rest) => (.item (.check check), rest)
    | none =>
      match leading? names (c :: t) with
      | some (name, rest) => (.name name, rest)
      | none => (.nothing, t)
  else (.nothing, t)

/-- At least the first character is taken, if no name is empty. An empty name takes nothing, and
stands in front of every letter that starts no other name. -/
theorem length_find_le {V : Type} {names : List (Text × V)} (hnames : ∀ entry ∈ names, entry.1 ≠ [])
    (c : Char) (t : Text) : (find names c t).2.length ≤ t.length := by
  unfold find
  split
  · have h₁ := length_decimals_le (t.dropWhile Char.isDigit)
    have h₂ := (List.dropWhile_sublist Char.isDigit (l := t)).length_le
    exact Nat.le_trans h₁ h₂
  split
  · split
    · rename_i rest h
      have := (List.dropWhile_sublist (fun x => decide (x ≠ '"')) (l := t)).length_le
      rw [h, List.length_cons] at this
      exact Nat.le_of_succ_le this
    · exact Nat.zero_le _
  split
  · split
    · rename_i h
      exact Nat.le_of_lt (length_of_leading? ne_nil_of_mem_escapes h)
    · exact Nat.le_refl _
  split
  · exact length_unitWidth_le t
  split
  · split
    · rename_i h
      exact Nat.le_of_lt_succ (length_of_leading? ne_nil_of_mem_checks h)
    · split
      · rename_i h
        exact Nat.le_of_lt_succ (length_of_leading? hnames h)
      · exact Nat.le_refl _
  · exact Nat.le_refl _

/-- The items of a text, with the width and the precision of the next variable so far. -/
def readItems {V S : Type} (words : Vocabulary V S) (width precision : Nat) :
    Text → Except Fault (List (Item V))
  | [] => .ok []
  | c :: t =>
    have := length_find_le words.ne_nil_of_mem_table c t
    match _found : find words.table c t with
    | (.size width precision, rest) => readItems words width precision rest
    | (.item item, rest) => (item :: ·) <$> readItems words width precision rest
    | (.name name, rest) => (.quantity name width precision :: ·) <$> readItems words 0 0 rest
    | (.nothing, rest) => readItems words width precision rest
    | (.openQuote, _) => .error (.invalidParameter "unterminated literal")
termination_by t => t.length
decreasing_by
  all_goals
    simp only [_found] at this
    exact Nat.lt_succ_of_le this

/-- The format that a text asks for. -/
def compile {V S : Type} (words : Vocabulary V S) (source : Text) : Except Fault (Format V) :=
  if maxLength < Utf8.size source then
    .error (.outOfWholeRange "format length" (Utf8.size source) 0 maxLength)
  else do
    let items ← readItems words 0 0 source
    return { items, source }

/-! ## Writing -/

/-- The digits of a width and a precision, and a blank behind them. Nothing is written for none. -/
def printSize (width precision : Nat) : Text :=
  if width = 0 && precision = 0 then []
  else Numeral.ofNat width ++ '.' :: Numeral.ofNat precision ++ [' ']

/-- How an item is asked for. -/
def Item.print {V S : Type} (words : Vocabulary V S) : Item V → Text
  | .literal text => '"' :: text ++ ['"']
  | .quantity name width precision => printSize width precision ++ words.name name
  | .unit width => 'U' :: (if width = 0 then [] else Numeral.ofNat width)
  | .check .xor => "CS2".toList
  | .check .crc => "CS4".toList
  | .check .sum => "CSX".toList

/-- How a list of items is asked for, with single blanks between them. -/
def print {V S : Type} (words : Vocabulary V S) (items : List (Item V)) : Text :=
  List.intercalate [' '] (items.map (Item.print words))

end Format

end WeatherBus
