import WeatherBus.Proofs.BusBarometer.Checksum
import WeatherBus.Proofs.Keyword
import WeatherBus.Proofs.Number.Written

/-! # Lines with a command

A line starts with the address of a barometer, or it is for all of them. The rest of it is a
command, which may be followed by the checksum of all that is in front.

* **`BusBarometer.WritesAddress`** — the digits of an address;
* **`BusBarometer.Command.IsSumField`** — what may follow the `*` of a line;
* **`BusBarometer.Command.read_plain`**, **`BusBarometer.Command.read_checked`** — how a line with
  an address is read, without a checksum or with the right one;
* **`BusBarometer.Command.ofText_append`** — how a command is read from its letter and what follows
  it;
* **`BusBarometer.Front`** — what stands in front of a command; `Front.read_plain` and
  `Front.read_checked` put all of this together. -/

namespace WeatherBus

namespace BusBarometer

variable {digits line field word tail : Text} {a : Nat}

/-! ## Addresses -/

/-- Digits that write an address. -/
structure WritesAddress (digits : Text) (a : Nat) : Prop where
  ne_nil : digits ≠ []
  isDigit : ∀ c ∈ digits, c.isDigit = true
  word32?_eq : Numeral.word32? digits = some a

/-- An address is written by its digits, with any number of zeros in front. -/
theorem writesAddress_zeroPadded (width : Nat) (ha : a ≤ maxAddress) :
    WritesAddress (Numeral.zeroPadded width a) a where
  ne_nil := List.append_ne_nil_of_right_ne_nil _ (Numeral.ofNat_ne_nil a)
  isDigit _ := Numeral.isDigit_of_mem_zeroPadded
  word32?_eq := Numeral.unsigned?_of_natural? (Numeral.natural?_zeroPadded width a)
    (Nat.lt_of_le_of_lt ha (by decide))

namespace WritesAddress

/-- An address is written without blanks and separators. -/
theorem isToken (h : WritesAddress digits a) : digits.IsToken := by
  intro c hc
  rw [Text.isTokenChar, Char.isAlphanum, h.isDigit c hc, Bool.or_true, Bool.true_or, Bool.true_or]

/-- It is a word. -/
theorem isWord (h : WritesAddress digits a) : digits.IsWord := h.isToken.isWord h.ne_nil

/-- It has no star. -/
theorem notMem_star (h : WritesAddress digits a) : '*' ∉ digits := fun hmem =>
  absurd (h.isToken '*' hmem) (by decide)

/-- Only blanks at the end of a line with an address are taken off. -/
theorem trim_append (h : WritesAddress digits a) (line : Text) :
    Text.trim (digits ++ ':' :: line) = digits ++ ':' :: Text.trimEnd line := by
  have hcolon : Text.isBlank ':' = false := by decide
  have hword : Text.IsWord (digits ++ [':']) :=
    ⟨List.append_ne_nil_of_left_ne_nil h.ne_nil _,
      List.forall_mem_append.2 ⟨h.isWord.notBlank, List.forall_mem_singleton.2 hcolon⟩⟩
  have happend : Text.trim ([] ++ (digits ++ [':'] ++ line)) =
      digits ++ [':'] ++ Text.trimEnd line := hword.trim_append (List.forall_mem_nil _) line
  rwa [List.nil_append, List.append_assoc, List.append_assoc, List.singleton_append,
    List.singleton_append] at happend

end WritesAddress

namespace Command

/-! ## Lines -/

section Lines

variable {text body rest : Text} {address : Option Nat} {target : Target}

/-- How a line without a checksum is read. -/
theorem read_of_notMem_star (htrim : Text.trim line = text) (hstar : '*' ∉ text)
    (hsplit : Line.splitAddress text = .ok (address, rest))
    (htarget : targetOf address = .ok target) :
    read (Utf8.encode line) = .ok ⟨target, .absent, ofText rest, text⟩ := by
  rw [read, Utf8.decode?_encode]
  simp only [htrim, Line.splitChecksum_of_notMem hstar, status, bind, Except.bind, hsplit, htarget]
  rfl

/-- What may stand behind the `*` of a line for a checksum: one or two digits, and blanks around
them. -/
structure IsSumField (field : Text) (sum : Nat) : Prop where
  notMem_star : '*' ∉ field
  hexField?_eq : Numeral.hexField? 2 field = some sum

/-- Blanks behind the digits do not matter. -/
theorem IsSumField.trimEnd {sum : Nat} (h : IsSumField field sum) :
    IsSumField (Text.trimEnd field) sum where
  notMem_star hmem := by
    obtain ⟨blanks, -, heq⟩ := Text.exists_eq_trimEnd_append field
    exact h.notMem_star (heq ▸ List.mem_append_left blanks hmem)
  hexField?_eq := by
    have hfield := h.hexField?_eq
    rw [Numeral.hexField?] at hfield ⊢
    rwa [Text.trim_trimEnd]

/-- A line that starts with a word and ends with a checksum has blanks at its end only. -/
theorem trim_summed_of_isWord (h : word.IsWord) (tail field : Text) :
    Text.trim (summed (word ++ tail) field) = summed (word ++ tail) (Text.trimEnd field) := by
  have hstar : Text.isBlank '*' = false := by decide
  rw [Text.trim, summed, List.append_assoc, h.trimStart_append, ← List.append_assoc]
  exact Text.trimEnd_append_cons hstar _ field

/-- How a line with the right checksum is read. -/
theorem read_of_isSumField (htrim : Text.trim line = summed body field)
    (hsum : IsSumField field (Checksum.xor (Utf8.encode body)).toNat)
    (hsplit : Line.splitAddress body = .ok (address, rest))
    (htarget : targetOf address = .ok target) :
    read (Utf8.encode line) = .ok ⟨target, .valid, ofText rest, summed body field⟩ := by
  have hvalid := ChecksumStatus.compare_eq_valid_iff.2
    (Eq.refl (Checksum.xor (Utf8.encode body)).toNat)
  rw [read, Utf8.decode?_encode]
  simp only [htrim, splitChecksum_summed hsum.notMem_star, status, hsum.hexField?_eq, hvalid, bind,
    Except.bind, hsplit, htarget]
  rfl

/-- Blanks in front of a line do not matter. -/
theorem read_append_of_isBlank {margin : Text} (h : ∀ c ∈ margin, Text.isBlank c = true)
    (line : Text) : read (Utf8.encode (margin ++ line)) = read (Utf8.encode line) := by
  have htrim : Text.trim (margin ++ line) = Text.trim line := by
    rw [Text.trim, Text.trimStart_append_of_isBlank h, Text.trim]
  rw [read, read, Utf8.decode?_encode, Utf8.decode?_encode]
  simp only [htrim]

/-- An address that there can be is the target of a line with it. -/
theorem targetOf_some (ha : a ≤ maxAddress) : targetOf (some a) = .ok (.address a) := if_pos ha

/-- A line with an address and without a checksum is for the barometer there. -/
theorem read_plain (h : WritesAddress digits a) (ha : a ≤ maxAddress) (hstar : '*' ∉ line) :
    read (Utf8.encode (digits ++ ':' :: line)) =
      .ok ⟨.address a, .absent, ofText (Text.trimEnd line),
        digits ++ ':' :: Text.trimEnd line⟩ := by
  have hnone : '*' ∉ digits ++ ':' :: Text.trimEnd line := by
    obtain ⟨blanks, -, heq⟩ := Text.exists_eq_trimEnd_append line
    rw [heq, List.mem_append, not_or] at hstar
    rw [List.mem_append, List.mem_cons, not_or, not_or]
    exact ⟨h.notMem_star, by decide, hstar.1⟩
  exact read_of_notMem_star (h.trim_append line) hnone
    (Line.splitAddress_append h.ne_nil h.isDigit h.word32?_eq _) (targetOf_some ha)

/-- So it is with the right checksum at its end. -/
theorem read_checked (h : WritesAddress digits a) (ha : a ≤ maxAddress)
    (hsum : IsSumField field (Checksum.xor (Utf8.encode (digits ++ ':' :: line))).toNat) :
    read (Utf8.encode (summed (digits ++ ':' :: line) field)) = .ok ⟨.address a, .valid,
      ofText line, summed (digits ++ ':' :: line) (Text.trimEnd field)⟩ := by
  exact read_of_isSumField (trim_summed_of_isWord h.isWord _ field) hsum.trimEnd
    (Line.splitAddress_append h.ne_nil h.isDigit h.word32?_eq line) (targetOf_some ha)

end Lines

/-! ## Commands -/

/-- No letter starts another one. -/
theorem discrete_letters : letters.Discrete := ⟨by decide, by decide⟩

/-- Blanks in front of a command do not matter. -/
theorem ofText_of_trimStart_eq {s t : Text} (h : Text.trimStart s = Text.trimStart t) :
    ofText s = ofText t := by
  have htrim : Text.trim s = Text.trim t := by rw [Text.trim, h, Text.trim]
  rw [ofText, ofText, Keyword.Table.lookup, Keyword.Table.lookup, h, htrim]

section Letters

variable {letter : Char} {command : List Text → Command} {blanks : Text}

/-- A command is read from its letter and what follows it. -/
theorem ofText_append (h : letters.entries.lookup [letter] = some command)
    (hblanks : ∀ c ∈ blanks, Text.isBlank c = true) (hw : Text.alike word [letter] = true)
    (htail : letters.endsWord tail = true) :
    ofText (blanks ++ (word ++ tail)) = command (Parameter.split ',' tail) := by
  rw [ofText_of_trimStart_eq (Text.trimStart_append_of_isBlank hblanks _), ofText,
    discrete_letters.lookup_eq h hw htail]

/-- Blanks behind its parameters do not matter. -/
theorem ofText_trimEnd_append (h : letters.entries.lookup [letter] = some command)
    (hblanks : ∀ c ∈ blanks, Text.isBlank c = true) (hw : Text.alike word [letter] = true)
    (htail : letters.endsWord tail = true) :
    ofText (Text.trimEnd (blanks ++ (word ++ tail))) = command (Parameter.split ',' tail) := by
  have hword := (discrete_letters.isToken_of_alike h hw).1
  have hsame : ofText (Text.trimEnd (blanks ++ (word ++ tail))) =
      ofText (word ++ Text.trimEnd tail) := by
    refine ofText_of_trimStart_eq ?_
    rw [Text.trimStart_trimEnd, hword.trim_append hblanks, hword.trimStart_append]
  have hends : letters.endsWord (Text.trimEnd tail) = true := by
    obtain ⟨behind, -, heq⟩ := Text.exists_eq_trimEnd_append tail
    rw [heq] at htail
    exact Keyword.Table.endsWord_of_append htail
  have hsplit : Parameter.split ',' (Text.trimEnd tail) = Parameter.split ',' tail := by
    rw [Parameter.split, Parameter.split, Text.trim_trimEnd]
  rw [hsame, ← hsplit]
  exact ofText_append h (List.forall_mem_nil _) hw hends

end Letters

end Command

/-! ## What stands in front of a command -/

/-- What stands in front of a command says for whom it is. It is for one barometer if it is an
address, behind whose colon there may be blanks, and for all of them if it is nothing. -/
inductive Front : Text → Target → Prop where
  | address {digits blanks : Text} {a : Nat} (h : WritesAddress digits a) (ha : a ≤ maxAddress)
      (hblanks : ∀ c ∈ blanks, Text.isBlank c = true) :
      Front (digits ++ ':' :: blanks) (.address a)
  | nothing : Front [] .all

namespace Front

variable {letter : Char} {command : List Text → Command} {front : Text} {target : Target}

/-- No letter is a digit, so a line that starts with one has no address. -/
theorem splitAddress_letter (h : Command.letters.entries.lookup [letter] = some command)
    (hw : Text.alike word [letter] = true) (tail : Text) :
    Line.splitAddress (word ++ tail) = .ok (none, word ++ tail) := by
  have hletters : ∀ keyword ∈ Command.letters.entries.map Prod.fst,
      keyword.any Char.isDigit = false := by decide
  have hnone := List.any_eq_false.1
    (hletters _ (List.mem_map_of_mem (Keyword.Table.Discrete.mem_entries h)))
  have hdigit : ∀ c ∈ word, c.isDigit = false :=
    Text.forall_of_alike (p := fun c => c.isDigit = false) (fun c => by rw [Text.isDigit_toUpper])
      hw fun c hc => Bool.eq_false_iff.2 (hnone c hc)
  obtain ⟨c, others, rfl⟩ := List.exists_cons_of_ne_nil
    (Command.discrete_letters.isToken_of_alike h hw).1.ne_nil
  exact Line.splitAddress_cons (hdigit c List.mem_cons_self) _

/-- How a line without a checksum is read. -/
theorem read_plain (hfront : Front front target)
    (h : Command.letters.entries.lookup [letter] = some command)
    (hw : Text.alike word [letter] = true) (htail : Command.letters.endsWord tail = true)
    (hstar : '*' ∉ tail) :
    ∃ text, Command.read (Utf8.encode (front ++ (word ++ tail))) =
      .ok ⟨target, .absent, command (Parameter.split ',' tail), text⟩ := by
  obtain ⟨hword, htoken⟩ := Command.discrete_letters.isToken_of_alike h hw
  have hstarWord : '*' ∉ word := fun hmem => absurd (htoken '*' hmem) (by decide)
  cases hfront with
  | @address digits blanks a hdigits ha hblanks =>
    have hstarLine : '*' ∉ blanks ++ (word ++ tail) := by
      rw [List.mem_append, List.mem_append, not_or, not_or]
      exact ⟨fun hmem => absurd (hblanks '*' hmem) (by decide), hstarWord, hstar⟩
    rw [List.append_assoc, List.cons_append, Command.read_plain hdigits ha hstarLine,
      Command.ofText_trimEnd_append h hblanks hw htail]
    exact ⟨_, rfl⟩
  | nothing =>
    -- The command is the whole line, so the blanks behind it are those of the line.
    have htrim : Text.trim (word ++ tail) = word ++ Text.trimEnd tail :=
      hword.trim_append (List.forall_mem_nil _) tail
    have hstarText : '*' ∉ word ++ Text.trimEnd tail := by
      rw [← htrim]
      intro hmem
      rcases List.mem_append.1 (Text.trim_subset _ hmem) with hmem | hmem
      · exact hstarWord hmem
      · exact hstar hmem
    have hcommand := Command.ofText_trimEnd_append h (List.forall_mem_nil _) hw htail
    rw [List.nil_append, hword.trimEnd_append] at hcommand
    rw [List.nil_append, Command.read_of_notMem_star htrim hstarText
      (splitAddress_letter h hw _) rfl, hcommand]
    exact ⟨_, rfl⟩

/-- How a line with the right checksum is read. -/
theorem read_checked (hfront : Front front target)
    (h : Command.letters.entries.lookup [letter] = some command)
    (hw : Text.alike word [letter] = true) (htail : Command.letters.endsWord tail = true)
    (hsum : Command.IsSumField field
      (Checksum.xor (Utf8.encode (front ++ (word ++ tail)))).toNat) :
    ∃ text, Command.read (Utf8.encode (Command.summed (front ++ (word ++ tail)) field)) =
      .ok ⟨target, .valid, command (Parameter.split ',' tail), text⟩ := by
  cases hfront with
  | @address digits blanks a hdigits ha hblanks =>
    rw [List.append_assoc, List.cons_append] at hsum ⊢
    rw [Command.read_checked hdigits ha hsum, Command.ofText_append h hblanks hw htail]
    exact ⟨_, rfl⟩
  | nothing =>
    have hword := (Command.discrete_letters.isToken_of_alike h hw).1
    have hcommand := Command.ofText_append h (List.forall_mem_nil _) hw htail
    rw [List.nil_append] at hsum hcommand ⊢
    rw [Command.read_of_isSumField (Command.trim_summed_of_isWord hword tail field) hsum.trimEnd
      (splitAddress_letter h hw tail) rfl, hcommand]
    exact ⟨_, rfl⟩

end Front

end BusBarometer

end WeatherBus
