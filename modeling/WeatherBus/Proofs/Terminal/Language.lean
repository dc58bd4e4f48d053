import WeatherBus.Proofs.Keyword
import WeatherBus.Proofs.Terminal.Line

/-! # Lines of an operator

An operator takes turns with the instruments on a line by seven words. Every instrument with a
terminal understands them, and whatever is written behind them.

* **`Terminal.LineKeyword`**, **`Terminal.LineCommand`** — the words and what they make an
  instrument do;
* **`Terminal.OperatorLine`** — a line with one of the words, and with any parameters;
* **`Terminal.read_frame`** — the command of such a line. -/

namespace WeatherBus

namespace Terminal

/-! ## Words and commands -/

/-- The words for starting and stopping the output, and for opening and closing the line. -/
inductive LineKeyword where
  | run
  | stop
  | send
  | mode
  | openLine
  | closeLine
  | restart
deriving DecidableEq, Repr

/-- The commands that go with these words. -/
inductive LineCommand where
  | run
  | stop
  | send (callee : Option Int)
  | mode (setting : Setting SerialMode)
  | openLine (callee : Int)
  | closeLine
  | restart
deriving DecidableEq, Repr

/-- The command as one of an instrument. -/
def LineCommand.toCommand {X : Type} : LineCommand → Command X
  | run => .run
  | stop => .stop
  | send callee => .send callee
  | mode setting => .mode setting
  | openLine callee => .openLine callee
  | closeLine => .closeLine
  | restart => .restart

namespace LineKeyword

/-- How a word is written. -/
def label : LineKeyword → Text
  | run => ['R']
  | stop => ['S']
  | send => "SEND".toList
  | mode => "SMODE".toList
  | openLine => "OPEN".toList
  | closeLine => "CLOSE".toList
  | restart => "RESET".toList

/-- Every keyword has letters. -/
theorem label_ne_nil (keyword : LineKeyword) : keyword.label ≠ [] := by
  cases keyword <;> exact List.cons_ne_nil _ _

/-- Every keyword is a token. -/
theorem isToken_label (keyword : LineKeyword) : keyword.label.IsToken := by
  cases keyword <;> decide

/-- The command of a word and what is written behind it. An opening without an address, or with one
that cannot be read, is for the given address. -/
def command (missing : Int) (tail : Text) : LineKeyword → LineCommand
  | run => .run
  | stop => .stop
  | send => .send (Parameter.word? (Command.params tail) 0)
  | mode => .mode (Command.setting (fun params => params.head?.bind SerialMode.ofLabel?) tail)
  | openLine => .openLine ((Parameter.word? (Command.params tail) 0).getD missing)
  | closeLine => .closeLine
  | restart => .restart

/-- Blanks at the end of a line do not matter. -/
theorem command_trimEnd (missing : Int) (tail : Text) (keyword : LineKeyword) :
    keyword.command missing (Text.trimEnd tail) = keyword.command missing tail := by
  have hparams : Command.params (Text.trimEnd tail) = Command.params tail := by
    rw [Command.params, Command.params, Parameter.split, Parameter.split, Text.trim_trimEnd]
  cases keyword <;> simp only [command, Command.setting, hparams]

/-- The words are the same for all kinds of instruments. -/
theorem find?_keywords {X : Type} (rule : Command.AddressRule) (keyword : LineKeyword) :
    (Command.keywords rule : List (Text × (Text → Command X))).find?
        (fun entry => Text.alike entry.1 keyword.label) =
      some (keyword.label, fun tail => (keyword.command rule.missing tail).toCommand) := by
  cases keyword <;> rfl

end LineKeyword

/-! ## Lines -/

/-- A line with one of the seven words in letters of either case, blanks in front of it, and any
text behind it that does not make it a longer word. -/
structure OperatorLine where
  margin : Text
  keyword : LineKeyword
  word : Text
  tail : Text
  isBlank_margin : ∀ c ∈ margin, Text.isBlank c = true
  alike_word : Text.alike word keyword.label = true
  endsWord_tail : ∀ c ∈ tail.head?, Text.isBlank c = true ∨ c = '?' ∨ c = '='

namespace OperatorLine

variable (line : OperatorLine)

/-- The line as it is sent. -/
def frame : Bytes := Utf8.encode (line.margin ++ (line.word ++ line.tail))

/-- The command of a line. -/
def command (missing : Int) : LineCommand := line.keyword.command missing line.tail

/-- An opening without an address, or with one that is no number. -/
def CallsNobody : Prop :=
  line.keyword = .openLine ∧ Parameter.word? (Command.params line.tail) 0 = none

instance : Decidable line.CallsNobody := inferInstanceAs (Decidable (_ ∧ _))

/-- The address that stands for a missing one only matters if it is missing. -/
theorem command_eq (h : ¬ line.CallsNobody) (missing missing' : Int) :
    line.command missing = line.command missing' := by
  rw [command, command]
  cases hkeyword : line.keyword with
  | openLine =>
    cases hcallee : Parameter.word? (Command.params line.tail) 0 with
    | none => exact absurd ⟨hkeyword, hcallee⟩ h
    | some callee => simp only [LineKeyword.command, hcallee, Option.getD_some]
  | run => rfl
  | stop => rfl
  | send => rfl
  | mode => rfl
  | closeLine => rfl
  | restart => rfl

/-- An opening without an address stands for the one that is missing. -/
theorem command_of_callsNobody (h : line.CallsNobody) (missing : Int) :
    line.command missing = .openLine missing := by
  rw [command, h.1, LineKeyword.command, h.2, Option.getD_none]

/-- A word alone. -/
def bare (keyword : LineKeyword) : OperatorLine where
  margin := []
  keyword := keyword
  word := keyword.label
  tail := []
  isBlank_margin := List.forall_mem_nil _
  alike_word := Text.alike_iff.2 rfl
  endsWord_tail c hc := absurd hc (by simp)

/-- A word and its parameters behind a blank. -/
def plain (keyword : LineKeyword) (params : Text) : OperatorLine where
  margin := []
  keyword := keyword
  word := keyword.label
  tail := ' ' :: params
  isBlank_margin := List.forall_mem_nil _
  alike_word := Text.alike_iff.2 rfl
  endsWord_tail c hc := by
    obtain rfl : ' ' = c := Option.some.inj hc
    exact .inl rfl

/-- The word of a line is a token. -/
theorem isToken_word : line.word.IsToken := line.keyword.isToken_label.of_alike line.alike_word

/-- It is a word. -/
theorem isWord_word : line.word.IsWord :=
  line.keyword.isToken_label.isWord_of_alike line.keyword.label_ne_nil line.alike_word

end OperatorLine

/-! ## Reading -/

section Kind

variable {V S R X : Type} {kind : Kind V S R X}

/-- A table whose keywords are tokens is plain. -/
theorem isPlain_table (hkeywords : ∀ entry ∈ kind.keywords, entry.1.IsToken) :
    kind.table.IsPlain where
  boundaries_eq := rfl
  isToken := by
    have hcommon : ∀ entry ∈ (Command.keywords kind.addressRule :
        List (Text × (Text → Command X))), entry.1.IsToken ∨ entry.1.length ≤ 1 := by
      have hlabels : ∀ label ∈ (Command.keywords kind.addressRule :
          List (Text × (Text → Command X))).map Prod.fst,
          label.IsToken ∨ label.length ≤ 1 := by
        simp only [Command.keywords, List.map_cons, List.map_nil]
        decide
      exact fun entry hentry => hlabels entry.1 (List.mem_map_of_mem hentry)
    intro entry hentry
    rcases List.mem_append.1 hentry with hmem | hmem
    · exact hcommon entry hmem
    · obtain ⟨own, hown, rfl⟩ := List.mem_map.1 hmem
      exact .inl (hkeywords own hown)

/-- The command of a line, whatever other words a kind has. -/
theorem commandOf_line (hkeywords : ∀ entry ∈ kind.keywords, entry.1.IsToken)
    (line : OperatorLine) :
    kind.commandOf (line.word ++ Text.trimEnd line.tail) =
      (line.command kind.addressRule.missing).toCommand := by
  have hends : kind.table.endsWord (Text.trimEnd line.tail) = true := by
    obtain ⟨blanks, -, htail⟩ := Text.exists_eq_trimEnd_append line.tail
    cases hend : Text.trimEnd line.tail with
    | nil => rfl
    | cons c rest =>
      have hc := line.endsWord_tail c (by rw [htail, hend]; rfl)
      rw [Keyword.Table.endsWord, Bool.or_eq_true, Bool.or_eq_true, Bool.or_eq_true, beq_iff_eq,
        beq_iff_eq]
      exact .inl (or_assoc.2 hc)
  have halike (entry : Text × (Text → Command X)) :
      Text.alike entry.1 line.word = Text.alike entry.1 line.keyword.label := by
    rw [Text.alike, Text.alike, Text.alike_iff.1 line.alike_word]
  have hfound : kind.table.lookup (line.word ++ Text.trimEnd line.tail) =
      some (fun tail => (line.keyword.command kind.addressRule.missing tail).toCommand,
        Text.trimEnd line.tail) := by
    rw [(isPlain_table hkeywords).lookup_eq_find? line.isWord_word.ne_nil line.isToken_word hends]
    simp only [halike, Kind.table, List.find?_append, LineKeyword.find?_keywords, Option.some_or,
      Option.map_some]
  rw [Kind.commandOf, hfound]
  exact congrArg LineCommand.toCommand (LineKeyword.command_trimEnd _ _ _)

/-- The request of a line. -/
theorem read_frame (hkeywords : ∀ entry ∈ kind.keywords, entry.1.IsToken) (line : OperatorLine) :
    kind.read line.frame = .ok {
      target := .all
      checksum := .absent
      command := (line.command kind.addressRule.missing).toCommand
      text := line.word ++ Text.trimEnd line.tail } := by
  have htrim : Text.trim (line.margin ++ (line.word ++ line.tail)) =
      line.word ++ Text.trimEnd line.tail :=
    line.isWord_word.trim_append line.isBlank_margin line.tail
  have hne : (line.word ++ Text.trimEnd line.tail).isEmpty = false := by
    rw [List.isEmpty_eq_false_iff]
    exact List.append_ne_nil_of_left_ne_nil line.isWord_word.ne_nil _
  simp only [Kind.read, OperatorLine.frame, Utf8.decode?_encode, htrim, hne, Bool.false_eq_true,
    if_false, commandOf_line hkeywords]

end Kind

end Terminal

end WeatherBus
