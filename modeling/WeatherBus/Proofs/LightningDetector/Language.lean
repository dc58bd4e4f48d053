import WeatherBus.LightningDetector.Basic
import WeatherBus.Proofs.Frame.Style
import WeatherBus.Proofs.Keyword
import WeatherBus.Proofs.Number.Written

/-! # The commands of the lightning detector as text

* **`Command.IsWritten`** — the texts that write a command: its keyword alone, or with a parameter;
* **`Command.ofText_trim`** — the command is read back from each of them;
* **`read_frame`** — and so is the request from the block of such a text. -/

namespace WeatherBus

namespace LightningDetector

namespace Command

/-! ## How commands are written -/

/-- What a keyword without parameter stands for. -/
def bare : List Command :=
  [status, mode none, interval 0, poll, message [], range none, squelch 0, reset, identify]

/-- The parameter of a command as it is written. Words are in letters of either case. -/
inductive Takes : Command → Text → Prop where
  | mode {m : OutputMode} {word : Text} (h : Text.alike word (modeWord m) = true) :
      Takes (mode (some m)) word
  | unknownMode {word : Text} (hw : word.IsWord) (hp : word.IsPlain)
      (h : ∀ m, Text.alike word (modeWord m) = false) :
      Takes (mode none) word
  | interval {seconds : Int} (h : Numeral.IsWord seconds) :
      Takes (interval seconds) (Numeral.ofInt seconds)
  | message {text : Text} (h : Text.trim text = text) (hp : text.IsPlain) :
      Takes (message text) text
  | range {unit : DistanceUnit} {word : Text} (h : Text.alike word unit.label = true) :
      Takes (range (some unit)) word
  | unknownRange {word : Text} (hw : word.IsWord) (hp : word.IsPlain)
      (h : ∀ unit : DistanceUnit, Text.alike word unit.label = false) :
      Takes (range none) word
  | squelch {level : Int} (h : Numeral.IsWord level) :
      Takes (squelch level) (Numeral.ofInt level)

/-- The texts that write a command. Keywords are in letters of either case. -/
inductive IsWritten (command : Command) : Text → Prop where
  | bare {word : Text} (h : command ∈ bare) (hw : Text.alike word command.keyword = true) :
      IsWritten command word
  | withParameter {word parameter : Text} (h : Takes command parameter)
      (hw : Text.alike word command.keyword = true) :
      IsWritten command (word ++ ' ' :: parameter)

variable {command : Command} {word parameter text payload : Text} {raw : Bytes}

/-! ## Parameters -/

/-- The words of the modes are tokens. -/
theorem isToken_modeWord (m : OutputMode) : modeWord m ≠ [] ∧ (modeWord m).IsToken := by
  cases m <;> exact ⟨by decide, by decide⟩

/-- The labels of the units are tokens. -/
theorem isToken_label (unit : DistanceUnit) : unit.label ≠ [] ∧ unit.label.IsToken := by
  cases unit <;> exact ⟨by decide, by decide⟩

/-- A number is a word. -/
theorem isWord_ofInt (n : Int) : (Numeral.ofInt n).IsWord :=
  (Numeral.isToken_ofInt n).isWord (Numeral.ofInt_ne_nil n)

/-- What is alike to the word of a mode is a word. -/
theorem isWord_of_alike_modeWord {m : OutputMode} (h : Text.alike word (modeWord m) = true) :
    word.IsWord := (isToken_modeWord m).2.isWord_of_alike (isToken_modeWord m).1 h

/-- What is alike to the label of a unit is a word. -/
theorem isWord_of_alike_label {unit : DistanceUnit} (h : Text.alike word unit.label = true) :
    word.IsWord := (isToken_label unit).2.isWord_of_alike (isToken_label unit).1 h

/-- A parameter is a word, but the text of a message may be any without blanks at its ends. -/
theorem Takes.isWord (h : Takes command parameter) : parameter.IsPlain ∧
    (parameter.IsWord ∨ command = .message parameter ∧ Text.trim parameter = parameter) := by
  cases h with
  | @mode m _ h =>
    exact ⟨((isToken_modeWord m).2.of_alike h).isPlain, .inl (isWord_of_alike_modeWord h)⟩
  | unknownMode hw hp h => exact ⟨hp, .inl hw⟩
  | interval h => exact ⟨(Numeral.isToken_ofInt _).isPlain, .inl (isWord_ofInt _)⟩
  | message h hp => exact ⟨hp, .inr ⟨rfl, h⟩⟩
  | @range unit _ h =>
    exact ⟨((isToken_label unit).2.of_alike h).isPlain, .inl (isWord_of_alike_label h)⟩
  | unknownRange hw hp h => exact ⟨hp, .inl hw⟩
  | squelch h => exact ⟨(Numeral.isToken_ofInt _).isPlain, .inl (isWord_ofInt _)⟩

/-- A parameter has no blanks at its ends. -/
theorem Takes.trim_eq (h : Takes command parameter) : Text.trim parameter = parameter := by
  rcases h.isWord.2 with hword | ⟨-, htrim⟩
  · exact hword.trim_eq
  · exact htrim

/-- Only the text of a message can be empty. -/
theorem Takes.mem_bare (h : Takes command []) : command ∈ bare := by
  rcases h.isWord.2 with hword | ⟨rfl, -⟩
  · exact absurd rfl hword.ne_nil
  · decide

/-- A word behind a blank is the only parameter. -/
theorem params_cons (h : word.IsWord) : params (' ' :: word) = [word] := by
  rw [params, Parameter.split, Text.trim_cons_of_isBlank (by decide), h.trim_eq]
  exact h.words_eq

/-- An amount is read back from behind a blank. -/
theorem amount_cons {n : Int} (h : Numeral.IsWord n) : amount (' ' :: Numeral.ofInt n) = n := by
  have hword := isWord_ofInt n
  rw [amount, params_cons hword, Parameter.word?, Parameter.read?]
  simp only [List.getElem?_cons_zero, Option.bind_some, hword.trim_eq, Numeral.word?_ofInt h,
    Option.getD_some]

/-- A mode is found by its word in any case. -/
theorem lookup_modes {m : OutputMode} (h : Text.alike word (modeWord m) = true) :
    modes.lookup (Text.upper word) = some m := by
  rw [Text.alike_iff.1 h]
  cases m <;> rfl

/-- No mode is found by any other word. -/
theorem lookup_modes_of_unknown (h : ∀ m, Text.alike word (modeWord m) = false) :
    modes.lookup (Text.upper word) = none := by
  have hne : ∀ m, (Text.upper word != modeWord m) = true := by
    intro m
    have hunlike := h m
    rw [Text.alike] at hunlike
    rw [bne, Bool.not_eq_true', ← hunlike]
    cases m <;> rfl
  refine List.lookup_eq_none_iff.2 ?_
  simp only [modes, List.forall_mem_cons]
  exact ⟨hne .continuous, hne .polled, hne .stopped, by simp⟩

/-- A unit is found by its label in any case. -/
theorem ofLabel?_of_alike {unit : DistanceUnit} (h : Text.alike word unit.label = true) :
    DistanceUnit.ofLabel? word = some unit := by
  have hword := isWord_of_alike_label h
  have hfind : ∀ other : DistanceUnit,
      Text.alike other.label word = Text.alike other.label unit.label := by
    intro other
    rw [Text.alike, Text.alike, Text.alike_iff.1 h]
  rw [DistanceUnit.ofLabel?, hword.trim_eq]
  simp only [hfind]
  cases unit <;> rfl

/-- No unit is found by any other label. -/
theorem ofLabel?_of_unknown (hw : word.IsWord)
    (h : ∀ unit : DistanceUnit, Text.alike word unit.label = false) :
    DistanceUnit.ofLabel? word = none := by
  rw [DistanceUnit.ofLabel?, hw.trim_eq, List.find?_eq_none]
  intro unit _
  rw [Bool.not_eq_true, ← h unit, Text.alike, Text.alike]
  exact Bool.beq_comm

/-! ## Keywords -/

/-- No keyword starts another one. -/
theorem discrete_keywords : keywords.Discrete := ⟨by decide, by decide⟩

/-- Every keyword without a parameter stands for its command. -/
theorem lookup_of_bare (h : command ∈ bare) :
    (keywords.entries.lookup command.keyword).map (· []) = some command := by
  have hall : ∀ command ∈ bare,
      (keywords.entries.lookup command.keyword).map (· []) = some command := by decide
  exact hall command h

/-- Every keyword makes its command of the parameter. -/
theorem Takes.lookup (h : Takes command parameter) :
    (keywords.entries.lookup command.keyword).map (· (' ' :: parameter)) = some command := by
  have hmode : ∀ m : Option OutputMode, (keywords.entries.lookup (Command.mode m).keyword).map
      (· (' ' :: parameter)) = some (.mode ((params (' ' :: parameter)).head?.bind fun word =>
        modes.lookup (Text.upper word))) := fun _ => rfl
  have hrange : ∀ unit : Option DistanceUnit,
      (keywords.entries.lookup (Command.range unit).keyword).map (· (' ' :: parameter)) =
        some (.range ((params (' ' :: parameter)).head?.bind DistanceUnit.ofLabel?)) :=
    fun _ => rfl
  cases h with
  | @mode m _ h =>
    rw [hmode, params_cons (isWord_of_alike_modeWord h), List.head?_cons, Option.bind_some,
      lookup_modes h]
  | unknownMode hw hp h =>
    rw [hmode, params_cons hw, List.head?_cons, Option.bind_some, lookup_modes_of_unknown h]
  | interval h => exact congrArg (some ∘ Command.interval) (amount_cons h)
  | message h hp =>
    have htrim := (Text.trim_cons_of_isBlank (c := ' ') (by decide) parameter).trans h
    exact congrArg (some ∘ Command.message) htrim
  | @range unit _ h =>
    rw [hrange, params_cons (isWord_of_alike_label h), List.head?_cons, Option.bind_some,
      ofLabel?_of_alike h]
  | unknownRange hw hp h =>
    rw [hrange, params_cons hw, List.head?_cons, Option.bind_some, ofLabel?_of_unknown hw h]
  | squelch h => exact congrArg (some ∘ Command.squelch) (amount_cons h)

/-- A keyword of a command is a word. -/
theorem isToken_of_alike_keyword {tail : Text}
    (h : (keywords.entries.lookup command.keyword).map (· tail) = some command)
    (hw : Text.alike word command.keyword = true) : word.IsWord ∧ word.IsToken := by
  obtain ⟨kind, hkind, -⟩ := Option.map_eq_some_iff.1 h
  exact discrete_keywords.isToken_of_alike hkind hw

/-- A command is read from a keyword and what follows it. -/
theorem ofText_append {tail : Text}
    (h : (keywords.entries.lookup command.keyword).map (· tail) = some command)
    (hw : Text.alike word command.keyword = true) (htail : keywords.endsWord tail = true) :
    ofText (word ++ tail) = command := by
  obtain ⟨kind, hkind, heq⟩ := Option.map_eq_some_iff.1 h
  rw [ofText, discrete_keywords.lookup_eq hkind hw htail]
  exact heq

/-- A command is read from its keyword alone. -/
theorem ofText_of_bare (h : command ∈ bare) (hw : Text.alike word command.keyword = true) :
    ofText word = command := by
  have hread := ofText_append (lookup_of_bare h) hw rfl
  rwa [List.append_nil] at hread

/-- What writes a command can travel in a block. -/
theorem IsWritten.isPlain (h : IsWritten command text) : text.IsPlain := by
  cases h with
  | bare h hw => exact (isToken_of_alike_keyword (lookup_of_bare h) hw).2.isPlain
  | @withParameter word parameter h hw =>
    have hword := (isToken_of_alike_keyword h.lookup hw).2.isPlain
    exact hword.append (Text.isPlain_cons_iff.2 ⟨⟨by decide, by decide⟩, h.isWord.1⟩)

/-- A command is read from every text that writes it. -/
theorem IsWritten.ofText_trim (h : IsWritten command text) :
    Text.trim text ≠ [] ∧ ofText (Text.trim text) = command := by
  cases h with
  | bare h hw =>
    have hword := (isToken_of_alike_keyword (lookup_of_bare h) hw).1
    rw [hword.trim_eq]
    exact ⟨hword.ne_nil, ofText_of_bare h hw⟩
  | @withParameter word parameter h hw =>
    have hword := (isToken_of_alike_keyword h.lookup hw).1
    by_cases hnil : parameter = []
    · -- Nothing but a blank follows the keyword.
      subst hnil
      rw [hword.trim_append_blank (by decide)]
      exact ⟨hword.ne_nil, ofText_of_bare h.mem_bare hw⟩
    · rw [hword.trim_append_cons hnil h.trim_eq]
      exact ⟨List.append_ne_nil_of_left_ne_nil hword.ne_nil _, ofText_append h.lookup hw rfl⟩

end Command

variable {command : Command} {text payload : Text} {raw : Bytes}

/-- What is carried by a block is read as a request with a valid checksum. -/
theorem read_of_carries (h : Block.Carries separator checksum raw payload)
    (hne : Text.trim payload ≠ []) : Command.read raw = .ok {
      target := .first
      checksum := .valid
      command := Command.ofText (Text.trim payload)
      text := Text.trim payload } := by
  obtain ⟨block, hextract, rfl, hreceived⟩ := h
  have hempty : (Text.trim block.payload).isEmpty = false := by
    rw [List.isEmpty_eq_false_iff]
    exact hne
  rw [Command.read, hextract]
  simp only [bind, Except.bind, hreceived, hempty, Bool.false_eq_true, if_false,
    ChecksumStatus.compare_eq_valid_iff.2]
  rfl

/-- Every command is read from the block of a text that writes it. -/
theorem read_frame (h : Command.IsWritten command text) : Command.read (frame text) = .ok {
    target := .first
    checksum := .valid
    command
    text := Text.trim text } := by
  obtain ⟨hne, hcommand⟩ := h.ofText_trim
  have hread := read_of_carries (style.carries_frame h.isPlain) hne
  rwa [hcommand] at hread

end LightningDetector

end WeatherBus
