import WeatherBus.Proofs.SharedLine
import WeatherBus.Proofs.Terminal.Effect
import WeatherBus.Proofs.Terminal.Language

/-! # Formats that were asked for

An instrument keeps the text by which a format was asked for. It comes from a line, so it is one
that asks for the format again when it is sent once more: it has no blanks around it, and it is
neither a question nor the slash that stands for the format that the instrument comes with.

* **`Terminal.Kind.Understands`** — a word and the command that it makes of what follows it;
  `read_bare` and `read_with` say how it is read alone and with a value;
* **`Terminal.AsksForFormat`** — a text that asks for a format as it stands;
* **`Terminal.Kind.HoldsAsked`** — the format of an instrument was asked for by such a text;
  `holdsAsked_run` says that this is so after every run. -/

namespace WeatherBus

namespace Terminal

section Kind

variable {V S R X : Type} {kind : Kind V S R X}

/-! ## Keywords -/

section Keywords

variable {keyword tail value : Text} {command : Text → Command X}

/-- A word that makes a command of what follows it. -/
structure Kind.Understands (kind : Kind V S R X) (keyword : Text) (command : Text → Command X) :
    Prop where
  isToken : keyword.IsToken
  ne_nil : keyword ≠ []
  find?_eq : kind.table.entries.find? (fun entry => Text.alike entry.1 keyword) =
    some (keyword, command)

namespace Kind.Understands

/-- The request of a line that is such a word and what follows it. -/
theorem read_append (h : kind.Understands keyword command)
    (hkeywords : ∀ entry ∈ kind.keywords, entry.1.IsToken)
    (htrim : Text.trim (keyword ++ tail) = keyword ++ tail)
    (hends : kind.table.endsWord tail = true) :
    kind.read (Utf8.encode (keyword ++ tail)) = .ok {
      target := .all
      checksum := .absent
      command := command tail
      text := keyword ++ tail } := by
  have hne : (keyword ++ tail).isEmpty = false := by
    rw [List.isEmpty_eq_false_iff]
    exact List.append_ne_nil_of_left_ne_nil h.ne_nil tail
  have hcommand : kind.commandOf (keyword ++ tail) = command tail := by
    rw [Kind.commandOf, (isPlain_table hkeywords).lookup_eq_find? h.ne_nil h.isToken hends,
      h.find?_eq]
    rfl
  simp only [Kind.read, Utf8.decode?_encode, htrim, hne, Bool.false_eq_true, if_false, hcommand]

/-- The request of the word alone. -/
theorem read_bare (h : kind.Understands keyword command)
    (hkeywords : ∀ entry ∈ kind.keywords, entry.1.IsToken) :
    kind.read (Utf8.encode keyword) = .ok {
      target := .all
      checksum := .absent
      command := command []
      text := keyword } := by
  have htrim : Text.trim (keyword ++ []) = keyword ++ [] := by
    rw [List.append_nil]
    exact (h.isToken.isWord h.ne_nil).trim_eq
  have hread := h.read_append hkeywords htrim rfl
  rwa [List.append_nil] at hread

/-- The request of the word with a value behind a blank. -/
theorem read_with (h : kind.Understands keyword command)
    (hkeywords : ∀ entry ∈ kind.keywords, entry.1.IsToken) (hne : value ≠ [])
    (htrim : Text.trim value = value) :
    kind.read (Utf8.encode (keyword ++ ' ' :: value)) = .ok {
      target := .all
      checksum := .absent
      command := command (' ' :: value)
      text := keyword ++ ' ' :: value } :=
  h.read_append hkeywords ((h.isToken.isWord h.ne_nil).trim_append_cons hne htrim) rfl

end Kind.Understands

/-- The parameters of a value behind a blank are its words. -/
theorem Command.params_cons (htrim : Text.trim value = value) :
    params (' ' :: value) = Text.words value := by
  have hblank : Text.isBlank ' ' = true := by decide
  rw [params, Parameter.split, Text.trim_cons_of_isBlank hblank, htrim]
  exact if_pos hblank

end Keywords

/-! ## Texts of formats -/

section Texts

variable {source tail text : Text}

/-- A text that asks for a format as it stands. -/
structure AsksForFormat (source : Text) : Prop where
  trim_eq : Text.trim source = source
  ne_slash : source ≠ ['/']
  asks_eq : Parameter.asks (Command.params source) = false

/-- A format that is asked for is not empty. -/
theorem AsksForFormat.ne_nil (h : AsksForFormat source) : source ≠ [] := by
  rintro rfl
  exact absurd h.asks_eq (by decide)

/-- Behind a blank, it asks for the format of this text. -/
theorem AsksForFormat.formatOf_cons (h : AsksForFormat source) :
    (Command.formatOf (' ' :: source) : Command X) = .format (.set source) := by
  have hblank : Text.isBlank ' ' = true := by decide
  have hparams : Command.params (' ' :: source) = Command.params source := by
    rw [Command.params, Command.params, Parameter.split, Parameter.split,
      Text.trim_cons_of_isBlank hblank]
  rw [Command.formatOf, Text.trim_cons_of_isBlank hblank, h.trim_eq, if_neg h.ne_slash,
    Command.setting, Setting.read, hparams, h.asks_eq]
  rfl

/-- The text of a format that is asked for is one of these. -/
theorem asksForFormat_of_formatOf
    (h : (Command.formatOf tail : Command X) = .format (.set source)) : AsksForFormat source := by
  have hblank : Text.isBlank ' ' = true := by decide
  rw [Command.formatOf] at h
  split at h
  · exact absurd h (by simp)
  · rename_i hslash
    rw [Command.format.injEq, Command.setting, Setting.read] at h
    split at h
    · exact absurd h (by simp)
    · rename_i hasks
      obtain rfl := Setting.set.inj h
      have hparams : Command.params (Text.trim tail) = Command.params tail := by
        rw [Command.params, Command.params, Parameter.split, Parameter.split, Text.trim_trim]
      exact ⟨Text.trim_trim tail, hslash, by rw [hparams]; exact Bool.eq_false_iff.2 hasks⟩

/-- Of the common words, only one is for the format. -/
theorem formatOf_of_mem {rule : Command.AddressRule} {entry : Text × (Text → Command X)}
    (hmem : entry ∈ Command.keywords rule) (h : entry.2 tail = .format (.set source)) :
    (Command.formatOf tail : Command X) = .format (.set source) := by
  simp only [Command.keywords, List.mem_cons, List.not_mem_nil, or_false] at hmem
  rcases hmem with rfl | rfl | rfl | rfl | rfl | rfl | rfl | rfl | rfl | rfl | rfl | rfl | rfl
  case inr.inr.inr.inr.inr.inl => exact h
  -- All other words make commands that are not about a format.
  all_goals exact absurd h (by simp)

/-- Whatever words a kind has of its own, a text for a format is one that asks for it. -/
theorem asksForFormat_of_commandOf (h : kind.commandOf text = .format (.set source)) :
    AsksForFormat source := by
  rw [Kind.commandOf] at h
  split at h
  · rename_i command tail hlookup
    obtain ⟨⟨keyword, hmem⟩, -⟩ := Keyword.Table.mem_of_lookup hlookup
    rcases List.mem_append.1 hmem with hcommon | hown
    · exact asksForFormat_of_formatOf (formatOf_of_mem hcommon h)
    · obtain ⟨own, -, heq⟩ := List.mem_map.1 hown
      obtain rfl := (Prod.mk.inj heq).2
      exact absurd h (by simp)
  · exact absurd h (by simp)

end Texts

/-! ## The format of an instrument -/

section Stored

variable {command : Command X} {d : Device (Terminal V R)} {format : Format V} {source : Text}

/-- What a command makes of the format of an instrument. -/
inductive FormatEffect (kind : Kind V S R X) (command : Command X) (before : Option (Format V)) :
    Option (Format V) → Prop where
  | kept : FormatEffect kind command before before
  | reset : FormatEffect kind command before none
  | chosen {source : Text} {format : Format V} (hcommand : command = .format (.set source))
      (h : Format.compile kind.vocabulary source = .ok format) :
      FormatEffect kind command before (some format)

/-- A command keeps the format, drops it, or chooses the one that it asks for. -/
theorem formatEffect_obey (hown : ∀ (command : X) (d : Device (Terminal V R)),
      ∃ f, (kind.applyOwn command d).1 = changeOwn f d) (command : Command X)
    (d : Device (Terminal V R)) :
    FormatEffect kind command d.registers.format (kind.obey command d).1.registers.format := by
  cases command with
  | format setting =>
    cases setting with
    | query => exact .kept
    | set source =>
      rw [Kind.obey, Kind.chooseFormat]
      split
      · rename_i format hformat
        exact .chosen rfl hformat
      · exact .kept
    | invalid text => exact .kept
  | resetFormat => exact .reset
  | mode setting => cases setting <;> exact .kept
  | interval setting =>
    cases setting with
    | query => exact .kept
    | set interval =>
      rw [Kind.obey, Kind.chooseInterval]
      split
      · exact .kept
      · exact .kept
    | invalid text => exact .kept
  | address setting => cases setting <;> exact .kept
  | openLine address =>
    rw [Kind.obey, Kind.openLine]
    split
    · exact .kept
    · exact .kept
  | own command =>
    obtain ⟨f, hf⟩ := hown command d
    rw [Kind.obey, hf]
    exact .kept
  | run => exact .kept
  | stop => exact .kept
  | send address => exact .kept
  | closeLine => exact .kept
  | serialNumber => exact .kept
  | version => exact .kept
  | info => exact .kept
  | restart => exact .kept
  | unknown word => exact .kept

/-- So does a request, which may be refused. -/
theorem formatEffect_apply (hown : ∀ (command : X) (d : Device (Terminal V R)),
      ∃ f, (kind.applyOwn command d).1 = changeOwn f d) (request : Request (Command X))
    (d : Device (Terminal V R)) : FormatEffect kind request.command d.registers.format
      (kind.apply request d).1.registers.format := by
  rw [Kind.apply]
  split
  · exact .kept
  · rename_i address hcommand
    rw [hcommand]
    exact formatEffect_obey hown (.openLine address) d
  · split
    · exact formatEffect_obey hown _ d
    · exact .kept

/-- The format of an instrument, if it is not the one that it comes with, was asked for by a text
that asks for it again. -/
def Kind.HoldsAsked (kind : Kind V S R X) (d : Device (Terminal V R)) : Prop :=
  ∀ format, d.registers.format = some format →
    Format.compile kind.vocabulary format.source = .ok format ∧ AsksForFormat format.source

/-- A new device holds no format that was asked for. -/
theorem holdsAsked_new (mode : SerialMode) (address : Nat) :
    kind.HoldsAsked (kind.new mode address) := fun _ h => nomatch h

/-- A format keeps the text that it was compiled from. -/
theorem source_of_compile {words : Format.Vocabulary V S}
    (h : Format.compile words source = .ok format) : format.source = source := by
  rw [Format.compile] at h
  split at h
  · exact absurd h (by simp)
  · cases hitems : Format.readItems words 0 0 source with
    | error fault =>
      rw [hitems] at h
      exact absurd h (by simp [bind, Except.bind])
    | ok items =>
      rw [hitems] at h
      obtain rfl := Except.ok.inj h
      rfl

/-- What is read from a line keeps it so. -/
theorem HoldsAsked.apply_of_read (hown : ∀ (command : X) (d : Device (Terminal V R)),
      ∃ f, (kind.applyOwn command d).1 = changeOwn f d) {frame : Bytes}
    {request : Request (Command X)} (hread : kind.read frame = .ok request)
    (h : kind.HoldsAsked d) : kind.HoldsAsked (kind.apply request d).1 := by
  intro format hformat
  have heffect := formatEffect_apply hown request d
  rw [hformat] at heffect
  generalize hbefore : d.registers.format = before at heffect
  cases heffect with
  | kept => exact h format hbefore
  | @chosen source _ hcommand hcompile =>
    -- The text of the new format is the one that the command was read with.
    obtain ⟨line, -, -, rfl⟩ := exists_line_of_read hread
    obtain rfl := source_of_compile hcompile
    exact ⟨hcompile, asksForFormat_of_commandOf hcommand⟩

end Stored

end Kind

/-! ## Every run -/

section Runs

variable {V R X : Type} [Instrument (Terminal V R) (Command X)] [Operated V R]
  {maxAddress : Nat}

/-- What is read on a bus leaves only formats that were asked for. -/
theorem readInvariant_holdsAsked : Bus.ReadInvariant (R := Terminal V R) (fun _ => True) maxAddress
    (Operated.kind (V := V) (R := R)).HoldsAsked where
  apply _ hread h := by
    rw [Operated.read_eq] at hread
    rw [Operated.apply_eq]
    exact HoldsAsked.apply_of_read Operated.own_eq hread h
  move _ h := h
  observe sample h := by
    rw [Device.mapRegisters, Operated.observe_eq]
    exact h
  markSent _ h := h

/-- After every run, the formats were asked for by texts that ask for them again. -/
theorem holdsAsked_run [Conducted (Terminal V R)] {count : Nat} {start : Bus (Terminal V R)}
    (h : (Operated.kind (V := V) (R := R)).bus count = .ok start)
    (operations : List Bus.Operation) :
    (start.run operations).Throughout (Operated.kind (V := V) (R := R)).maxAddress
      (Operated.kind (V := V) (R := R)).HoldsAsked :=
  readInvariant_holdsAsked.run (fun _ _ => trivial)
    (Kind.throughout_bus (fun mode address _ => holdsAsked_new mode address) h)

end Runs

end Terminal

end WeatherBus
