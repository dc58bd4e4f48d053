import WeatherBus.Proofs.Terminal.Language

/-! # What an operator sees of an instrument

To the lines of an operator, an instrument is its mode, whether the line is open to it, and whether
it sends on its own. All instruments with a terminal change these in the same way, and answer with
the same kind of answer, whatever else they measure and store.

* **`Terminal.Standing`** — mode, line and output of an instrument;
* **`Terminal.LineCommand.carryOut`** — what a command makes of it, and what is heard;
* **`Terminal.follows_apply`**, **`Terminal.sounds_ownAnswer`** — all instruments do that;
* **`Terminal.standing?_dispatch`**, **`Terminal.exists_mem_contributions_iff`** — what a line does
  to all instruments on a bus, and which of them answer. -/

namespace WeatherBus

namespace Terminal

/-! ## One instrument -/

/-- Mode, line and output of an instrument. -/
structure Standing where
  mode : SerialMode
  isOpen : Bool
  output : OutputMode
deriving DecidableEq, Repr

/-- Whether commands are obeyed that call no address. -/
def Standing.isListening (s : Standing) : Bool := s.mode ≠ .poll || s.isOpen

/-- What is heard of an instrument. -/
inductive Voice where
  | silent
  | text
  | measurement
deriving DecidableEq, Repr

namespace LineCommand

/-- Whether a command is obeyed. Two commands with an address in them always are. -/
def isHeeded (s : Standing) : LineCommand → Bool
  | send (some _) => true
  | openLine _ => true
  | _ => s.isListening

/-- What a command does to an instrument that obeys it. -/
def obey (address : Nat) (s : Standing) : LineCommand → Standing × Voice
  | run => ({ s with output := .continuous }, .silent)
  | stop => ({ s with output := if s.mode = .poll then .polled else .stopped }, .silent)
  | send none => (s, .measurement)
  | send (some callee) => (s, if callee = address then .measurement else .silent)
  | mode (.set chosen) => (⟨chosen, false, chosen.outputMode⟩, .text)
  | mode _ => (s, .text)
  | openLine callee =>
    if callee = address then ({ s with isOpen := true }, .text)
    else ({ s with isOpen := false }, .silent)
  | closeLine => ({ s with isOpen := false }, .text)
  | restart => (⟨s.mode, false, s.mode.outputMode⟩, .text)

/-- What a command does to an instrument. -/
def carryOut (address : Nat) (s : Standing) (command : LineCommand) : Standing × Voice :=
  if command.isHeeded s then command.obey address s else (s, .silent)

/-- No command of the line moves a device. -/
theorem mayMove_toCommand {X : Type} (command : LineCommand) :
    (command.toCommand : Command X).mayMove = false := by cases command <;> rfl

end LineCommand

section Kind

variable {V S R X : Type} {kind : Kind V S R X} {request : Request (Command X)}
  {command : LineCommand}

/-- How an instrument stands. -/
def standing (d : Device (Terminal V R)) : Standing where
  mode := d.registers.mode
  isOpen := d.registers.isOpen
  output := d.schedule.mode

/-- What an instrument says, with a fault or without one. -/
inductive Utters : Device (Terminal V R) × Except Fault Outcome → Voice → Prop where
  | silent {d : Device (Terminal V R)} {outcome : Outcome} (h : outcome.reply = .silent) :
      Utters (d, .ok outcome) .silent
  | text {d : Device (Terminal V R)} {outcome : Outcome} {body : Text}
      (h : outcome.reply = .text body) : Utters (d, .ok outcome) .text
  | measurement {d : Device (Terminal V R)} {outcome : Outcome}
      (h : outcome.reply = .measurement) : Utters (d, .ok outcome) .measurement
  /-- A parameter was not understood. -/
  | refused {d : Device (Terminal V R)} {parameter : String}
      (h : d.registers.isListening = true) :
      Utters (d, .error (.invalidParameter parameter)) .text

/-- What becomes of an instrument and what it says are as expected. -/
structure Follows (x : Device (Terminal V R) × Except Fault Outcome)
    (expected : Standing × Voice) : Prop where
  standing_eq : standing x.1 = expected.1
  utters : Utters x expected.2

/-- All instruments carry out the commands alike. -/
theorem follows_apply (h : request.command = command.toCommand) (d : Device (Terminal V R)) :
    Follows (kind.apply request d) (command.carryOut d.address (standing d)) := by
  -- Most of the commands are only obeyed by an instrument that listens.
  have hheard {c : LineCommand} {x : Device (Terminal V R) × Except Fault Outcome}
      (hc : c.isHeeded (standing d) = d.registers.isListening)
      (hx : d.registers.isListening = true → Follows x (c.obey d.address (standing d))) :
      Follows (if d.registers.isListening then x else (d, .ok .silent))
        (c.carryOut d.address (standing d)) := by
    rw [LineCommand.carryOut, hc]
    split
    · rename_i hlistening
      exact hx hlistening
    · exact ⟨rfl, .silent rfl⟩
  obtain ⟨target, checksum, given, text⟩ := request
  obtain rfl : given = command.toCommand := h
  cases command with
  | run => exact hheard rfl fun _ => ⟨rfl, .silent rfl⟩
  | stop => exact hheard rfl fun _ => ⟨rfl, .silent rfl⟩
  | send callee =>
    cases callee with
    | none => exact hheard rfl fun _ => ⟨rfl, .measurement rfl⟩
    | some callee =>
      simp only [Kind.apply, LineCommand.toCommand, LineCommand.carryOut, LineCommand.isHeeded,
        LineCommand.obey, if_true]
      split
      · exact ⟨rfl, .measurement rfl⟩
      · exact ⟨rfl, .silent rfl⟩
  | mode setting =>
    cases setting with
    | query => exact hheard rfl fun _ => ⟨rfl, .text rfl⟩
    | set chosen => exact hheard rfl fun _ => ⟨rfl, .text rfl⟩
    | invalid text => exact hheard rfl fun hlistening => ⟨rfl, .refused hlistening⟩
  | openLine callee =>
    simp only [Kind.apply, LineCommand.toCommand, Kind.openLine, LineCommand.carryOut,
      LineCommand.isHeeded, LineCommand.obey, if_true]
    split
    · exact ⟨rfl, .text rfl⟩
    · exact ⟨rfl, .silent rfl⟩
  | closeLine => exact hheard rfl fun _ => ⟨rfl, .text rfl⟩
  | restart => exact hheard rfl fun _ => ⟨rfl, .text rfl⟩

end Kind

/-! ## Answers -/

/-- An answer of which something is heard. -/
structure Sounds (ans : Answer) (voice : Voice) : Prop where
  reply_iff : ans.reply ≠ [] ↔ voice = .text
  measurements_iff : ans.measurements ≠ [] ↔ voice = .measurement

section Operated

variable {V R X : Type} [Instrument (Terminal V R) (Command X)] [Operated V R]
  {request : Request (Command X)} {d : Device (Terminal V R)} {command : LineCommand}
  {frame : Bytes} {bus : Bus (Terminal V R)} {a : Nat}

/-- Every text is sent with at least the end of a line. -/
theorem encodeReply_ne_nil (request : Request (Command X)) (d : Device (Terminal V R))
    (body : Text) : Instrument.encodeReply request d body ≠ [] := by
  rw [Operated.encodeReply_eq, Kind.encodeReply, Utf8.encode_append]
  exact List.append_ne_nil_of_right_ne_nil _ (by decide)

/-- An instrument that listens says so if it does not understand a parameter. -/
theorem sounds_refusal (hlistening : d.registers.isListening = true) (parameter : String) :
    Sounds (Bus.refusal request d true (.invalidParameter parameter)) .text := by
  obtain ⟨words, hwords⟩ := Option.isSome_iff_exists.1
    (Operated.isSome_refusal (V := V) (R := R) parameter)
  have hreply : Instrument.encodeFault request d (.invalidParameter parameter) =
      some (Instrument.encodeReply request d words) := by
    rw [Operated.encodeFault_eq, Kind.encodeFault, if_pos hlistening, hwords, Option.map_some,
      Operated.encodeReply_eq]
  constructor
  · simp [Bus.refusal, hreply, encodeReply_ne_nil]
  · simp [Bus.refusal]

/-- What an instrument says is heard. -/
theorem sounds_ownAnswer (h : request.command = command.toCommand) (d : Device (Terminal V R)) :
    Sounds (Bus.ownAnswer request d) (command.carryOut d.address (standing d)).2 := by
  have hutters : Utters (Operated.kind.apply request d)
      (command.carryOut d.address (standing d)).2 := (follows_apply h d).utters
  rw [← Operated.apply_eq] at hutters
  rw [Bus.ownAnswer]
  generalize Instrument.apply request d = x at hutters ⊢
  generalize (command.carryOut d.address (standing d)).2 = voice at hutters ⊢
  cases hutters with
  | silent hreply => exact ⟨by simp [Bus.answer, hreply], by simp [Bus.answer, hreply]⟩
  | text hreply =>
    exact ⟨by simp [Bus.answer, hreply, encodeReply_ne_nil], by simp [Bus.answer, hreply]⟩
  | measurement hreply => exact ⟨by simp [Bus.answer, hreply], by simp [Bus.answer, hreply]⟩
  | refused hlistening => exact sounds_refusal hlistening _

/-! ## All instruments on a bus -/

/-- How the instrument at an address stands. -/
def standing? (a : Nat) (bus : Bus (Terminal V R)) : Option Standing := (bus.get? a).map standing

/-- The instrument at an address answers a frame with a text. -/
def AnswersWithText (frame : Bytes) (a : Nat) (bus : Bus (Terminal V R)) : Prop :=
  ∃ ans, (a, ans) ∈ bus.contributions frame ∧ ans.reply ≠ []

/-- The instrument at an address answers a frame with a measurement. -/
def AnswersWithMeasurement (frame : Bytes) (a : Nat) (bus : Bus (Terminal V R)) : Prop :=
  ∃ ans, (a, ans) ∈ bus.contributions frame ∧ ans.measurements ≠ []

/-- The request of a line, read by an instrument of any kind. -/
theorem exists_request (line : OperatorLine) :
    ∃ request, Instrument.read (Terminal V R) line.frame = .ok request ∧
      request.command = (line.command (Operated.missing V R)).toCommand :=
  ⟨_, Operated.read_eq (V := V) (R := R) ▸ read_frame Operated.isToken_keyword line, rfl⟩

variable [Conducted (Terminal V R)]

/-- Every instrument on a bus carries out a line. -/
theorem standing?_dispatch (hp : bus.WellPlaced)
    (hread : Instrument.read (Terminal V R) frame = .ok request)
    (h : request.command = command.toCommand) (a : Nat) :
    standing? a (bus.dispatch frame).1 =
      (standing? a bus).map fun s => (command.carryOut a s).1 := by
  have hstays : request.command.mayMove = false := h ▸ command.mayMove_toCommand
  rw [standing?, standing?, Bus.dispatch_of_read hread (resolve_of_read hread bus),
    (staysPut_of_read hread hstays).get?_broadcast hp]
  cases hd : bus.get? a with
  | none => rfl
  | some d =>
    simp only [Option.map_some]
    rw [Operated.apply_eq, (follows_apply h d).standing_eq, hp.address_eq hd]

/-- Every instrument on a bus answers a line for itself. -/
theorem exists_mem_contributions_iff (hp : bus.WellPlaced)
    (hread : Instrument.read (Terminal V R) frame = .ok request)
    (h : request.command = command.toCommand) {P : Answer → Prop} {voice : Voice}
    (hP : ∀ {ans heard}, Sounds ans heard → (P ans ↔ heard = voice)) :
    (∃ ans, (a, ans) ∈ bus.contributions frame ∧ P ans) ↔
      ∃ s, standing? a bus = some s ∧ (command.carryOut a s).2 = voice := by
  have hstays : request.command.mayMove = false := h ▸ command.mayMove_toCommand
  rw [Bus.contributions_of_read hread (resolve_of_read hread bus)]
  simp only [(staysPut_of_read hread hstays).mem_turns_broadcast hp]
  constructor
  · rintro ⟨_, ⟨d, hd, rfl⟩, hans⟩
    refine ⟨standing d, by rw [standing?, hd, Option.map_some], ?_⟩
    rw [← hp.address_eq hd]
    exact (hP (sounds_ownAnswer h d)).1 hans
  · rintro ⟨s, hs, hvoice⟩
    obtain ⟨d, hd, rfl⟩ := Option.map_eq_some_iff.1 hs
    rw [← hp.address_eq hd] at hvoice
    exact ⟨_, ⟨d, hd, rfl⟩, (hP (sounds_ownAnswer h d)).2 hvoice⟩

end Operated

end Terminal

end WeatherBus
