import WeatherBus.Proofs.Instrument.Conduct
import WeatherBus.Proofs.Instrument.Signal
import WeatherBus.Terminal.Kind

/-! # Instruments with a terminal keep to the rules

* **`Terminal.Kind.conduct_obey`**, **`Terminal.Kind.conduct_apply`** — the common commands keep to
  the rules, and so do all of a kind if its own commands do;
* **`Terminal.Kind.signals_obey`**, **`Terminal.Kind.signals_apply`** — likewise for the commands
  that change a schedule. -/

namespace WeatherBus

namespace Terminal

variable {V S R X : Type}

/-- Whether a command sets several fields. None of the common ones does. -/
def Command.setsSeveral (own : X → Bool) : Command X → Bool
  | .own command => own command
  | _ => false

/-! ## Changing a device -/

section Retains

variable (d : Device (Terminal V R))

/-- Entering a mode retains the rest. -/
@[simp] theorem retains_enter (mode : SerialMode) : d.Retains (enter mode d) :=
  ⟨rfl, rfl, Schedule.follows_setMode _ _⟩

/-- So does an interval. -/
@[simp] theorem retains_setInterval (value : Nat) (unit : IntervalUnit) :
    d.Retains (setInterval value unit d) := ⟨rfl, rfl, Schedule.follows_setInterval _ _⟩

/-- So does the start of the output. -/
@[simp] theorem retains_start : d.Retains (start d) :=
  Device.retains_mapSchedule (Schedule.follows_start _)

/-- And so does its end. -/
@[simp] theorem retains_stop : d.Retains (Terminal.stop d) :=
  Device.retains_mapSchedule (Schedule.follows_setMode _ _)

/-- Opening and closing the line retains all. -/
@[simp] theorem retains_setOpen (isOpen : Bool) : d.Retains (setOpen isOpen d) :=
  Device.retains_mapRegisters _ d

/-- Registers of its own do not belong to what a device retains. -/
@[simp] theorem retains_changeOwn (f : R → R) : d.Retains (changeOwn f d) :=
  Device.retains_mapRegisters _ d

end Retains

/-! ## Commands -/

namespace Kind

variable (kind : Kind V S R X)

section Choices

variable {several : Bool} {announced : Option Nat} (d : Device (Terminal V R))

/-- A choice of the interval keeps to the rules. -/
theorem conduct_chooseInterval (value : Int) (unit : IntervalUnit) :
    Conduct several announced d (kind.chooseInterval value unit d) := by
  rw [chooseInterval]
  split
  · exact .carriedOut (retains_setInterval d _ _) rfl
  · exact .unchanged _

/-- So does a choice of the format. -/
theorem conduct_chooseFormat (source : Text) :
    Conduct several announced d (kind.chooseFormat source d) := by
  rw [chooseFormat]
  split
  · exact .carriedOut (Device.retains_mapRegisters _ d) rfl
  · exact .unchanged _

/-- And so does the opening of the line. -/
theorem conduct_openLine (address : Int) :
    Conduct several announced d (kind.openLine address d) := by
  rw [openLine]
  split
  · exact .carriedOut (retains_setOpen d _) rfl
  · exact .carriedOut (retains_setOpen d _) rfl

end Choices

/-- The common commands keep to the rules. Only those of the own kind may set several fields. -/
theorem conduct_obey {own : X → Bool}
    (hown : ∀ command d, Conduct (own command) none d (kind.applyOwn command d))
    (command : Command X) (d : Device (Terminal V R)) :
    Conduct (command.setsSeveral own) none d (kind.obey command d) := by
  cases command with
  | run => exact .carriedOut (retains_start d) rfl
  | stop => exact .carriedOut (retains_stop d) rfl
  | send address => exact .unchanged _
  | mode setting =>
    cases setting with
    | query => exact .unchanged _
    | set mode => exact .carriedOut (retains_enter d mode) rfl
    | invalid text => exact .unchanged _
  | interval setting =>
    cases setting with
    | query => exact .unchanged _
    | set interval => exact kind.conduct_chooseInterval d _ _
    | invalid text => exact .unchanged _
  | format setting =>
    cases setting with
    | query => exact .unchanged _
    | set source => exact kind.conduct_chooseFormat d source
    | invalid text => exact .unchanged _
  | resetFormat => exact .carriedOut (Device.retains_mapRegisters _ d) rfl
  | address setting => cases setting <;> exact .unchanged _
  | openLine address => exact kind.conduct_openLine d address
  | closeLine => exact .carriedOut (retains_setOpen d false) rfl
  | serialNumber => exact .unchanged _
  | version => exact .unchanged _
  | info => exact .unchanged _
  | restart =>
    -- The registers of the kind are reset first, and then the mode is entered once more.
    exact .carriedOut ((retains_changeOwn d kind.restart).trans (retains_enter _ _)) rfl
  | own command => exact hown command d
  | unknown word => exact .unchanged _

/-- All commands keep to the rules, also those that an instrument does not listen to. -/
theorem conduct_apply {own : X → Bool}
    (hown : ∀ command d, Conduct (own command) none d (kind.applyOwn command d))
    (request : Request (Command X)) (d : Device (Terminal V R)) :
    Conduct (request.command.setsSeveral own) none d (kind.apply request d) := by
  rw [Kind.apply]
  -- Two commands with an address in them are obeyed with a closed line, too.
  split
  · exact .unchanged _
  · exact kind.conduct_openLine d _
  · split
    · exact kind.conduct_obey hown _ d
    · exact .unchanged _

/-! ## Changes of the schedule -/

/-- A choice of the interval signals what it changes in the schedule. -/
theorem signals_chooseInterval (value : Int) (unit : IntervalUnit) (d : Device (Terminal V R)) :
    Signals d (kind.chooseInterval value unit d) := by
  rw [chooseInterval]
  split
  · exact .announced rfl
  · exact .refused

/-- A choice of the format does not touch the schedule. -/
theorem signals_chooseFormat (source : Text) (d : Device (Terminal V R)) :
    Signals d (kind.chooseFormat source d) := by
  rw [chooseFormat]
  split
  · exact .kept rfl
  · exact .refused

/-- Neither does the opening of the line. -/
theorem signals_openLine (address : Int) (d : Device (Terminal V R)) :
    Signals d (kind.openLine address d) := by
  rw [openLine]
  split
  · exact .kept rfl
  · exact .kept rfl

/-- The common commands ask for the sender if they change the schedule. -/
theorem signals_obey (hown : ∀ command d, Signals d (kind.applyOwn command d))
    (command : Command X) (d : Device (Terminal V R)) : Signals d (kind.obey command d) := by
  cases command with
  | run => exact .announced rfl
  | stop => exact .announced rfl
  | send address => exact .kept rfl
  | mode setting =>
    cases setting with
    | query => exact .kept rfl
    | set mode => exact .announced rfl
    | invalid text => exact .refused
  | interval setting =>
    cases setting with
    | query => exact .kept rfl
    | set interval => exact kind.signals_chooseInterval _ _ d
    | invalid text => exact .refused
  | format setting =>
    cases setting with
    | query => exact .kept rfl
    | set source => exact kind.signals_chooseFormat source d
    | invalid text => exact .refused
  | resetFormat => exact .kept rfl
  | address setting => cases setting <;> exact .kept rfl
  | openLine address => exact kind.signals_openLine address d
  | closeLine => exact .kept rfl
  | serialNumber => exact .kept rfl
  | version => exact .kept rfl
  | info => exact .kept rfl
  | restart => exact .announced rfl
  | own command => exact hown command d
  | unknown word => exact .refused

/-- All commands ask for the sender if they change the schedule. -/
theorem signals_apply (hown : ∀ command d, Signals d (kind.applyOwn command d))
    (request : Request (Command X)) (d : Device (Terminal V R)) :
    Signals d (kind.apply request d) := by
  rw [Kind.apply]
  split
  · exact .kept rfl
  · exact kind.signals_openLine _ d
  · split
    · exact kind.signals_obey hown _ d
    · exact .kept rfl

end Kind

end Terminal

end WeatherBus
