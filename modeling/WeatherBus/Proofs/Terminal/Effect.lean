import WeatherBus.Proofs.Instrument.Timing
import WeatherBus.Proofs.Kinds
import WeatherBus.Proofs.Terminal.Line

/-! # What a command makes of an instrument with a terminal

A command does one of a few things to an instrument, whatever else it answers. They are listed once,
and what holds of an instrument after every command is shown by going through the list.

* **`Terminal.Effect`** — what a command can make of an instrument; `Terminal.effect_apply`;
* **`Terminal.Agrees`** — the schedule is what the settings say;
* **`Terminal.IntervalInRange`** — the interval is one that can be chosen;
* **`Terminal.Kind.OwnInvariant`** — what a kind keeps of the registers of its own;
* **`Terminal.Command.enters`** — whether an instrument enters a mode by a command, and so it does
  if it listens: `mode_apply_of_enters`;
* **`Terminal.restarts`** — whether an instrument restarts by a command. -/

namespace WeatherBus

namespace Terminal

/-! ## One command -/

section Effect

variable {V S R X : Type} {kind : Kind V S R X} {d e : Device (Terminal V R)}

/-- What a command can make of an instrument. -/
inductive Effect (kind : Kind V S R X) (d : Device (Terminal V R)) : Device (Terminal V R) → Prop
    where
  | unchanged : Effect kind d d
  | started : Effect kind d (start d)
  | stopped : Effect kind d (Terminal.stop d)
  | entered (mode : SerialMode) : Effect kind d (enter mode d)
  | restarted : Effect kind d (enter d.registers.mode (changeOwn kind.restart d))
  | interval {value : Nat} (unit : IntervalUnit) (hlow : kind.minInterval ≤ value)
      (hhigh : value ≤ 255) : Effect kind d (setInterval value unit d)
  | format (format : Option (Format V)) : Effect kind d (d.mapRegisters ({ · with format }))
  | opened (isOpen : Bool) : Effect kind d (setOpen isOpen d)
  | own (command : X) : Effect kind d (kind.applyOwn command d).1

/-- A choice of the interval is one of the effects. -/
theorem effect_chooseInterval (value : Int) (unit : IntervalUnit) :
    Effect kind d (kind.chooseInterval value unit d).1 := by
  rw [Kind.chooseInterval]
  split
  · rename_i hrange
    exact .interval unit (by omega) (by omega)
  · exact .unchanged

/-- So is a choice of the format. -/
theorem effect_chooseFormat (source : Text) : Effect kind d (kind.chooseFormat source d).1 := by
  rw [Kind.chooseFormat]
  split
  · exact .format _
  · exact .unchanged

/-- So is the opening of the line. -/
theorem effect_openLine (address : Int) : Effect kind d (kind.openLine address d).1 := by
  rw [Kind.openLine]
  split
  · exact .opened true
  · exact .opened false

/-- And so is what any command does. -/
theorem effect_obey (command : Command X) : Effect kind d (kind.obey command d).1 := by
  cases command with
  | run => exact .started
  | stop => exact .stopped
  | mode setting =>
    cases setting with
    | query => exact .unchanged
    | set mode => exact .entered mode
    | invalid text => exact .unchanged
  | interval setting =>
    cases setting with
    | query => exact .unchanged
    | set interval => exact effect_chooseInterval _ _
    | invalid text => exact .unchanged
  | format setting =>
    cases setting with
    | query => exact .unchanged
    | set source => exact effect_chooseFormat source
    | invalid text => exact .unchanged
  | resetFormat => exact .format none
  | address setting => cases setting <;> exact .unchanged
  | openLine address => exact effect_openLine address
  | closeLine => exact .opened false
  | restart => exact .restarted
  | own command => exact .own command
  | send address => exact .unchanged
  | serialNumber => exact .unchanged
  | version => exact .unchanged
  | info => exact .unchanged
  | unknown word => exact .unchanged

/-- Every command does one of these things. -/
theorem effect_apply (request : Request (Command X)) (d : Device (Terminal V R)) :
    Effect kind d (kind.apply request d).1 := by
  rw [Kind.apply]
  split
  · exact .unchanged
  · exact effect_openLine _
  · split
    · exact effect_obey _
    · exact .unchanged

-- The commands of the own kind change nothing but the registers of the own kind.
variable (hown : ∀ (command : X) (d : Device (Terminal V R)),
  ∃ f, (kind.applyOwn command d).1 = changeOwn f d)

include hown

/-- A command changes the schedule once at most. -/
theorem Effect.adjusts (h : Effect kind d e) : d.schedule.Adjusts e.schedule := by
  cases h with
  | unchanged => exact .refl _
  | started => exact Schedule.adjusts_setMode _ _
  | stopped => exact Schedule.adjusts_setMode _ _
  | entered mode => exact Schedule.adjusts_setMode _ _
  | restarted => exact Schedule.adjusts_setMode _ _
  | interval unit => exact Schedule.adjusts_setInterval _ _
  | format format => exact .refl _
  | opened isOpen => exact .refl _
  | own command =>
    obtain ⟨f, hf⟩ := hown command d
    rw [hf]
    exact .refl _

end Effect

/-! ## Entering a mode -/

section Enters

variable {V S R X : Type} {kind : Kind V S R X} {request : Request (Command X)}
  {d : Device (Terminal V R)}

/-- Whether an instrument that obeys a command enters a mode by it: another one, or the old one once
more. -/
def Command.enters : Command X → Bool
  | .mode (.set _) => true
  | .restart => true
  | _ => false

/-- A mode is entered by a choice of it, and by a restart. -/
theorem Command.exists_of_enters {command : Command X} (h : command.enters = true) :
    (∃ mode, command = .mode (.set mode)) ∨ command = .restart := by
  unfold Command.enters at h
  split at h
  · exact .inl ⟨_, rfl⟩
  · exact .inr rfl
  · exact absurd h Bool.false_ne_true

/-- Such a command does not move the device. -/
theorem Command.mayMove_of_enters {command : Command X} (h : command.enters = true) :
    command.mayMove = false := by
  rcases exists_of_enters h with ⟨mode, rfl⟩ | rfl
  · rfl
  · rfl

/-- An instrument that listens enters a mode by such a command, with its serial mode and with its
output mode. -/
theorem mode_apply_of_enters (h : request.command.enters = true)
    (hlistens : d.registers.isListening = true) :
    (kind.apply request d).1.schedule.mode =
        (kind.apply request d).1.registers.mode.outputMode ∧
      ∀ mode, request.command = .mode (.set mode) →
        (kind.apply request d).1.registers.mode = mode := by
  obtain ⟨target, checksum, command, text⟩ := request
  rcases Command.exists_of_enters h with ⟨mode, rfl⟩ | rfl
  · have hobey : (kind.apply ⟨target, checksum, .mode (.set mode), text⟩ d).1 = enter mode d := by
      simp only [Kind.apply, if_pos hlistens, Kind.obey]
    rw [hobey]
    refine ⟨rfl, ?_⟩
    rintro other hother
    obtain rfl : mode = other := by simpa using hother
    rfl
  · have hobey : (kind.apply ⟨target, checksum, .restart, text⟩ d).1 =
        enter d.registers.mode (changeOwn kind.restart d) := by
      simp only [Kind.apply, if_pos hlistens, Kind.obey]
    rw [hobey]
    exact ⟨rfl, fun mode hmode => absurd hmode (by simp)⟩

/-- An instrument that does not listen does not accept such a command. -/
theorem apply_of_enters (h : request.command.enters = true)
    (hsilent : d.registers.isListening = false) : kind.apply request d = (d, .ok .silent) := by
  obtain ⟨target, checksum, command, text⟩ := request
  rcases Command.exists_of_enters h with ⟨mode, rfl⟩ | rfl
  · simp [Kind.apply, hsilent]
  · simp [Kind.apply, hsilent]

end Enters

/-! ## Restarts -/

section Restarts

variable {V S R X : Type} {kind : Kind V S R X} {request : Request (Command X)}
  {d : Device (Terminal V R)}

/-- Whether an instrument restarts by a command: the command is a restart, and is obeyed. -/
def restarts (request : Request (Command X)) (d : Device (Terminal V R)) : Bool :=
  match request.command with
  | .restart => d.registers.isListening
  | _ => false

/-- What a restart does. -/
theorem apply_of_restarts (h : restarts request d = true) : kind.apply request d =
    (enter d.registers.mode (changeOwn kind.restart d), .ok (.sayAndWake kind.title)) := by
  obtain ⟨target, checksum, command, text⟩ := request
  unfold restarts at h
  split at h
  · rename_i hcommand
    obtain rfl : command = .restart := hcommand
    simp only [Kind.apply, if_pos h, Kind.obey]
  · exact absurd h Bool.false_ne_true

/-- The opening of the line leaves the registers of its own alone. -/
theorem own_openLine (address : Int) (d : Device (Terminal V R)) :
    (kind.openLine address d).1.registers.own = d.registers.own := by
  rw [Kind.openLine]
  split <;> rfl

/-- Only a restart and the commands of the own kind have anything to do with its registers. -/
theorem own_obey {command : Command X} (h : command ≠ .restart) :
    (kind.obey command d).1.registers.own = d.registers.own ∨
      ∃ own, (kind.obey command d).1 = (kind.applyOwn own d).1 := by
  cases command with
  | restart => exact absurd rfl h
  | own command => exact .inr ⟨command, rfl⟩
  | openLine address => exact .inl (own_openLine address d)
  | interval setting =>
    cases setting with
    | set interval =>
      simp only [Kind.obey, Kind.chooseInterval]
      split <;> exact .inl rfl
    | query => exact .inl rfl
    | invalid text => exact .inl rfl
  | format setting =>
    cases setting with
    | set source =>
      simp only [Kind.obey, Kind.chooseFormat]
      split <;> exact .inl rfl
    | query => exact .inl rfl
    | invalid text => exact .inl rfl
  | mode setting => cases setting <;> exact .inl rfl
  | address setting => cases setting <;> exact .inl rfl
  | run => exact .inl rfl
  | stop => exact .inl rfl
  | send address => exact .inl rfl
  | resetFormat => exact .inl rfl
  | closeLine => exact .inl rfl
  | serialNumber => exact .inl rfl
  | version => exact .inl rfl
  | info => exact .inl rfl
  | unknown word => exact .inl rfl

/-- They are only changed by commands of its own, and by a restart. -/
theorem own_apply (h : restarts request d = false) :
    (kind.apply request d).1.registers.own = d.registers.own ∨
      ∃ own, (kind.apply request d).1 = (kind.applyOwn own d).1 := by
  obtain ⟨target, checksum, command, text⟩ := request
  rw [Kind.apply]
  split
  · exact .inl rfl
  · exact .inl (own_openLine _ d)
  · split
    · rename_i hlistens
      refine own_obey fun hrestart => ?_
      obtain rfl : command = .restart := hrestart
      exact Bool.false_ne_true (h.symm.trans hlistens)
    · exact .inl rfl

end Restarts

/-! ## Settings and schedule -/

section Agrees

variable {V S R X : Type} {kind : Kind V S R X} {d e : Device (Terminal V R)}

/-- The schedule of an instrument is what its settings say. Its mode may also be the continuous one,
since the operator starts and stops the output without choosing another serial mode. -/
structure Agrees (d : Device (Terminal V R)) : Prop where
  interval_eq : d.schedule.interval = milliseconds d.registers.interval d.registers.intervalUnit
  mode_of_poll : d.registers.mode = .poll →
    d.schedule.mode = .polled ∨ d.schedule.mode = .continuous
  mode_of_ne : d.registers.mode ≠ .poll →
    d.schedule.mode = .stopped ∨ d.schedule.mode = .continuous

/-- An instrument agrees with its settings if its interval does and it has just entered a mode. -/
theorem Agrees.of_entered
    (hinterval : d.schedule.interval = milliseconds d.registers.interval d.registers.intervalUnit)
    (hmode : d.schedule.mode = d.registers.mode.outputMode) : Agrees d where
  interval_eq := hinterval
  mode_of_poll hpoll := .inl (by rw [hmode, hpoll, SerialMode.outputMode])
  mode_of_ne hne := by
    rw [hmode]
    cases hserial : d.registers.mode with
    | poll => exact absurd hserial hne
    | run => exact .inr rfl
    | stop => exact .inl rfl
    | send => exact .inl rfl

/-- A new device stands as its terminal says. -/
theorem agrees_new (kind : Kind V S R X) (mode : SerialMode) (address : Nat) :
    Agrees (kind.new mode address) := by
  have hsecond : milliseconds 1 .second = 1000 := by decide
  exact .of_entered hsecond.symm rfl

/-- No command brings the schedule out of line with the settings. -/
theorem Agrees.effect (hown : ∀ (command : X) (d : Device (Terminal V R)),
      ∃ f, (kind.applyOwn command d).1 = changeOwn f d)
    (h : Agrees d) (heffect : Effect kind d e) : Agrees e := by
  cases heffect with
  | unchanged => exact h
  | started => exact ⟨h.interval_eq, fun _ => .inr rfl, fun _ => .inr rfl⟩
  | stopped => exact ⟨h.interval_eq, fun hpoll => .inl (if_pos hpoll), fun hne => .inl (if_neg hne)⟩
  | entered mode => exact .of_entered h.interval_eq rfl
  | restarted => exact .of_entered h.interval_eq rfl
  | interval unit => exact ⟨rfl, h.mode_of_poll, h.mode_of_ne⟩
  | format format => exact ⟨h.interval_eq, h.mode_of_poll, h.mode_of_ne⟩
  | opened isOpen => exact ⟨h.interval_eq, h.mode_of_poll, h.mode_of_ne⟩
  | own command =>
    obtain ⟨f, hf⟩ := hown command d
    rw [hf]
    exact ⟨h.interval_eq, h.mode_of_poll, h.mode_of_ne⟩

/-- The interval of an instrument is one that can be chosen. -/
structure IntervalInRange (kind : Kind V S R X) (d : Device (Terminal V R)) : Prop where
  minInterval_le : kind.minInterval ≤ d.registers.interval
  le_max : d.registers.interval ≤ 255

/-- A new instrument has an interval of one. -/
theorem intervalInRange_new (h : kind.minInterval ≤ 1) (mode : SerialMode) (address : Nat) :
    IntervalInRange kind (kind.new mode address) := ⟨h, show 1 ≤ 255 by decide⟩

/-- Every effect keeps the interval in its range. -/
theorem IntervalInRange.effect (hown : ∀ (command : X) (d : Device (Terminal V R)),
      ∃ f, (kind.applyOwn command d).1 = changeOwn f d)
    (h : IntervalInRange kind d) (heffect : Effect kind d e) : IntervalInRange kind e := by
  cases heffect with
  | interval unit hlow hhigh => exact ⟨hlow, hhigh⟩
  | own command =>
    obtain ⟨f, hf⟩ := hown command d
    rw [hf]
    exact ⟨h.minInterval_le, h.le_max⟩
  | unchanged => exact h
  | started => exact ⟨h.minInterval_le, h.le_max⟩
  | stopped => exact ⟨h.minInterval_le, h.le_max⟩
  | entered mode => exact ⟨h.minInterval_le, h.le_max⟩
  | restarted => exact ⟨h.minInterval_le, h.le_max⟩
  | format format => exact ⟨h.minInterval_le, h.le_max⟩
  | opened isOpen => exact ⟨h.minInterval_le, h.le_max⟩

/-- What the own kind keeps of its registers: its commands, a restart and a sample keep it. -/
structure Kind.OwnInvariant (kind : Kind V S R X) (P : R → Prop) : Prop where
  apply : ∀ (command : X) {d : Device (Terminal V R)}, P d.registers.own →
    P (kind.applyOwn command d).1.registers.own
  restart : ∀ {r : R}, P r → P (kind.restart r)
  observe : ∀ (sample : Sample) {r : R}, P r → P (kind.observe sample r)

/-- The common commands leave the registers of the own kind alone, but for the restart. -/
theorem Kind.OwnInvariant.effect {P : R → Prop} (h : kind.OwnInvariant P)
    (hd : P d.registers.own) (heffect : Effect kind d e) : P e.registers.own := by
  cases heffect with
  | restarted => exact h.restart hd
  | own command => exact h.apply command hd
  | unchanged => exact hd
  | started => exact hd
  | stopped => exact hd
  | entered mode => exact hd
  | interval unit hlow hhigh => exact hd
  | format format => exact hd
  | opened isOpen => exact hd

end Agrees

/-! ## Every run -/

section Operated

variable {V R X : Type} [Instrument (Terminal V R) (Command X)] [Operated V R]
  {maxAddress : Nat}

instance : Timed (Terminal V R) where
  adjusts request d := by
    rw [Operated.apply_eq]
    exact (effect_apply request d).adjusts Operated.own_eq

/-- Every operation keeps the schedule of an instrument in line with its settings. -/
theorem deviceInvariant_agrees : Bus.DeviceInvariant maxAddress (Agrees (V := V) (R := R)) where
  apply {d} request h := by
    rw [Operated.apply_eq]
    exact h.effect Operated.own_eq (effect_apply request d)
  move _ h := ⟨h.interval_eq, h.mode_of_poll, h.mode_of_ne⟩
  observe sample h := by
    rw [Device.mapRegisters, Operated.observe_eq]
    exact ⟨h.interval_eq, h.mode_of_poll, h.mode_of_ne⟩
  markSent _ h := ⟨h.interval_eq, h.mode_of_poll, h.mode_of_ne⟩

/-- So does every operation. -/
theorem deviceInvariant_intervalInRange : Bus.DeviceInvariant maxAddress
    (IntervalInRange (Operated.kind (V := V) (R := R))) where
  apply {d} request h := by
    rw [Operated.apply_eq]
    exact h.effect Operated.own_eq (effect_apply request d)
  move _ h := ⟨h.minInterval_le, h.le_max⟩
  observe sample h := by
    rw [Device.mapRegisters, Operated.observe_eq]
    exact ⟨h.minInterval_le, h.le_max⟩
  markSent _ h := ⟨h.minInterval_le, h.le_max⟩

/-- No operation changes what the own kind keeps of its registers. -/
theorem deviceInvariant_own {P : R → Prop}
    (h : (Operated.kind (V := V) (R := R)).OwnInvariant P) :
    Bus.DeviceInvariant maxAddress fun d : Device (Terminal V R) => P d.registers.own where
  apply {d} request hd := by
    rw [Operated.apply_eq]
    exact h.effect hd (effect_apply request d)
  move _ hd := hd
  observe sample hd := by
    rw [Device.mapRegisters, Operated.observe_eq]
    exact h.observe sample hd
  markSent _ hd := hd

variable [Conducted (Terminal V R)] {bus : Bus (Terminal V R)} {frame : Bytes}
  {request : Request (Command X)} {a : Nat}

/-- A command that has nothing to do with the address leaves every instrument as it has left
itself. -/
theorem get?_dispatch_of_read (hp : bus.WellPlaced)
    (hread : Instrument.read (Terminal V R) frame = .ok request)
    (h : request.command.mayMove = false) (a : Nat) :
    (bus.dispatch frame).1.get? a =
      (bus.get? a).map fun d => (Operated.kind.apply request d).1 := by
  rw [Bus.dispatch_of_read hread (resolve_of_read hread bus),
    (staysPut_of_read hread h).get?_broadcast hp]
  simp only [Operated.apply_eq]

end Operated

/-- What holds of every new instrument holds throughout the bus at the start. -/
theorem Kind.throughout_bus {V S R X : Type} {kind : Kind V S R X}
    {P : Device (Terminal V R) → Prop} {count : Nat} {start : Bus (Terminal V R)}
    (hnew : ∀ mode address, address < kind.maxCount → P (kind.new mode address))
    (h : kind.bus count = .ok start) : start.Throughout kind.maxAddress P := by
  rw [Kind.bus] at h
  split at h
  · exact absurd h (by simp)
  · rename_i hcount
    refine Bus.throughout_of_insertAll (fun d hd => ?_) h
    obtain ⟨address, haddress, rfl⟩ := List.mem_map.1 hd
    rw [List.mem_range] at haddress
    exact hnew _ address (by omega)

section Runs

variable {V R X : Type} [Instrument (Terminal V R) (Command X)] [Operated V R]
  [Conducted (Terminal V R)] {count : Nat} {start : Bus (Terminal V R)}

/-- What every operation keeps, and what holds of every new instrument, holds after every run. -/
theorem throughout_run {P : Device (Terminal V R) → Prop}
    (hkept : Bus.DeviceInvariant (Operated.kind (V := V) (R := R)).maxAddress P)
    (hnew : ∀ mode address, P ((Operated.kind (V := V) (R := R)).new mode address))
    (h : (Operated.kind (V := V) (R := R)).bus count = .ok start)
    (operations : List Bus.Operation) :
    (start.run operations).Throughout (Operated.kind (V := V) (R := R)).maxAddress P :=
  hkept.invariant.run operations (Kind.throughout_bus (fun mode address _ => hnew mode address) h)

/-- After every run, the schedules are what the settings say. -/
theorem agrees_run (h : (Operated.kind (V := V) (R := R)).bus count = .ok start)
    (operations : List Bus.Operation) :
    (start.run operations).Throughout (Operated.kind (V := V) (R := R)).maxAddress Agrees :=
  throughout_run deviceInvariant_agrees (agrees_new _) h operations

/-- After every run, the intervals are some that can be chosen. -/
theorem intervalInRange_run (hone : (Operated.kind (V := V) (R := R)).minInterval ≤ 1)
    (h : (Operated.kind (V := V) (R := R)).bus count = .ok start)
    (operations : List Bus.Operation) :
    (start.run operations).Throughout (Operated.kind (V := V) (R := R)).maxAddress
      (IntervalInRange Operated.kind) :=
  throughout_run deviceInvariant_intervalInRange (intervalInRange_new hone) h operations

/-- After every run, the registers of the own kind are as it keeps them. -/
theorem own_run {P : R → Prop} (hown : (Operated.kind (V := V) (R := R)).OwnInvariant P)
    (hinitial : P (Operated.kind (V := V) (R := R)).initial)
    (h : (Operated.kind (V := V) (R := R)).bus count = .ok start)
    (operations : List Bus.Operation) :
    (start.run operations).Throughout (Operated.kind (V := V) (R := R)).maxAddress
      fun d => P d.registers.own :=
  throughout_run (deviceInvariant_own hown) (fun _ _ => hinitial) h operations

end Runs

end Terminal

end WeatherBus
