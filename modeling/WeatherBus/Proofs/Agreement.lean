import WeatherBus.Proofs.SharedLine
import WeatherBus.Proofs.Terminal.Effect
import WeatherBus.Proofs.VisibilitySensor.Effect

/-! # Settings and schedules

Visibility sensors, digital barometers and humidity probes keep mode and interval twice: among their
settings, which they report, and in the schedule by which they send.

* **`Terminal.ModeAgrees`** — the output modes of instruments with a terminal are those of their
  serial modes;
* **`Terminal.Lasts`** — how long a number of seconds, minutes or hours is;
* **`schedules_follow_settings`** — after every run, the schedules of all devices are what their
  settings say. -/

namespace WeatherBus

namespace Terminal

section ModeAgrees

variable {V R X : Type} [Instrument (Terminal V R) (Command X)]

/-- The output modes of the instruments on a bus are those of their serial modes. -/
structure ModeAgrees (bus : Bus (Terminal V R)) : Prop where
  /-- In POLL mode the output has been started by the operator, or it waits for the next call. -/
  polled : ∀ {a : Nat} {d : Device (Terminal V R)}, bus.get? a = some d →
    d.registers.mode = .poll → d.schedule.mode = .polled ∨ d.schedule.mode = .continuous
  stopped : ∀ {a : Nat} {d : Device (Terminal V R)}, bus.get? a = some d →
    d.registers.mode ≠ .poll → d.schedule.mode = .stopped ∨ d.schedule.mode = .continuous
  /-- Right after a command that enters a mode, an instrument that has accepted it has the output
  mode of its serial mode, and this is the one that was set. -/
  entered : ∀ {frame : Bytes} {request : Request (Command X)},
    Instrument.read (Terminal V R) frame = .ok request → request.command.enters = true →
    ∀ {a : Nat} {d : Device (Terminal V R)}, bus.get? a = some d →
      d.registers.isListening = true →
      ∃ e, (bus.dispatch frame).1.get? a = some e ∧
        e.schedule.mode = e.registers.mode.outputMode ∧
        ∀ mode, request.command = .mode (.set mode) → e.registers.mode = mode
  /-- The others stay as they are. -/
  ignored : ∀ {frame : Bytes} {request : Request (Command X)},
    Instrument.read (Terminal V R) frame = .ok request → request.command.enters = true →
    ∀ {a : Nat} {d : Device (Terminal V R)}, bus.get? a = some d →
      d.registers.isListening = false → (bus.dispatch frame).1.get? a = some d

variable [Operated V R] [Conducted (Terminal V R)] {bus : Bus (Terminal V R)} {maxAddress : Nat}

/-- If every device stands as its terminal says, the modes agree after every frame. -/
theorem modeAgrees_of_agrees (h : bus.Throughout maxAddress Agrees) : ModeAgrees bus where
  polled hd := (h.2.2 hd).mode_of_poll
  stopped hd := (h.2.2 hd).mode_of_ne
  entered {frame request} hread henters {a d} hd hlistens := by
    refine ⟨(Operated.kind.apply request d).1, ?_, mode_apply_of_enters henters hlistens⟩
    rw [get?_dispatch_of_read h.1 hread (Command.mayMove_of_enters henters), hd, Option.map_some]
  ignored {frame request} hread henters {a d} hd hsilent := by
    rw [get?_dispatch_of_read h.1 hread (Command.mayMove_of_enters henters), hd, Option.map_some,
      apply_of_enters henters hsilent]

end ModeAgrees

/-! ## Lengths of time -/

/-- A number of seconds, minutes or hours is so many milliseconds long. -/
inductive Lasts (value : Nat) : IntervalUnit → Nat → Prop where
  | seconds : Lasts value .second (value * 1000)
  | minutes : Lasts value .minute (value * 60 * 1000)
  | hours : Lasts value .hour (value * 60 * 60 * 1000)

/-- A length of time in any unit is the number times the length of the unit. -/
theorem lasts_iff {value total : Nat} {unit : IntervalUnit} :
    Lasts value unit total ↔ total = value * unit.milliseconds := by
  constructor
  · intro h
    cases h with
    | seconds => rfl
    | minutes => exact Nat.mul_assoc value 60 1000
    | hours => exact (congrArg (· * 1000) (Nat.mul_assoc value 60 60)).trans (Nat.mul_assoc ..)
  · intro h
    cases unit with
    | second => exact h ▸ .seconds
    | minute =>
      have htotal : total = value * 60 * 1000 := h.trans (Nat.mul_assoc value 60 1000).symm
      exact htotal ▸ .minutes
    | hour =>
      have htotal : total = value * 60 * 60 * 1000 := by
        rw [h, Nat.mul_assoc, Nat.mul_assoc]
        rfl
      exact htotal ▸ .hours

/-- The interval of an instrument that agrees with its settings is as long as they say, unless it is
zero. -/
theorem lasts_of_agrees {V R : Type} {d : Device (Terminal V R)} (h : Agrees d)
    (hne : d.registers.interval ≠ 0) :
    Lasts d.registers.interval d.registers.intervalUnit d.schedule.interval := by
  rw [lasts_iff, h.interval_eq, milliseconds, if_neg hne]

end Terminal

/-! ## All devices with two copies -/

/-- On a bus of any size and after every run, the schedule of every visibility sensor has mode and
interval of the settings in force, those of digital barometers and humidity probes have the interval
that has been chosen, in the unit that has been chosen, and their modes are those of the serial
modes. For a humidity probe an interval of zero is one second. -/
theorem schedules_follow_settings :
    (∀ {count : Nat} {start : Bus VisibilitySensor}, VisibilitySensor.bus count = .ok start →
      ∀ operations {a d}, (start.run operations).get? a = some d →
        d.schedule.mode = d.registers.active.mode ∧
        d.schedule.interval = d.registers.active.interval * 1000) ∧
    (∀ {count : Nat} {start : Bus DigitalBarometer.Registers},
      DigitalBarometer.kind.bus count = .ok start → ∀ operations,
        (∀ {a d}, (start.run operations).get? a = some d →
          Terminal.Lasts d.registers.interval d.registers.intervalUnit d.schedule.interval) ∧
        Terminal.ModeAgrees (start.run operations)) ∧
    (∀ {count : Nat} {start : Bus HumidityProbe.Registers},
      HumidityProbe.kind.bus count = .ok start → ∀ operations,
        (∀ {a d}, (start.run operations).get? a = some d →
          (d.registers.interval = 0 → d.schedule.interval = 1000) ∧
          (d.registers.interval ≠ 0 →
            Terminal.Lasts d.registers.interval d.registers.intervalUnit d.schedule.interval)) ∧
        Terminal.ModeAgrees (start.run operations)) := by
  refine ⟨fun {count start} h operations {a d} hd => ?_,
    fun {count start} h operations => ⟨fun {a d} hd => ?_, ?_⟩,
    fun {count start} h operations => ⟨fun {a d} hd => ?_, ?_⟩⟩
  · have hagrees := (VisibilitySensor.agrees_run h operations).2.2 hd
    exact ⟨hagrees.mode_eq, hagrees.interval_eq⟩
  · -- An interval of zero cannot be chosen, so it need not stand for anything.
    have hpositive := Terminal.intervalInRange_run (Nat.le_refl 1) h operations
    exact Terminal.lasts_of_agrees ((Terminal.agrees_run h operations).2.2 hd)
      (Nat.ne_of_gt (hpositive.2.2 hd).minInterval_le)
  · exact Terminal.modeAgrees_of_agrees (Terminal.agrees_run h operations)
  · have hagrees := (Terminal.agrees_run h operations).2.2 hd
    refine ⟨fun hzero => ?_, Terminal.lasts_of_agrees hagrees⟩
    rw [hagrees.interval_eq, Terminal.milliseconds, if_pos hzero]
  · exact Terminal.modeAgrees_of_agrees (Terminal.agrees_run h operations)

/-- A sensor that refuses one of the fields takes over the interval in another one. A barometer that
is told to send every two minutes does so, and of two barometers the one to which the line is open
is started and sends continuously. A probe may be told to send every three hours, or every zero
minutes, which is every second. -/
theorem schedules_follow_settings_opened :
    let refused := Bus.Operation.dispatch (VisibilitySensor.frame "SET:1::30:::::5".toList)
    let slow := Bus.Operation.dispatch (Utf8.encode "INTV 2 MIN".toList)
    let opening := Bus.Operation.dispatch (Utf8.encode "OPEN 1".toList)
    let running := Utf8.encode "SMODE RUN".toList
    let lazy := Bus.Operation.dispatch (Utf8.encode "INTV 3 H".toList)
    let hurrying := Bus.Operation.dispatch (Utf8.encode "INTV 0 MIN".toList)
    (∃ start d, VisibilitySensor.bus 2 = .ok start ∧
      (start.run [refused]).get? 1 = some d ∧ d.schedule.interval = 30000) ∧
    (∃ start d, DigitalBarometer.kind.bus 1 = .ok start ∧
      (start.run [slow]).get? 0 = some d ∧ d.schedule.interval = 120000) ∧
    (∃ start e, DigitalBarometer.kind.bus 2 = .ok start ∧
      ((start.run [opening]).dispatch running).1.get? 1 = some e ∧
      e.schedule.mode = .continuous) ∧
    (∃ start d, HumidityProbe.kind.bus 1 = .ok start ∧
      (start.run [lazy]).get? 0 = some d ∧ d.schedule.interval = 10800000) ∧
    ∃ start d, HumidityProbe.kind.bus 1 = .ok start ∧
      (start.run [hurrying]).get? 0 = some d ∧ d.schedule.interval = 1000 := by
  intro refused slow opening running lazy hurrying
  refine ⟨?_, ?_, ?_, ?_, ?_⟩
  · obtain ⟨start, hstart, hsome⟩ : ∃ start, VisibilitySensor.bus 2 = .ok start ∧
        ((start.run [refused]).get? 1).map (·.registers.active.interval) = some 30 :=
      ⟨_, rfl, by decide +kernel⟩
    obtain ⟨d, hd, hinterval⟩ := Option.map_eq_some_iff.1 hsome
    have hschedule := (schedules_follow_settings.1 hstart [refused] hd).2
    rw [hinterval] at hschedule
    exact ⟨start, d, hstart, hd, hschedule⟩
  · obtain ⟨start, hstart, hsome⟩ : ∃ start, DigitalBarometer.kind.bus 1 = .ok start ∧
        ((start.run [slow]).get? 0).map
          (fun d => (d.registers.interval, d.registers.intervalUnit)) = some (2, .minute) :=
      ⟨_, rfl, by decide +kernel⟩
    obtain ⟨d, hd, hsettings⟩ := Option.map_eq_some_iff.1 hsome
    obtain ⟨hinterval, hunit⟩ := Prod.mk.inj hsettings
    have hlasts := (schedules_follow_settings.2.1 hstart [slow]).1 hd
    rw [hinterval, hunit] at hlasts
    exact ⟨start, d, hstart, hd, Terminal.lasts_iff.1 hlasts⟩
  · obtain ⟨start, hstart, hsome⟩ : ∃ start, DigitalBarometer.kind.bus 2 = .ok start ∧
        ((start.run [opening]).get? 1).map (·.registers.isListening) = some true :=
      ⟨_, rfl, by decide +kernel⟩
    obtain ⟨d, hd, hlistens⟩ := Option.map_eq_some_iff.1 hsome
    have hread : Instrument.read DigitalBarometer.Registers running =
        .ok ⟨.all, .absent, .mode (.set .run), "SMODE RUN".toList⟩ := by decide +kernel
    obtain ⟨e, he, hmode, hset⟩ :=
      (schedules_follow_settings.2.1 hstart [opening]).2.entered hread rfl hd hlistens
    rw [hset .run rfl] at hmode
    exact ⟨start, e, hstart, he, hmode⟩
  · obtain ⟨start, hstart, hsome⟩ : ∃ start, HumidityProbe.kind.bus 1 = .ok start ∧
        ((start.run [lazy]).get? 0).map
          (fun d => (d.registers.interval, d.registers.intervalUnit)) = some (3, .hour) :=
      ⟨_, rfl, by decide +kernel⟩
    obtain ⟨d, hd, hsettings⟩ := Option.map_eq_some_iff.1 hsome
    obtain ⟨hinterval, hunit⟩ := Prod.mk.inj hsettings
    have hlasts := ((schedules_follow_settings.2.2 hstart [lazy]).1 hd).2
    rw [hinterval, hunit] at hlasts
    exact ⟨start, d, hstart, hd, Terminal.lasts_iff.1 (hlasts (by decide))⟩
  · obtain ⟨start, hstart, hsome⟩ : ∃ start, HumidityProbe.kind.bus 1 = .ok start ∧
        ((start.run [hurrying]).get? 0).map (·.registers.interval) = some 0 :=
      ⟨_, rfl, by decide +kernel⟩
    obtain ⟨d, hd, hinterval⟩ := Option.map_eq_some_iff.1 hsome
    exact ⟨start, d, hstart, hd,
      ((schedules_follow_settings.2.2 hstart [hurrying]).1 hd).1 hinterval⟩

end WeatherBus
