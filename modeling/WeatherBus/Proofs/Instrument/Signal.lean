import WeatherBus.Instrument

/-! # Commands that change a schedule

The sender of an emulator sleeps until the next message is due. A command that changes a schedule
has to ask for it, so that it looks at the schedules again.

* **`Signals`** — a command asks for the sender if it changes the schedule of its device;
* **`Signaling`** — a kind of instrument whose commands all do. -/

namespace WeatherBus

/-- A command that is carried out without asking for the sender leaves the schedule of its device
alone. Nothing is said of a command that is refused: the bus asks for the sender then. -/
structure Signals {R : Type} (d : Device R) (result : Device R × Except Fault Outcome) :
    Prop where
  schedule_eq : ∀ {outcome : Outcome}, result.2 = .ok outcome → outcome.wake = false →
    result.1.schedule = d.schedule

namespace Signals

variable {R : Type} {d e : Device R} {outcome : Outcome} {fault : Fault}

/-- A command that leaves the schedule alone. -/
theorem kept {result : Except Fault Outcome} (h : e.schedule = d.schedule) :
    Signals d (e, result) := ⟨fun _ _ => h⟩

/-- A command that asks for the sender. -/
theorem announced (h : outcome.wake = true) : Signals d (e, .ok outcome) where
  schedule_eq ho hw := by
    obtain rfl := Except.ok.inj ho
    rw [h] at hw
    exact absurd hw (by decide)

/-- A command that is refused. -/
theorem refused : Signals d (e, .error fault) where
  schedule_eq ho := absurd ho (by simp)

end Signals

/-- A kind of instrument whose commands ask for the sender if they change the schedule. -/
class Signaling (R : Type) {C : outParam Type} [Instrument R C] : Prop where
  signals : ∀ (request : Request C) (d : Device R), Signals d (Instrument.apply request d)

end WeatherBus
