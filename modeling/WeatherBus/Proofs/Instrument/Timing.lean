import WeatherBus.Proofs.Instrument.Conduct

/-! # Commands that change a schedule once

A schedule forgets the last message when the continuous mode is entered. That a device has been in
the continuous mode before and after a command tells that nothing was forgotten, because no command
leaves the mode and enters it again.

* **`Schedule.Adjusts`** — a schedule after one change of interval and mode;
* **`Timed`** — a kind of instrument whose commands change a schedule once at most. -/

namespace WeatherBus

namespace Schedule

variable {s t : Schedule}

/-- A schedule after one change of interval and mode. Either may be the old one. -/
def Adjusts (s t : Schedule) : Prop :=
  ∃ interval mode, t = (s.setInterval interval).setMode mode

/-- A schedule that stays is adjusted, to what it was. -/
@[simp] theorem Adjusts.refl (s : Schedule) : s.Adjusts s := by
  refine ⟨s.interval, s.mode, ?_⟩
  cases s
  simp [setInterval, setMode]

/-- So is one with another mode. -/
@[simp] theorem adjusts_setMode (mode : OutputMode) (s : Schedule) : s.Adjusts (s.setMode mode) :=
  ⟨s.interval, mode, rfl⟩

/-- And so is one with another interval. -/
@[simp] theorem adjusts_setInterval (interval : Nat) (s : Schedule) :
    s.Adjusts (s.setInterval interval) := by
  refine ⟨interval, s.mode, ?_⟩
  cases s
  simp [setInterval, setMode]

/-- What is adjusted follows. -/
theorem Adjusts.follows (h : s.Adjusts t) : s.Follows t := by
  obtain ⟨interval, mode, rfl⟩ := h
  exact (follows_setInterval interval s).trans (follows_setMode mode _)

/-- In a schedule that stays in the continuous mode the last message stays, too. -/
theorem Adjusts.lastSent_eq (h : s.Adjusts t) (hs : s.mode = .continuous) :
    t.lastSent = s.lastSent := by
  obtain ⟨interval, mode, rfl⟩ := h
  rw [lastSent_setMode, if_neg fun hentered => hentered.2 hs]
  rfl

end Schedule

/-- A kind of instrument whose commands change a schedule once at most. -/
class Timed (R : Type) {C : outParam Type} [Instrument R C] : Prop where
  adjusts : ∀ (request : Request C) (d : Device R),
    d.schedule.Adjusts (Instrument.apply request d).1.schedule

end WeatherBus
