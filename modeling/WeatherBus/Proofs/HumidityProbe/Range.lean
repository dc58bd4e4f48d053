import WeatherBus.Proofs.SharedLine
import WeatherBus.Proofs.Terminal.Effect

/-! # The ranges of a humidity probe

* **`HumidityProbe.InRange`** — the limits of the heating are in their ranges;
* **`HumidityProbe.ownInvariant_inRange`** — no command changes that. -/

namespace WeatherBus

namespace HumidityProbe

/-- The limits of the heating are in their ranges. -/
structure Heating.InRange (h : Heating) : Prop where
  /-- In percent. -/
  humidityLimit_le : h.humidityLimit ≤ 100
  /-- In degrees Celsius. -/
  temperature_le : h.temperature ≤ 200
  /-- In seconds. -/
  time_le : h.time ≤ 255

/-- The settings of a probe, those of its terminal aside, are in their ranges. -/
def InRange (p : HumidityProbe) : Prop := p.heating.InRange

/-- The limits of a new probe are in their ranges. -/
theorem inRange_initial : InRange {} where
  humidityLimit_le := by decide
  temperature_le := by decide
  time_le := by decide

/-- A limit that is chosen is within its bound. -/
theorem chooseLimit_le {high old : Nat} (h : old ≤ high) (name : String) (field : Option Int) :
    (chooseLimit name high field old).1 ≤ high := by
  unfold chooseLimit
  split
  · exact h
  · split
    · simp only
      omega
    · exact h

/-- Limits that are refused stay as they were. -/
theorem Heating.InRange.update {h : Heating} (hh : h.InRange)
    (humidity temperature time : Option Int) :
    (h.update humidity temperature time).1.InRange where
  humidityLimit_le := chooseLimit_le hh.humidityLimit_le _ humidity
  temperature_le := chooseLimit_le hh.temperature_le _ temperature
  time_le := chooseLimit_le hh.time_le _ time

/-- The commands of its own keep the limits in their ranges. -/
theorem inRange_apply (command : Command) {d : Device Registers} (h : InRange d.registers.own) :
    InRange (apply command d).1.registers.own := by
  cases command with
  | units setting =>
    cases setting with
    | query => exact h
    | set units => exact h
    | invalid text => exact h
  | heating setting =>
    match setting with
    | .query => exact h
    | .set (.enable enabled) => exact ⟨h.humidityLimit_le, h.temperature_le, h.time_le⟩
    | .set (.limits humidity temperature time) => exact h.update humidity temperature time
    | .invalid text => exact h

/-- A restart and a sample leave the limits alone. -/
theorem ownInvariant_inRange : kind.OwnInvariant InRange where
  apply command _ h := inRange_apply command h
  restart h := h
  observe _ _ h := h

end HumidityProbe

end WeatherBus
