import WeatherBus.Schedule
import WeatherBus.Text.Basic

/-! # Devices

A device is what all kinds of instruments have in common, with the registers of its own kind of type
`R`. -/

namespace WeatherBus

/-- One device on a bus. -/
structure Device (R : Type) where
  /-- The address it answers to. -/
  address : Nat
  /-- The serial number on its plate, empty where its kind has none. -/
  serial : Text
  /-- When it sends on its own. -/
  schedule : Schedule
  /-- Settings and samples of its kind. -/
  registers : R
deriving DecidableEq, Repr

namespace Device

/-- Change the registers. -/
def mapRegisters {R : Type} (f : R → R) (d : Device R) : Device R :=
  { d with registers := f d.registers }

/-- Change the schedule. -/
def mapSchedule {R : Type} (f : Schedule → Schedule) (d : Device R) : Device R :=
  { d with schedule := f d.schedule }

end Device

end WeatherBus
