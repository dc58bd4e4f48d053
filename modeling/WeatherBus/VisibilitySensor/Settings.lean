import WeatherBus.Fault
import WeatherBus.Schedule

/-! # Settings of the visibility sensor

All settings are changed by one command with a field for each of them. A field that is left out
keeps its setting, and so does one that is out of range.

* **`SettingsUpdate.fault?`** — the first field that is refused;
* **`Settings.update`** — the settings after all other fields have been taken over. -/

namespace WeatherBus

namespace VisibilitySensor

/-- What a message holds. -/
inductive MessageFormat where
  /-- The first four fields. -/
  | standard
  /-- The fields of a mask. -/
  | custom
deriving DecidableEq, Repr

/-- The unit of visibilities. -/
inductive LengthUnit where
  | metre
  | foot
deriving DecidableEq, Repr

/-- The settings of a sensor, its address aside. -/
structure Settings where
  /-- The interval of the continuous mode in seconds. -/
  interval : Nat := 60
  format : MessageFormat := .standard
  mode : OutputMode := .polled
  /-- The code of the line speed. -/
  baud : Nat := 4
  unit : LengthUnit := .metre
  /-- How many samples make up a visibility. -/
  averaging : Nat := 1
  /-- Whether frames without a checksum are refused. -/
  checked : Bool := true
deriving DecidableEq, Repr

/-- A change of the settings. Fields that are `none` are left alone. -/
structure SettingsUpdate where
  id : Option Int := none
  interval : Option Int := none
  format : Option Int := none
  mode : Option Int := none
  baud : Option Int := none
  unit : Option Int := none
  averaging : Option Int := none
  checked : Option Int := none
deriving DecidableEq, Repr

/-- The largest address of a sensor. -/
def maxId : Nat := 9

/-- The longest interval in seconds. -/
def maxInterval : Nat := 3600

/-- The largest code of a line speed. -/
def maxBaud : Nat := 7

/-- A field that is present and at most `high`. -/
def upTo? (high : Nat) (field : Option Int) : Option Nat :=
  match field with
  | some n => if 0 ≤ n ∧ n ≤ high then some n.toNat else none
  | none => none

/-- The fault of a field that is present and larger than `high`, or negative. -/
def beyond? (name : String) (high : Nat) (field : Option Int) : Option Fault :=
  match field with
  | some n => if 0 ≤ n ∧ n ≤ high then none else some (.outOfWholeRange name n 0 high)
  | none => none

/-- The number of samples, if it is one of the two that can be chosen. -/
def sampleCount? (field : Option Int) : Option Nat :=
  match field with
  | some n => if n = 1 ∨ n = 10 then some n.toNat else none
  | none => none

/-- The fault of a number of samples that cannot be chosen. -/
def wrongSampleCount? (field : Option Int) : Option Fault :=
  match field with
  | some n =>
    if n = 1 ∨ n = 10 then none
    else some (.invalidParameter s!"averaging must be 1 or 10, got {n}")
  | none => none

namespace SettingsUpdate

/-- The address that is asked for. -/
def newId? (u : SettingsUpdate) : Option Nat := upTo? maxId u.id

/-- The first field that is refused. -/
def fault? (u : SettingsUpdate) : Option Fault :=
  Fault.first?
    [beyond? "id" maxId u.id, beyond? "interval" maxInterval u.interval,
      beyond? "format" 1 u.format, beyond? "mode" 1 u.mode, beyond? "baud" maxBaud u.baud,
      beyond? "units" 1 u.unit, wrongSampleCount? u.averaging, beyond? "crc" 1 u.checked]

end SettingsUpdate

namespace Settings

/-- Take over all fields that are in their range. -/
def update (u : SettingsUpdate) (s : Settings) : Settings where
  interval := (upTo? maxInterval u.interval).getD s.interval
  format := ((upTo? 1 u.format).map fun n => if n = 0 then .standard else .custom).getD s.format
  mode := ((upTo? 1 u.mode).map fun n => if n = 0 then .polled else .continuous).getD s.mode
  baud := (upTo? maxBaud u.baud).getD s.baud
  unit := ((upTo? 1 u.unit).map fun n => if n = 0 then .metre else .foot).getD s.unit
  averaging := (sampleCount? u.averaging).getD s.averaging
  checked := ((upTo? 1 u.checked).map (· == 1)).getD s.checked

/-- The settings in the order of the fields of their command, with the address in front. -/
def render (id : Nat) (s : Settings) : Text :=
  List.intercalate [':'] <| List.map Numeral.ofNat
    [id, s.interval, (match s.format with | .standard => 0 | .custom => 1),
      (if s.mode = .continuous then 1 else 0), s.baud,
      (match s.unit with | .metre => 0 | .foot => 1), s.averaging, s.checked.toNat]

/-- The schedule that the settings ask for. -/
def reschedule (s : Settings) (schedule : Schedule) : Schedule :=
  (schedule.setInterval (s.interval * 1000)).setMode s.mode

end Settings

end VisibilitySensor

end WeatherBus
