import WeatherBus.Failure
import WeatherBus.Text.Basic

/-! # The configuration of an emulator

* **`ElectricalMode.ofText`** — the electrical interface of a name;
* **`Config.check`** — a configuration whose parts fit together. -/

namespace WeatherBus

/-- The electrical interface of a line. -/
inductive ElectricalMode where
  | rs232
  | rs422
  | rs485
  | sdi12
deriving DecidableEq, Repr

namespace ElectricalMode

/-- The name of an interface. -/
def name : ElectricalMode → Text
  | rs232 => "RS-232".toList
  | rs422 => "RS-422".toList
  | rs485 => "RS-485".toList
  | sdi12 => "SDI-12".toList

/-- The interfaces by their names in small letters and without hyphen. -/
def byName : List (Text × ElectricalMode) :=
  [("rs232".toList, rs232), ("rs422".toList, rs422), ("rs485".toList, rs485),
    ("sdi12".toList, sdi12)]

/-- The interface of a name. Case, hyphens and underscores do not matter. -/
def ofText (t : Text) : Except Failure ElectricalMode :=
  match byName.lookup ((Text.lower t).filter fun c => c ≠ '-' && c ≠ '_') with
  | some mode => .ok mode
  | none => .error (.invalidConfig s!"unknown electrical mode: {String.ofList t}")

/-- Whether several devices can share a line. -/
def isShared : ElectricalMode → Bool
  | rs485 | sdi12 => true
  | rs232 | rs422 => false

end ElectricalMode

namespace Emulator

/-- The configuration of an emulator. -/
structure Config where
  /-- The name of the serial port, or a network address. -/
  port : Text
  baud : Nat
  electrical : ElectricalMode
  /-- The file of the measurement feed. -/
  feed : Text
  /-- The number of devices. -/
  devices : Nat
  /-- For how long one read waits, in milliseconds. -/
  readTimeout : Nat := 50
deriving DecidableEq, Repr

namespace Config

/-- The speeds of a line that can be chosen. -/
def baudRates : List Nat := [1200, 2400, 4800, 9600, 19200, 38400, 57600, 115200]

/-- The largest number of devices. -/
def maxDevices : Nat := 99

/-- The longest frame in bytes, unless another limit is set. -/
def maxFrame : Nat := 512

/-- The first reason, if any, for which the parts of a configuration do not fit together. -/
def fault? (config : Config) : Option String :=
  if (Text.trim config.port).isEmpty then some "serial port is empty"
  else if !baudRates.contains config.baud then
    let rates := ", ".intercalate (baudRates.map toString)
    some s!"unsupported baud rate {config.baud}, use one of [{rates}]"
  else if config.electrical = .sdi12 ∧ config.baud ≠ 1200 then some "SDI-12 runs at 1200 baud"
  else if config.devices = 0 ∨ maxDevices < config.devices then
    some s!"number of devices must be between 1 and {maxDevices}"
  else if 1 < config.devices ∧ !config.electrical.isShared then
    let name := String.ofList config.electrical.name
    some s!"{name} is point to point, multiple devices need RS-485 or SDI-12"
  else none

/-- A configuration whose parts fit together. -/
def check (config : Config) : Except Failure Config :=
  match config.fault? with
  | some reason => .error (.invalidConfig reason)
  | none => .ok config

end Config

end Emulator

end WeatherBus
