import WeatherBus.Device
import WeatherBus.Format.Basic

/-! # Instruments with an operator's terminal

Some instruments talk to an operator in words. On a shared line they keep silent until the operator
opens the line to one of them.

* **`Terminal`** — mode, interval and format of such an instrument, with the registers of its own
  kind;
* **`Terminal.isListening`** — whether it obeys commands;
* **`Terminal.report`** — one line of an answer: a label and a value. -/

namespace WeatherBus

/-- What an instrument does on its line after a start. -/
inductive SerialMode where
  /-- Wait for commands. -/
  | stop
  /-- Send measurements on its own. -/
  | run
  /-- Keep silent up to its address is called. -/
  | poll
  /-- Wait for commands, like `stop`. -/
  | send
deriving DecidableEq, Repr

namespace SerialMode

/-- All modes. -/
def all : List SerialMode := [.stop, .run, .poll, .send]

/-- The word of a mode. -/
def label : SerialMode → Text
  | stop => "STOP".toList
  | run => "RUN".toList
  | poll => "POLL".toList
  | send => "SEND".toList

/-- The mode of a word, the case of letters aside. -/
def ofLabel? (t : Text) : Option SerialMode := all.find? fun mode => Text.alike mode.label t

/-- The output mode after a start. -/
def outputMode : SerialMode → OutputMode
  | run => .continuous
  | poll => .polled
  | stop | send => .stopped

end SerialMode

/-- The unit of an interval. -/
inductive IntervalUnit where
  | second
  | minute
  | hour
deriving DecidableEq, Repr

namespace IntervalUnit

/-- All units. -/
def all : List IntervalUnit := [.second, .minute, .hour]

/-- The short name of a unit. -/
def label : IntervalUnit → Text
  | second => ['s']
  | minute => "min".toList
  | hour => ['h']

/-- The unit of a short name, the case of letters aside. -/
def ofLabel? (t : Text) : Option IntervalUnit := all.find? fun unit => Text.alike unit.label t

/-- A unit in milliseconds. -/
def milliseconds : IntervalUnit → Nat
  | second => 1000
  | minute => 60000
  | hour => 3600000

end IntervalUnit

/-- Settings of an instrument with a terminal. `V` are the variables of its formats, `R` the
registers of its own kind. -/
structure Terminal (V R : Type) where
  mode : SerialMode
  /-- Whether the operator has opened the line to this instrument. -/
  isOpen : Bool := false
  interval : Nat := 1
  intervalUnit : IntervalUnit := .second
  /-- The format of measurements, `none` for the one it comes with. -/
  format : Option (Format V) := none
  own : R
deriving DecidableEq, Repr

namespace Terminal

variable {V R : Type}

/-- On a shared line an instrument obeys commands only while the line is open to it. -/
def isListening (t : Terminal V R) : Bool := t.mode ≠ .poll || t.isOpen

/-- The interval in milliseconds. An interval of zero stands for one second. -/
def milliseconds (value : Nat) (unit : IntervalUnit) : Nat :=
  if value = 0 then 1000 else value * unit.milliseconds

/-- Change the registers of the own kind. -/
def mapOwn (f : R → R) (t : Terminal V R) : Terminal V R := { t with own := f t.own }

/-! ## Changing a device -/

/-- Enter a mode. This closes the line. -/
def enter (mode : SerialMode) (d : Device (Terminal V R)) : Device (Terminal V R) :=
  { d with
    schedule := d.schedule.setMode mode.outputMode
    registers := { d.registers with mode, isOpen := false } }

/-- Choose the interval of the continuous output. -/
def setInterval (value : Nat) (unit : IntervalUnit) (d : Device (Terminal V R)) :
    Device (Terminal V R) :=
  { d with
    schedule := d.schedule.setInterval (milliseconds value unit)
    registers := { d.registers with interval := value, intervalUnit := unit } }

/-- Start the continuous output. -/
def start (d : Device (Terminal V R)) : Device (Terminal V R) := d.mapSchedule Schedule.start

/-- Stop the continuous output. -/
def stop (d : Device (Terminal V R)) : Device (Terminal V R) :=
  d.mapSchedule (·.setMode (if d.registers.mode = .poll then .polled else .stopped))

/-- Open or close the line. -/
def setOpen (isOpen : Bool) (d : Device (Terminal V R)) : Device (Terminal V R) :=
  d.mapRegisters ({ · with isOpen })

/-- Change the registers of the own kind of a device. -/
def changeOwn (f : R → R) (d : Device (Terminal V R)) : Device (Terminal V R) :=
  d.mapRegisters (mapOwn f)

/-! ## Answers -/

/-- One line of an answer. -/
def report (label : String) (value : Text) : Text :=
  Text.padRight 15 label.toList ++ ':' :: ' ' :: value

/-- Several lines of an answer. -/
def lines (lines : List Text) : Text := List.intercalate ['\r', '\n'] lines

/-- The mode as an answer. -/
def modeReport (t : Terminal V R) : Text := report "Serial mode" t.mode.label

/-- The interval as an answer. -/
def intervalReport (t : Terminal V R) : Text :=
  report "Output intrv." (Numeral.ofNat t.interval ++ ' ' :: t.intervalUnit.label)

/-- `ON` or `OFF`. -/
def switch (isOn : Bool) : Text := if isOn then "ON".toList else "OFF".toList

end Terminal

end WeatherBus
