import WeatherBus.Frame.Line
import WeatherBus.Keyword
import WeatherBus.Parameter
import WeatherBus.Request

/-! # Commands of the bus barometer

A command is a line: an address in front, a letter, parameters behind commas, and a checksum behind
`*`. Without an address it is for all barometers. Parameters that cannot be read count as 0.

* **`BusBarometer.Command.read`** — the request of a line. -/

namespace WeatherBus

namespace BusBarometer

/-- The commands of the bus barometer. -/
inductive Command where
  | queryAutoSend
  /-- Choose the format of the measurements and the interval in seconds. -/
  | autoSend (format : Option Int) (interval : Option Float)
  | queryAddress
  | setAddress (address : Int)
  | queryUnit
  | setUnit (code : Int)
  | queryFilter
  /-- Choose over how many samples a pressure is averaged. -/
  | setFilter (count : Int)
  | queryChecksum
  /-- Choose whether lines carry a checksum. -/
  | setChecksum (enabled : Int)
  /-- Calibrate one of two points. -/
  | calibrate (pin point : Int) (value : Float)
  /-- Send a measurement. -/
  | poll
  /-- Start the continuous output. -/
  | resume
  /-- Stop the continuous output. -/
  | stop
  /-- Show model and serial number. -/
  | identify
  /-- Anything else. -/
  | unknown (text : Text)
deriving DecidableEq, Repr

/-- The largest address of a barometer. -/
def maxAddress : Nat := 98

namespace Command

/-- The parameter at a position, `none` if it is missing or blank. -/
def present? (params : List Text) (position : Nat) : Option Text :=
  (params[position]?.map Text.trim).filter fun param => !param.isEmpty

/-- A whole number, 0 if it cannot be read, `none` if it is missing or blank. -/
def word? (params : List Text) (position : Nat) : Option Int :=
  (present? params position).map fun param => (Numeral.word? param).getD 0

/-- A whole number, 0 if it cannot be read or is missing. -/
def word (params : List Text) (position : Nat) : Int := (word? params position).getD 0

/-- A number, 0 if it cannot be read, `none` if it is missing or blank. -/
def number? (params : List Text) (position : Nat) : Option Float :=
  (present? params position).map fun param => (Reader.number? param).getD 0.0

/-- A command that asks for a setting without parameters and changes it with some. -/
def asking (query : Command) (change : List Text → Command) (params : List Text) : Command :=
  if Parameter.asks params then query else change params

/-- The letters, each with the command that it makes of the parameters behind it. -/
def letters : Keyword.Table (List Text → Command) where
  entries :=
    [(['A'], asking queryAutoSend fun params => autoSend (word? params 0) (number? params 1)),
     (['N'], asking queryAddress fun params => setAddress (word params 0)),
     (['U'], asking queryUnit fun params => setUnit (word params 0)),
     (['F'], asking queryFilter fun params => setFilter (word params 0)),
     (['C'], asking queryChecksum fun params => setChecksum (word params 0)),
     (['K'], fun params =>
        calibrate (word params 0) (word params 1) ((number? params 2).getD 0.0)),
     (['P'], fun _ => poll),
     (['R'], fun _ => resume),
     (['S'], fun _ => stop),
     (['I'], fun _ => identify)]
  boundaries := [',']

/-- The command of a line, its address and its checksum taken off. -/
def ofText (text : Text) : Command :=
  match letters.lookup text with
  | some (command, tail) => command (Parameter.split ',' tail)
  | none => unknown (Text.trim text)

/-- What the checksum of a line says: two digits, over all in front of the `*`. -/
def status (body : Text) : (field : Option Text) → Except Fault ChecksumStatus
  | none => .ok .absent
  | some field =>
    match Numeral.hexField? 2 field with
    | some received => .ok (.compare received (Checksum.xor (Utf8.encode body)).toNat)
    | none => .error (.malformedFrame s!"bad checksum: {String.ofList field}")

/-- Whom a line with an address, or without one, is for. -/
def targetOf : Option Nat → Except Fault Target
  | none => .ok .all
  | some address =>
    if address ≤ maxAddress then .ok (.address address) else .error (.addressOutOfRange address)

/-- The request of a line. -/
def read (frame : Bytes) : Except Fault (Request Command) := do
  match Utf8.decode? frame with
  | none => throw (.malformedFrame "line is not valid text")
  | some line =>
    let text := Text.trim line
    let (body, field) := Line.splitChecksum '*' text
    let checksum ← status body field
    let (address, rest) ← Line.splitAddress body
    let target ← targetOf address
    return { target, checksum, command := ofText rest, text }

end Command

end BusBarometer

end WeatherBus
