import WeatherBus.Format.Compile
import WeatherBus.Timestamp
import WeatherBus.Unit.Pressure

/-! # Measurements of the bus barometer

A barometer writes its measurements in one of thirteen formats.

* **`BusBarometer.Reading`** — what a measurement shows;
* **`BusBarometer.vocabulary`** — the variables of the formats;
* **`BusBarometer.preset`** — the format of a number. -/

namespace WeatherBus

namespace BusBarometer

/-- What a measurement shows. -/
structure Reading where
  /-- The pressure in hectopascals. -/
  pressure : Option Float
  /-- The temperature in degrees Celsius. -/
  temperature : Option Float
  unit : PressureUnit
  serial : Text
  timestamp : Timestamp
deriving DecidableEq, Repr

/-- The variables of a format. -/
inductive Variable where
  | pressure
  | temperature
  | status
  | serial
  | date
  | time
deriving DecidableEq, Repr

namespace Variable

/-- The name of a variable. -/
def name : Variable → Text
  | pressure => ['P']
  | temperature => ['T']
  | status => "STAT".toList
  | serial => "SN".toList
  | date => "DATE".toList
  | time => "TIME".toList

/-- The value of a variable. -/
def value (v : Variable) (r : Reading) : Value :=
  match v with
  | pressure => (r.pressure.map fun p => Value.number (r.unit.ofHectopascals p)).getD .missing
  | temperature => (r.temperature.map Value.number).getD .missing
  | status => .integer (if r.pressure.isSome then 0 else 1)
  | serial => .text r.serial
  | date => .text r.timestamp.date
  | time => .text r.timestamp.time

/-- The unit of a variable. -/
def unit (v : Variable) (r : Reading) : Option Text :=
  match v with
  | pressure => some r.unit.label
  | temperature => some "'C".toList
  | _ => none

end Variable

/-- The variables of a format. -/
def vocabulary : Format.Vocabulary Variable Reading where
  known := [.pressure, .temperature, .status, .serial, .date, .time]
  name := Variable.name
  value := Variable.value
  unit := Variable.unit
  fallbackUnit r := r.unit.label
  name_ne_nil := by decide

/-- The formats by their numbers. -/
def presets : List Text :=
  ["P".toList,
   "P \" \" U".toList,
   "P \",\" T".toList,
   "P \" \" U \",\" T \" \" U".toList,
   "P \",\" STAT".toList,
   "P \" \" U \",\" STAT".toList,
   "8.3 P".toList,
   "8.3 P \" \" U".toList,
   "DATE \" \" TIME \",\" P".toList,
   "DATE \" \" TIME \",\" P \" \" U".toList,
   "SN \",\" P".toList,
   "SN \",\" P \",\" T".toList,
   "SN \",\" DATE \" \" TIME \",\" P \" \" U \",\" T \" \" U".toList]

/-- The largest number of a format. -/
def maxFormat : Nat := 12

/-- The format of a number. -/
def preset (number : Nat) : Except Fault (Format Variable) :=
  match presets[number]? with
  | some source => Format.compile vocabulary source
  | none => .error (.outOfWholeRange "format" number 0 maxFormat)

end BusBarometer

end WeatherBus
