import WeatherBus.DigitalBarometer.Basic
import WeatherBus.Format.Basic
import WeatherBus.Timestamp

/-! # Measurements of the digital barometer

* **`DigitalBarometer.Reading`** — what a measurement can show, with the mean pressure of all
  modules and whether they agree;
* **`DigitalBarometer.vocabulary`** — the variables of its formats. -/

namespace WeatherBus

namespace DigitalBarometer

/-- What a measurement can show. Pressures are in hectopascals, temperatures in degrees Celsius. -/
structure Reading where
  modules : Modules (Option Float)
  temperatures : Modules (Option Float)
  tendency : Option Float
  tendencyCode : Option Nat
  pressureUnit : PressureUnit
  temperatureUnit : TemperatureUnit
  correctionHeight : Float
  fieldHeight : Float
  seaHeight : Float
  stabilityLimit : Float
  address : Nat
  serial : Text
  timestamp : Timestamp
deriving DecidableEq, Repr

namespace Reading

/-- The mean pressure of the modules that have one. -/
def pressure? (r : Reading) : Option Float := Binary64.mean? (r.modules.toList.filterMap id)

/-- By how much the pressure of a module is above that of another. -/
def difference? (r : Reading) (a b : Module) : Option Float := do
  let p ← r.modules.get a
  let q ← r.modules.get b
  return p - q

/-- Whether no two modules differ by more than the limit. -/
def isStable (r : Reading) : Bool :=
  [r.difference? .first .second, r.difference? .first .third, r.difference? .second .third].all
    fun difference =>
      match difference with
      | some d => d.abs ≤ r.stabilityLimit
      | none => true

end Reading

/-- The variables of a format. -/
inductive Variable where
  /-- The mean pressure. -/
  | pressure
  | modulePressure (m : Module)
  | difference (a b : Module)
  /-- The pressure at the height of the point it is corrected for. -/
  | corrected
  /-- The pressure at the height of the field. -/
  | atField
  /-- The pressure at the height of the sea. -/
  | atSea
  | temperature (m : Module)
  | tendency
  | tendencyCode
  | stability
  | error
  | address
  | serial
  | date
  | time
deriving DecidableEq, Repr

namespace Variable

/-- All variables. -/
def all : List Variable :=
  [.pressure, .modulePressure .first, .modulePressure .second, .modulePressure .third,
    .difference .first .second, .difference .first .third, .difference .second .third, .corrected,
    .atField, .atSea, .temperature .first, .temperature .second, .temperature .third, .tendency,
    .tendencyCode, .stability, .error, .address, .serial, .date, .time]

/-- The digit of a module in the names of its variables. -/
def digit : Module → Char
  | .first => '1'
  | .second => '2'
  | .third => '3'

/-- The name of a variable. -/
def name : Variable → Text
  | pressure => ['P']
  | modulePressure m => ['P', digit m]
  | difference a b => ['D', 'P', digit a, digit b]
  | corrected => "HCP".toList
  | atField => "QFE".toList
  | atSea => "QNH".toList
  | temperature m => ['T', 'P', digit m]
  | tendency => "P3H".toList
  | tendencyCode => "A3H".toList
  | stability => "PSTAB".toList
  | error => "ERR".toList
  | address => "ADDR".toList
  | serial => "SN".toList
  | date => "DATE".toList
  | time => "TIME".toList

/-- A pressure in the unit of the reading. -/
def pressureValue (r : Reading) (hectopascals : Option Float) : Value :=
  (hectopascals.map fun p => Value.number (r.pressureUnit.ofHectopascals p)).getD .missing

/-- The mean pressure reduced by a height. -/
def reducedValue (r : Reading) (height : Float) : Value :=
  pressureValue r (r.pressure?.map fun p => reducedPressure p height)

/-- The value of a variable. -/
def value (v : Variable) (r : Reading) : Value :=
  match v with
  | pressure => pressureValue r r.pressure?
  | modulePressure m => pressureValue r (r.modules.get m)
  | difference a b => pressureValue r (r.difference? a b)
  | corrected => reducedValue r r.correctionHeight
  | atField => reducedValue r r.fieldHeight
  | atSea => reducedValue r r.seaHeight
  | temperature m =>
    ((r.temperatures.get m).map fun t => Value.number (r.temperatureUnit.ofCelsius t)).getD .missing
  | tendency => pressureValue r r.tendency
  | tendencyCode => (r.tendencyCode.map fun n => Value.integer n).getD .missing
  | stability => .text (if r.isStable then "OK".toList else "UNSTABLE".toList)
  | error => .integer (if r.pressure?.isSome then 0 else 1)
  | address => .integer r.address
  | serial => .text r.serial
  | date => .text r.timestamp.date
  | time => .text r.timestamp.time

/-- The unit of a variable. -/
def unit (v : Variable) (r : Reading) : Option Text :=
  match v with
  | pressure | modulePressure _ | difference _ _ | corrected | atField | atSea | tendency =>
    some r.pressureUnit.label
  | temperature _ => some r.temperatureUnit.label
  | _ => none

end Variable

/-- The variables of a format. -/
def vocabulary : Format.Vocabulary Variable Reading where
  known := Variable.all
  name := Variable.name
  value := Variable.value
  unit := Variable.unit
  fallbackUnit r := r.pressureUnit.label
  name_ne_nil := by decide

end DigitalBarometer

end WeatherBus
