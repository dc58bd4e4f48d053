import WeatherBus.Format.Basic
import WeatherBus.HumidityProbe.Basic
import WeatherBus.Timestamp
import WeatherBus.Unit.Temperature

/-! # Measurements of the humidity probe

Dew point and the other measures of humidity follow from relative humidity and temperature by the
formula of Magnus.

* **`HumidityProbe.saturationPressure`** — the pressure of saturated vapour;
* **`HumidityProbe.Reading`** — what a measurement can show, with the derived measures;
* **`HumidityProbe.vocabulary`** — the variables of its formats. -/

namespace WeatherBus

namespace HumidityProbe

/-! ## The formula of Magnus -/

/-- The two coefficients of the formula. -/
structure Magnus where
  slope : Float
  /-- In degrees Celsius. -/
  offset : Float
deriving DecidableEq, Repr

/-- The coefficients over water. -/
def Magnus.water : Magnus := ⟨17.62, 243.12⟩

/-- The coefficients over ice. -/
def Magnus.ice : Magnus := ⟨22.46, 272.62⟩

/-- The pressure of saturated vapour at the freezing point, in hectopascals. -/
def freezingPressure : Float := 6.112

/-- The pressure of vapour that is saturated over water at a temperature. -/
def saturationPressure (celsius : Float) : Float :=
  freezingPressure *
    Float.exp (Magnus.water.slope * celsius / (Magnus.water.offset + celsius))

/-- The temperature at which vapour of a pressure is saturated. -/
def Magnus.temperature (c : Magnus) (vapourPressure : Float) : Float :=
  let gamma := Float.log (vapourPressure / freezingPressure)
  c.offset * gamma / (c.slope - gamma)

/-! ## Readings -/

/-- What a measurement can show. -/
structure Reading where
  humidity : Option Float
  temperature : Option Float
  additionalTemperature : Option Float
  pressure : Float
  units : UnitSystem
  address : Nat
  serial : Text
  timestamp : Timestamp
deriving DecidableEq, Repr

/-- The pressure that is assumed where none is measured, in hectopascals. -/
def standardPressure : Float := 1013.25

namespace Reading

/-- The pressure of the vapour in the air. Dry air has none. -/
def vapourPressure? (r : Reading) : Option Float := do
  let humidity ← r.humidity.filter fun humidity => 0.0 < humidity
  let temperature ← r.temperature
  return humidity / 100.0 * saturationPressure temperature

/-- The temperature at which dew falls. -/
def dewPoint? (r : Reading) : Option Float := r.vapourPressure?.map Magnus.water.temperature

/-- The temperature at which dew falls, or frost below the freezing point. -/
def frostPoint? (r : Reading) : Option Float := do
  let vapour ← r.vapourPressure?
  let dewPoint := Magnus.water.temperature vapour
  return if dewPoint < 0.0 then Magnus.ice.temperature vapour else dewPoint

/-- The water in a volume of air, in grams for each cubic metre. -/
def absoluteHumidity? (r : Reading) : Option Float := do
  let vapour ← r.vapourPressure?
  let temperature ← r.temperature
  return 216.7 * vapour / (273.15 + temperature)

/-- The water beside the dry air, in grams for each kilogram. -/
def mixingRatio? (r : Reading) : Option Float := do
  let vapour ← r.vapourPressure?
  if vapour < r.pressure then some (621.98 * vapour / (r.pressure - vapour)) else none

/-- The unit of temperatures. -/
def temperatureUnit (r : Reading) : TemperatureUnit :=
  match r.units with
  | .metric => .celsius
  | .nonMetric => .fahrenheit

/-- A temperature in the unit of the reading. -/
def temperatureValue (r : Reading) (celsius : Option Float) : Value :=
  (celsius.map fun t => Value.number (r.temperatureUnit.ofCelsius t)).getD .missing

/-- A metric quantity in the units of the reading. -/
def scaledValue (r : Reading) (factor : Float) (metric : Option Float) : Value :=
  (metric.map fun x => Value.number
    (match r.units with
      | .metric => x
      | .nonMetric => x * factor)).getD .missing

end Reading

/-! ## Variables -/

/-- The variables of a format. -/
inductive Variable where
  | humidity
  | temperature
  | dewPoint
  | frostPoint
  | absoluteHumidity
  | mixingRatio
  | additionalTemperature
  | error
  | address
  | serial
  | date
  | time
deriving DecidableEq, Repr

namespace Variable

/-- All variables. -/
def all : List Variable :=
  [.humidity, .temperature, .dewPoint, .frostPoint, .absoluteHumidity, .mixingRatio,
    .additionalTemperature, .error, .address, .serial, .date, .time]

/-- The name of a variable. -/
def name : Variable → Text
  | humidity => "RH".toList
  | temperature => ['T']
  | dewPoint => "TD".toList
  | frostPoint => "TDF".toList
  | absoluteHumidity => ['A']
  | mixingRatio => ['X']
  | additionalTemperature => "TA".toList
  | error => "ERR".toList
  | address => "ADDR".toList
  | serial => "SN".toList
  | date => "DATE".toList
  | time => "TIME".toList

/-- Grains for each cubic foot in a gram for each cubic metre. -/
def grainsPerCubicFoot : Float := 0.437

/-- Grains for each pound in a gram for each kilogram. -/
def grainsPerPound : Float := 7.0

/-- The value of a variable. -/
def value (v : Variable) (r : Reading) : Value :=
  match v with
  | humidity => (r.humidity.map Value.number).getD .missing
  | temperature => r.temperatureValue r.temperature
  | dewPoint => r.temperatureValue r.dewPoint?
  | frostPoint => r.temperatureValue r.frostPoint?
  | absoluteHumidity => r.scaledValue grainsPerCubicFoot r.absoluteHumidity?
  | mixingRatio => r.scaledValue grainsPerPound r.mixingRatio?
  | additionalTemperature => r.temperatureValue r.additionalTemperature
  | error => .integer (if r.humidity.isSome && r.temperature.isSome then 0 else 1)
  | address => .integer r.address
  | serial => .text r.serial
  | date => .text r.timestamp.date
  | time => .text r.timestamp.time

/-- One of two names of a unit. -/
def oneOf (r : Reading) (metric nonMetric : String) : Option Text :=
  match r.units with
  | .metric => some metric.toList
  | .nonMetric => some nonMetric.toList

/-- The unit of a variable. -/
def unit (v : Variable) (r : Reading) : Option Text :=
  match v with
  | humidity => some "%RH".toList
  | temperature | dewPoint | frostPoint | additionalTemperature => some r.temperatureUnit.label
  | absoluteHumidity => oneOf r "g/m3" "gr/ft3"
  | mixingRatio => oneOf r "g/kg" "gr/lb"
  | _ => none

end Variable

/-- The variables of a format. -/
def vocabulary : Format.Vocabulary Variable Reading where
  known := Variable.all
  name := Variable.name
  value := Variable.value
  unit := Variable.unit
  fallbackUnit _ := "%RH".toList
  name_ne_nil := by decide

end HumidityProbe

end WeatherBus
