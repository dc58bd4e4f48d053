import WeatherBus.Text.Basic

/-! # Units of temperature

* **`TemperatureUnit.label`** and **`TemperatureUnit.ofLabel?`** — the short name of a unit and
  back;
* **`TemperatureUnit.ofCelsius`** — a temperature in a unit. -/

namespace WeatherBus

/-- The units in which an instrument shows a temperature. -/
inductive TemperatureUnit where
  | celsius
  | fahrenheit
  | kelvin
deriving DecidableEq, Repr

namespace TemperatureUnit

/-- The short name of a unit. -/
def label : TemperatureUnit → Text
  | celsius => "'C".toList
  | fahrenheit => "'F".toList
  | kelvin => "K".toList

/-- The unit of a letter of either case, with any number of degree marks in front of it. -/
def ofLabel? (t : Text) : Option TemperatureUnit :=
  match Text.upper ((Text.trim t).dropWhile (· = '\'')) with
  | ['C'] => some celsius
  | ['F'] => some fahrenheit
  | ['K'] => some kelvin
  | _ => none

/-- A temperature in a unit. Conversions go through kelvins. -/
def ofCelsius (unit : TemperatureUnit) (degrees : Float) : Float :=
  let kelvins := degrees + 273.15
  match unit with
  | celsius => degrees
  | fahrenheit => (kelvins - 273.15) * 1.8 + 32.0
  | kelvin => kelvins

end TemperatureUnit

end WeatherBus
