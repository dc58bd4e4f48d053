import WeatherBus.Text.Basic

/-! # Units of pressure

* **`PressureUnit.label`** and **`PressureUnit.ofLabel?`** — the short name of a unit and back;
* **`PressureUnit.ofHectopascals`** — a pressure in a unit;
* **`reducedPressure`** — a pressure reduced to another height by the standard atmosphere. -/

namespace WeatherBus

/-- The units in which an instrument shows a pressure. -/
inductive PressureUnit where
  | hectopascal
  | millibar
  | kilopascal
  | pascal
  | inchOfMercury
  | millimetreOfMercury
  | torr
  | poundPerSquareInch
  | millimetreOfWater
  | bar
deriving DecidableEq, Repr

namespace PressureUnit

/-- All units. -/
def all : List PressureUnit :=
  [.hectopascal, .millibar, .kilopascal, .pascal, .inchOfMercury, .millimetreOfMercury, .torr,
    .poundPerSquareInch, .millimetreOfWater, .bar]

/-- The short name of a unit. -/
def label : PressureUnit → Text
  | hectopascal => "hPa".toList
  | millibar => "mbar".toList
  | kilopascal => "kPa".toList
  | pascal => "Pa".toList
  | inchOfMercury => "inHg".toList
  | millimetreOfMercury => "mmHg".toList
  | torr => "torr".toList
  | poundPerSquareInch => "psi".toList
  | millimetreOfWater => "mmH2O".toList
  | bar => "bar".toList

/-- The unit of a short name, the case of letters and blanks around it aside. -/
def ofLabel? (t : Text) : Option PressureUnit :=
  all.find? fun unit => Text.alike unit.label (Text.trim t)

/-- A pressure in a unit. All conversions go through pascals. -/
def ofHectopascals (unit : PressureUnit) (hectopascals : Float) : Float :=
  let pascals := hectopascals * 100.0
  match unit with
  | hectopascal | millibar => pascals / 100.0
  | kilopascal => pascals / 100.0 / 10.0
  | pascal => pascals
  | inchOfMercury => pascals / 3386.389
  | millimetreOfMercury => pascals / 133.322387415
  | torr => pascals * 760.0 / 101325.0
  | poundPerSquareInch => pascals / 6894.757
  | millimetreOfWater => pascals / 9.80665
  | bar => pascals / 100.0 / 1000.0

end PressureUnit

/-- A pressure measured at `height` metres above a level, reduced to that level by the standard
atmosphere: 288.15 K at sea level, 6.5 K less for each kilometre. -/
def reducedPressure (pressure height : Float) : Float :=
  pressure / Float.pow (1.0 - 0.0065 * height / 288.15) (9.80665 / (287.05 * 0.0065))

end WeatherBus
