import WeatherBus.Text.Basic

/-! # Units of distance

* **`DistanceUnit.label`** and **`DistanceUnit.ofLabel?`** — the short name of a unit and back;
* **`DistanceUnit.ofKilometres`** — a distance in a unit;
* **`feetOfMetres`** — a visibility in feet. -/

namespace WeatherBus

/-- The units in which an instrument shows a distance. -/
inductive DistanceUnit where
  | kilometre
  | mile
  | nauticalMile
deriving DecidableEq, Repr

namespace DistanceUnit

/-- All units. -/
def all : List DistanceUnit := [.kilometre, .mile, .nauticalMile]

/-- The short name of a unit. -/
def label : DistanceUnit → Text
  | kilometre => "KM".toList
  | mile => "MI".toList
  | nauticalMile => "NM".toList

/-- The unit of a short name, the case of letters and blanks around it aside. -/
def ofLabel? (t : Text) : Option DistanceUnit :=
  all.find? fun unit => Text.alike unit.label (Text.trim t)

/-- A distance in a unit. Conversions go through metres; an inch is 25.4 mm, a mile 5280 feet. -/
def ofKilometres (unit : DistanceUnit) (kilometres : Float) : Float :=
  let metres := kilometres / 0.001
  match unit with
  | kilometre => kilometres
  | mile => metres * (10000.0 / (254.0 * 12.0 * 3.0 * 1760.0))
  | nauticalMile => metres / 1852.0

end DistanceUnit

/-- A length in feet of twelve inches. -/
def feetOfMetres (metres : Float) : Float := metres * (10000.0 / (254.0 * 12.0))

end WeatherBus
