import WeatherBus.Number.Integer

/-! # Log levels

* **`LogLevel.ofText?`** — the level that a text asks for;
* **`LogLevel.shows`** — whether a message of a level is shown where another level is asked for. -/

namespace WeatherBus

/-- How much is logged. -/
inductive LogLevel where
  | off
  | error
  | warn
  | info
  | debug
  | trace
deriving DecidableEq, Repr

namespace LogLevel

/-- All levels, from silence to the most detailed one. -/
def all : List LogLevel := [.off, .error, .warn, .info, .debug, .trace]

/-- The word of a level. -/
def label : LogLevel → Text
  | off => "off".toList
  | error => "error".toList
  | warn => "warn".toList
  | info => "info".toList
  | debug => "debug".toList
  | trace => "trace".toList

/-- The level of a word, the case of letters aside, or of a position among all levels. -/
def ofText? (t : Text) : Option LogLevel :=
  match Numeral.unsigned? 10 64 t with
  | some position => all[position]?
  | none => all.find? fun level => Text.alike level.label t

/-- Whether messages of a level are shown where this one is asked for. -/
def shows (message asked : LogLevel) : Bool := all.idxOf message ≤ all.idxOf asked

end LogLevel

end WeatherBus
