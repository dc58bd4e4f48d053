import WeatherBus.HumidityProbe.Basic
import WeatherBus.Terminal.Command

/-! # Commands of the humidity probe

* **`HumidityProbe.Command`** — the commands besides those of every terminal;
* **`HumidityProbe.Command.keywords`** — their words. -/

namespace WeatherBus

namespace HumidityProbe

/-- A change of the heating. -/
inductive HeatingUpdate where
  | enable (enabled : Bool)
  /-- New limits. Those that are `none` are left alone. -/
  | limits (humidity temperature time : Option Int)
deriving DecidableEq, Repr

/-- The commands besides those of every terminal. -/
inductive Command where
  | units (setting : Setting UnitSystem)
  | heating (setting : Setting HeatingUpdate)
deriving DecidableEq, Repr

namespace Command

/-- The units of a single letter. -/
def units? : List Text → Option UnitSystem
  | [label] => UnitSystem.ofLabel? label
  | _ => none

/-- Up to three limits, all of them whole numbers. -/
def limits? (params : List Text) : Option HeatingUpdate :=
  if params.length ≤ 3 then
    (params.mapM Numeral.word?).map fun limits => .limits limits[0]? limits[1]? limits[2]?
  else none

/-- A switch, or up to three limits. -/
def heating? (params : List Text) : Option HeatingUpdate :=
  match params with
  | [word] =>
    if Text.alike word "ON".toList then some (.enable true)
    else if Text.alike word "OFF".toList then some (.enable false)
    else limits? params
  | _ => limits? params

/-- The keywords, each with the command that it makes of the text behind it. -/
def keywords : List (Text × (Text → Command)) :=
  [("UNIT".toList, fun tail => units (Terminal.Command.setting units? tail)),
   ("XHEAT".toList, fun tail => heating (Terminal.Command.setting heating? tail))]

end Command

end HumidityProbe

end WeatherBus
