import WeatherBus.Keyword
import WeatherBus.Parameter
import WeatherBus.Terminal.Basic

/-! # Commands of a terminal

A command is a line: a keyword and its parameters, with blanks between them.

* **`Terminal.Command`** — the commands that all kinds have, and those of their own;
* **`Terminal.Command.keywords`** — the words of the common ones. -/

namespace WeatherBus

namespace Terminal

/-- A command of an instrument with a terminal. `X` are the commands of its own kind. -/
inductive Command (X : Type) where
  /-- Start the continuous output. -/
  | run
  /-- Stop the continuous output. -/
  | stop
  /-- Send a measurement. With an address only that instrument does. -/
  | send (address : Option Int)
  | mode (setting : Setting SerialMode)
  | interval (setting : Setting (Int × IntervalUnit))
  | format (setting : Setting Text)
  /-- Go back to the format that the instrument comes with. -/
  | resetFormat
  | address (setting : Setting Int)
  /-- Open the line to the instrument with an address. -/
  | openLine (address : Int)
  | closeLine
  | serialNumber
  | version
  /-- Show all settings. -/
  | info
  | restart
  /-- A command of the own kind. -/
  | own (command : X)
  /-- Any other word. -/
  | unknown (word : Text)
deriving DecidableEq, Repr

namespace Command

variable {X : Type}

/-- The parameters of a command. -/
def params (tail : Text) : List Text := Parameter.split ' ' tail

/-- A setting with parameters. -/
def setting {α : Type} (reader : List Text → Option α) (tail : Text) : Setting α :=
  Setting.read reader (params tail)

/-- A number and a unit. A number that cannot be read counts as 0, a missing unit as seconds. -/
def interval? (params : List Text) : Option (Int × IntervalUnit) :=
  let value := (Parameter.word? params 0).getD 0
  match params[1]? with
  | some label => (IntervalUnit.ofLabel? label).map fun unit => (value, unit)
  | none => some (value, .second)

/-- The format of a text. A slash stands for the one that the instrument comes with. -/
def formatOf (tail : Text) : Command X :=
  if Text.trim tail = ['/'] then resetFormat
  else format (setting (fun _ => some (Text.trim tail)) tail)

/-- How a kind reads addresses. -/
structure AddressRule where
  /-- An address that cannot be read, `none` if it is refused. -/
  unreadable : Option Int
  /-- The address of an opening without one. -/
  missing : Int

/-- The common keywords, each with the command that it makes of the text behind it. -/
def keywords (rule : AddressRule) : List (Text × (Text → Command X)) :=
  [("R".toList, fun _ => run),
   ("S".toList, fun _ => stop),
   ("SEND".toList, fun tail => send (Parameter.word? (params tail) 0)),
   ("SMODE".toList, fun tail =>
      mode (setting (fun params => params.head?.bind SerialMode.ofLabel?) tail)),
   ("INTV".toList, fun tail => interval (setting interval? tail)),
   ("FORM".toList, formatOf),
   ("ADDR".toList, fun tail =>
      address (setting (fun params => (Parameter.word? params 0).or rule.unreadable) tail)),
   ("OPEN".toList, fun tail =>
      openLine ((Parameter.word? (params tail) 0).getD rule.missing)),
   ("CLOSE".toList, fun _ => closeLine),
   ("SNUM".toList, fun _ => serialNumber),
   ("VERS".toList, fun _ => version),
   ("?".toList, fun _ => info),
   ("RESET".toList, fun _ => restart)]

end Command

end Terminal

end WeatherBus
