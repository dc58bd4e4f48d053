import WeatherBus.Cli.Arguments

/-! # Help on the command line

* **`Cli.help`** — how the program is called, with a line for every option;
* **`Cli.versionLine`** — its name and version. -/

namespace WeatherBus

namespace Cli

namespace Key

/-- What an option is for. -/
def summary : Key → String
  | instrument => "Instrument family to emulate"
  | port => "Serial device the host is connected to"
  | listen => "Wait for the host on this TCP address instead of a serial port"
  | baud => "Baud rate of the line"
  | electrical => "Electrical interface: rs232, rs422, rs485, or sdi12"
  | feed => "File with one measurement sample per line, NAME=value pairs"
  | devices => "Number of instruments on the bus"
  | serial => "Serial number of the thunderstorm detector"
  | logLevel => "Log filter, RUST_LOG takes precedence"
  | runFor => "Stop after this many seconds instead of running until the line closes"

/-- Where the value of an option comes from if it is not given. -/
def fallback? : Key → Option String
  | port => some "env: WXEMU_PORT"
  | feed => some "env: WXEMU_FEED"
  | baud => some "default: 9600"
  | electrical => some "default: rs232"
  | devices => some "default: 1"
  | serial => some "default: T0000001"
  | logLevel => some "default: info"
  | instrument | listen | runFor => none

/-- The values that an option takes, if there are only a few. -/
def choices : Key → List String
  | instrument => InstrumentKind.byName.map fun entry => String.ofList entry.1
  | _ => []

/-- The line of an option. -/
def helpLine (key : Key) : String :=
  let name := String.ofList key.name
  let origin := match key.fallback? with
    | some origin => s!" [{origin}]"
    | none => ""
  let choices := ", ".intercalate key.choices
  let values := if choices.isEmpty then "" else s!" [possible values: {choices}]"
  s!"      --{name} <{name.toUpper}>  {key.summary}{origin}{values}\n"

end Key

/-- How the program is called. -/
def help : String :=
  "Emulate serial weather-sensor instruments\n\n" ++
  "Usage: wxemu [OPTIONS] --instrument <INSTRUMENT> --feed <FEED>\n\n" ++
  "Options:\n" ++ String.join (Key.all.map Key.helpLine) ++
  "  -h, --help  Print help\n" ++
  "  -V, --version  Print version\n"

/-- The name and the version of the program. -/
def versionLine : String := "wxemu 0.1.0"

end Cli

end WeatherBus
