import WeatherBus.Emulator.Config
import WeatherBus.Number.Integer

/-! # Arguments of the command line

* **`Cli.Options`** — what a call of the program asks for;
* **`Cli.Call.read`** — the call of a list of words and of some environment variables;
* **`Cli.UsageError`** — what is wrong with a call. -/

namespace WeatherBus

namespace Cli

/-- The kinds of instruments that can be emulated. -/
inductive InstrumentKind where
  | digitalBarometer
  | humidityProbe
  | busBarometer
  | visibilitySensor
  | lightningDetector
deriving DecidableEq, Repr

/-- The kinds of instruments by their names. -/
def InstrumentKind.byName : List (Text × InstrumentKind) :=
  [("ptb330".toList, digitalBarometer), ("hmp155".toList, humidityProbe),
    ("line-baro".toList, busBarometer), ("present-weather".toList, visibilitySensor),
    ("storm".toList, lightningDetector)]

/-- The options that take a value. -/
inductive Key where
  | instrument
  | port
  | listen
  | baud
  | electrical
  | feed
  | devices
  | serial
  | logLevel
  | runFor
deriving DecidableEq, Repr

namespace Key

/-- All options. -/
def all : List Key :=
  [.instrument, .port, .listen, .baud, .electrical, .feed, .devices, .serial, .logLevel, .runFor]

/-- The name of an option. -/
def name : Key → Text
  | instrument => "instrument".toList
  | port => "port".toList
  | listen => "listen".toList
  | baud => "baud".toList
  | electrical => "electrical".toList
  | feed => "feed".toList
  | devices => "devices".toList
  | serial => "serial".toList
  | logLevel => "log-level".toList
  | runFor => "run-for".toList

/-- The option of a name. -/
def ofName? (t : Text) : Option Key := all.find? fun key => key.name == t

/-- Every option is found by its name. -/
@[simp] theorem ofName?_name (key : Key) : ofName? key.name = some key := by
  cases key <;> decide

end Key

/-- What is wrong with a call. -/
inductive UsageError where
  | unexpected (word : Text)
  | missingValue (key : Key)
  | invalidValue (key : Key) (value : Text)
  | repeated (key : Key)
  | missing (key : Key)
  | conflict (first second : Key)
deriving DecidableEq, Repr

/-- The wording of a usage error. -/
def UsageError.message : UsageError → String
  | unexpected word => s!"unexpected argument '{String.ofList word}' found"
  | missingValue key => s!"a value is required for '--{String.ofList key.name}'"
  | invalidValue key value =>
    s!"invalid value '{String.ofList value}' for '--{String.ofList key.name}'"
  | repeated key => s!"the argument '--{String.ofList key.name}' cannot be used multiple times"
  | missing key => s!"the argument '--{String.ofList key.name}' is required"
  | conflict first second =>
    s!"the argument '--{String.ofList first.name}' cannot be used with " ++
      s!"'--{String.ofList second.name}'"

/-! ## Values -/

/-- The values that are given, each of them one that its option takes. -/
structure Given where
  instrument : Option InstrumentKind := none
  port : Option Text := none
  listen : Option Text := none
  baud : Option Nat := none
  electrical : Option ElectricalMode := none
  feed : Option Text := none
  devices : Option Nat := none
  serial : Option Text := none
  logLevel : Option Text := none
  runFor : Option Nat := none
deriving DecidableEq, Repr

namespace Given

/-- Whether an option has a value. -/
def has (given : Given) : Key → Bool
  | .instrument => given.instrument.isSome
  | .port => given.port.isSome
  | .listen => given.listen.isSome
  | .baud => given.baud.isSome
  | .electrical => given.electrical.isSome
  | .feed => given.feed.isSome
  | .devices => given.devices.isSome
  | .serial => given.serial.isSome
  | .logLevel => given.logLevel.isSome
  | .runFor => given.runFor.isSome

/-- A number of at most `bits` binary digits that is written as a whole number with an optional
sign. -/
def small? (bits : Nat) (t : Text) : Option Nat :=
  (Numeral.word? t).bind fun n => if 0 ≤ n ∧ n < Nat.pow 2 bits then some n.toNat else none

/-- Give an option a value, `none` for a value that it does not take. -/
def put? (key : Key) (value : Text) (given : Given) : Option Given :=
  match key with
  | .instrument =>
    (InstrumentKind.byName.lookup value).map fun kind => { given with instrument := some kind }
  | .port => some { given with port := some value }
  | .listen => some { given with listen := some value }
  | .baud => (small? 32 value).map fun baud => { given with baud := some baud }
  | .electrical =>
    (ElectricalMode.ofText value).toOption.map fun mode => { given with electrical := some mode }
  | .feed => if value.isEmpty then none else some { given with feed := some value }
  | .devices => (small? 8 value).map fun devices => { given with devices := some devices }
  | .serial => some { given with serial := some value }
  | .logLevel => some { given with logLevel := some value }
  | .runFor =>
    (Numeral.unsigned? 10 64 value).map fun seconds => { given with runFor := some seconds }

/-- Give an option its value. An option takes one value only. -/
def put (key : Key) (value : Text) (given : Given) : Except UsageError Given :=
  if given.has key then .error (.repeated key)
  else match given.put? key value with
    | some given => .ok given
    | none => .error (.invalidValue key value)

/-- Give an option the value of an environment variable, if there is one and the option has no value
yet. -/
def putDefault (key : Key) (value : Option Text) (given : Given) : Except UsageError Given :=
  match value with
  | some value => if given.has key then .ok given else given.put key value
  | none => .ok given

end Given

/-! ## Calls -/

/-- Where the host is reached. -/
inductive Place where
  /-- At a serial port. -/
  | serialPort (name : Text)
  /-- At a network address on which the program listens. -/
  | network (address : Text)
deriving DecidableEq, Repr

/-- The name of a place. -/
def Place.name : Place → Text
  | serialPort name => name
  | network address => address

/-- What a call of the program asks for. -/
structure Options where
  instrument : InstrumentKind
  place : Place
  baud : Nat
  electrical : ElectricalMode
  /-- The file of the measurement feed. -/
  feed : Text
  /-- The number of instruments. -/
  devices : Nat
  /-- The serial number of a lightning detector. -/
  serial : Text
  /-- The log filter. -/
  logLevel : Text
  /-- After how many seconds the program stops. -/
  runFor : Option Nat
deriving DecidableEq, Repr

/-- The environment variables that matter. -/
structure Environment where
  port : Option Text := none
  feed : Option Text := none
  /-- A log filter that goes before the one of the arguments. -/
  logFilter : Option Text := none
deriving DecidableEq, Repr

/-- The place that is asked for. Exactly one has to be named. -/
def Given.place (given : Given) : Except UsageError Place :=
  match given.port, given.listen with
  | some _, some _ => .error (.conflict .listen .port)
  | some name, none => .ok (.serialPort name)
  | none, some address => .ok (.network address)
  | none, none => .error (.missing .port)

/-- A value that has to be given. -/
def need {α : Type} (key : Key) : Option α → Except UsageError α
  | some a => .ok a
  | none => .error (.missing key)

/-- The options of all values that are given. -/
def Given.options (environment : Environment) (given : Given) : Except UsageError Options := do
  let given ← given.putDefault .port environment.port
  let given ← given.putDefault .feed environment.feed
  return {
    instrument := ← need .instrument given.instrument
    place := ← given.place
    baud := given.baud.getD 9600
    electrical := given.electrical.getD .rs232
    feed := ← need .feed given.feed
    devices := given.devices.getD 1
    serial := given.serial.getD "T0000001".toList
    logLevel := given.logLevel.getD "info".toList
    runFor := given.runFor }

/-- What a call of the program is for. -/
inductive Call where
  | help
  | version
  | run (options : Options)
deriving DecidableEq, Repr

namespace Call

/-- Whether a word can be the value of the option in front of it. -/
def isValue : Text → Bool
  | '-' :: _ :: _ => false
  | _ => true

/-- Read words from the first to the last. Help and version count as soon as they are reached. -/
def readFrom (environment : Environment) : List Text → Given → Except UsageError Call
  | [], given => run <$> given.options environment
  | ['-', '-'] :: [], given => run <$> given.options environment
  | ['-', '-'] :: word :: _, _ => .error (.unexpected word)
  | ('-' :: '-' :: body) :: rest, given =>
    match Text.cut? '=' body with
    | some (name, value) =>
      match Key.ofName? name with
      | some key => given.put key value >>= readFrom environment rest
      | none => .error (.unexpected ('-' :: '-' :: body))
    | none =>
      if body = "help".toList then .ok help
      else if body = "version".toList then .ok version
      else match Key.ofName? body, rest with
        | some key, value :: rest =>
          if isValue value then given.put key value >>= readFrom environment rest
          else .error (.missingValue key)
        | some key, [] => .error (.missingValue key)
        | none, _ => .error (.unexpected ('-' :: '-' :: body))
  | ('-' :: 'h' :: _) :: _, _ => .ok help
  | ('-' :: 'V' :: _) :: _, _ => .ok version
  | word :: _, _ => .error (.unexpected word)

/-- The call of a list of words. -/
def read (environment : Environment) (words : List Text) : Except UsageError Call :=
  readFrom environment words {}

end Call

end Cli

end WeatherBus
