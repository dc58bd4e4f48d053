import WeatherBus.Bus.Dispatch
import WeatherBus.Format.Compile
import WeatherBus.Terminal.Command

/-! # Kinds of instruments with a terminal

A `Terminal.Kind` is what such a kind adds to the common commands.

* **`Terminal.Kind.read`** — the request of a line;
* **`Terminal.Kind.apply`** — what a command does;
* **`Terminal.Kind.bus`** — the bus with a number of new instruments. -/

namespace WeatherBus

namespace Terminal

/-- A kind of instrument with variables `V`, snapshots `S`, registers `R` and commands `X` of its
own. -/
structure Kind (V S R X : Type) where
  model : Text
  version : Text
  /-- The largest address. -/
  maxAddress : Nat
  /-- The largest number of instruments on one bus. -/
  maxCount : Nat
  /-- The shortest interval, in any unit. -/
  minInterval : Nat
  /-- How addresses are read. -/
  addressRule : Command.AddressRule
  vocabulary : Format.Vocabulary V S
  /-- The format that an instrument comes with. -/
  factoryFormat : Text
  /-- The keywords of its own. -/
  keywords : List (Text × (Text → X))
  /-- Carry out a command of its own. -/
  applyOwn : X → Device (Terminal V R) → Device (Terminal V R) × Except Fault Outcome
  /-- What is wrong with a parameter that cannot be understood. -/
  complaint : (what : String) → (parameter : Text) → String
  /-- The words for a fault, `none` if it is not answered. -/
  refusal? : Fault → Option Text
  /-- Whether an instrument repeats commands in front of its answers. -/
  repeats : R → Bool
  /-- All settings, line by line. -/
  info : Device (Terminal V R) → List Text
  /-- What a measurement shows. -/
  snapshot : Timestamp → Device (Terminal V R) → S
  /-- Take in a sample. -/
  observe : Sample → R → R
  /-- The registers after a restart. -/
  restart : R → R
  /-- The registers of a new instrument. -/
  initial : R
  /-- The serial number of the instrument that starts at an address. -/
  serialNumber : Nat → Text

namespace Kind

variable {V S R X : Type} (kind : Kind V S R X)

/-! ## Reading -/

/-- The common keywords and those of its own. -/
def table : Keyword.Table (Text → Command X) where
  entries := Command.keywords kind.addressRule ++
    kind.keywords.map fun (word, command) => (word, fun tail => .own (command tail))

/-- The command of a text. -/
def commandOf (text : Text) : Command X :=
  match kind.table.lookup text with
  | some (command, tail) => command tail
  | none => .unknown (Text.upper ((Text.words text).headD []))

/-- The request of a line, which is always for all instruments. -/
def read (frame : Bytes) : Except Fault (Request (Command X)) :=
  match Utf8.decode? frame with
  | none => .error (.malformedFrame "line is not valid text")
  | some line =>
    let text := Text.trim line
    if text.isEmpty then .error (.malformedFrame "empty line")
    else .ok { target := .all, checksum := .absent, command := kind.commandOf text, text }

/-! ## Commands -/

/-- Model and version. -/
def title : Text := kind.model ++ " / ".toList ++ kind.version

/-- How the format in force was asked for. -/
def formatSource (t : Terminal V R) : Text := (t.format.map Format.source).getD kind.factoryFormat

/-- A format as an answer. -/
def formatReport (source : Text) : Text := report "Output format" source

/-- An address as an answer. -/
def addressReport (address : Nat) : Text := report "Address" (Numeral.ofNat address)

/-- Refuse a parameter that cannot be understood. -/
def refuse (what : String) (parameter : Text) : Except Fault Outcome :=
  .error (.invalidParameter (kind.complaint what parameter))

/-- Choose an interval in the range of the kind. -/
def chooseInterval (value : Int) (unit : IntervalUnit) (d : Device (Terminal V R)) :
    Device (Terminal V R) × Except Fault Outcome :=
  if kind.minInterval ≤ value ∧ value ≤ 255 then
    let d := setInterval value.toNat unit d
    (d, .ok (.sayAndWake d.registers.intervalReport))
  else (d, .error (.outOfWholeRange "interval" value kind.minInterval 255))

/-- Choose a format, if it can be compiled. -/
def chooseFormat (source : Text) (d : Device (Terminal V R)) :
    Device (Terminal V R) × Except Fault Outcome :=
  match Format.compile kind.vocabulary source with
  | .ok format =>
    (d.mapRegisters ({ · with format := some format }), .ok (.say (formatReport source)))
  | .error fault => (d, .error fault)

/-- Choose an address in the range of the kind. -/
def chooseAddress (n : Int) : Except Fault Outcome :=
  if 0 ≤ n ∧ n ≤ kind.maxAddress then .ok (.sayFrom n.toNat (addressReport n.toNat))
  else .error (.outOfWholeRange "address" n 0 kind.maxAddress)

/-- Open the line to the instrument with an address, and close it to all others. -/
def openLine (address : Int) (d : Device (Terminal V R)) :
    Device (Terminal V R) × Except Fault Outcome :=
  if address = d.address then
    (setOpen true d, .ok (.say (kind.model ++ ": ".toList ++ Numeral.ofInt address ++
      " line opened for operator commands".toList)))
  else (setOpen false d, .ok .silent)

/-- What a command does to an instrument that listens. -/
def obey (command : Command X) (d : Device (Terminal V R)) :
    Device (Terminal V R) × Except Fault Outcome :=
  match command with
  | .run => (start d, .ok .silentWake)
  | .stop => (Terminal.stop d, .ok .silentWake)
  | .send _ => (d, .ok .measure)
  | .mode .query => (d, .ok (.say d.registers.modeReport))
  | .mode (.set mode) =>
    let d := enter mode d
    (d, .ok (.sayAndWake d.registers.modeReport))
  | .mode (.invalid text) => (d, kind.refuse "serial mode" text)
  | .interval .query => (d, .ok (.say d.registers.intervalReport))
  | .interval (.set (value, unit)) => kind.chooseInterval value unit d
  | .interval (.invalid text) => (d, kind.refuse "interval" text)
  | .format .query => (d, .ok (.say (formatReport (kind.formatSource d.registers))))
  | .format (.set source) => kind.chooseFormat source d
  | .format (.invalid text) => (d, kind.refuse "format" text)
  | .resetFormat =>
    (d.mapRegisters ({ · with format := none }), .ok (.say (formatReport kind.factoryFormat)))
  | .address .query => (d, .ok (.say (addressReport d.address)))
  | .address (.set n) => (d, kind.chooseAddress n)
  | .address (.invalid text) => (d, kind.refuse "address" text)
  | .openLine address => kind.openLine address d
  | .closeLine => (setOpen false d, .ok (.say "line closed".toList))
  | .serialNumber => (d, .ok (.say (report "Serial number" d.serial)))
  | .version => (d, .ok (.say kind.title))
  | .info => (d, .ok (.say (lines (kind.title :: kind.info d))))
  | .restart =>
    (enter d.registers.mode (changeOwn kind.restart d), .ok (.sayAndWake kind.title))
  | .own command => kind.applyOwn command d
  | .unknown word => (d, .error (.unknownCommand (String.ofList word)))

/-- What a command does. An instrument that does not listen still obeys the two commands with an
address in them. -/
def apply (request : Request (Command X)) (d : Device (Terminal V R)) :
    Device (Terminal V R) × Except Fault Outcome :=
  match request.command with
  | .send (some address) => (d, .ok (if address = d.address then .measure else .silent))
  | .openLine address => kind.openLine address d
  | command => if d.registers.isListening then kind.obey command d else (d, .ok .silent)

/-! ## Answers -/

/-- The lines of an answer. -/
def encodeReply (request : Request (Command X)) (d : Device (Terminal V R)) (body : Text) :
    Bytes :=
  let echo := if kind.repeats d.registers.own then request.text ++ ['\r', '\n'] else []
  Utf8.encode (echo ++ body ++ ['\r', '\n'])

/-- The answer to a fault. An instrument that does not listen stays silent. -/
def encodeFault (request : Request (Command X)) (d : Device (Terminal V R)) (fault : Fault) :
    Option Bytes :=
  if d.registers.isListening then (kind.refusal? fault).map (kind.encodeReply request d)
  else none

/-- A measurement in a format that may not compile. -/
def render (snapshot : S) (format : Except Fault (Format V)) : Bytes :=
  match format with
  | .ok format => Utf8.encode (format.output kind.vocabulary snapshot)
  | .error _ => []

/-- A measurement in the format in force. -/
def measurement (timestamp : Timestamp) (d : Device (Terminal V R)) : Bytes :=
  kind.render (kind.snapshot timestamp d) <|
    match d.registers.format with
    | some format => .ok format
    | none => Format.compile kind.vocabulary kind.factoryFormat

/-- The kind as an instrument. -/
@[reducible] def instrument : Instrument (Terminal V R) (Command X) where
  framing := .line
  read := kind.read
  apply := kind.apply
  observe sample := mapOwn (kind.observe sample)
  encodeReply := kind.encodeReply
  encodeFault := kind.encodeFault
  measurement := kind.measurement

/-! ## The bus -/

/-- A new instrument. -/
def new (mode : SerialMode) (address : Nat) : Device (Terminal V R) where
  address := address
  serial := kind.serialNumber address
  schedule := ({} : Schedule).setMode mode.outputMode
  registers := { mode, own := kind.initial }

/-- The bus with a number of new instruments. Several of them keep silent until they are called. -/
def bus (count : Nat) : Except Fault (Bus (Terminal V R)) :=
  if count = 0 ∨ kind.maxCount < count then
    .error (.outOfWholeRange "devices" count 1 kind.maxCount)
  else
    let mode := if count = 1 then SerialMode.stop else SerialMode.poll
    (Bus.empty kind.maxAddress).insertAll ((List.range count).map (kind.new mode))

end Kind

end Terminal

end WeatherBus
