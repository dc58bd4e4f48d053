import WeatherBus.Keyword
import WeatherBus.Parameter
import WeatherBus.Frame.Block
import WeatherBus.Request
import WeatherBus.Schedule
import WeatherBus.Unit.Distance

/-! # Commands of the lightning detector

A command is a block whose fields end at blanks: a keyword and its parameters. Its checksum is the
complemented one.

* **`LightningDetector.Command.read`** — the request of a block;
* **`LightningDetector.frame`** — the block of a text. -/

namespace WeatherBus

namespace LightningDetector

/-- The commands of the lightning detector. -/
inductive Command where
  /-- Show the settings. -/
  | status
  /-- Set the output mode, `none` for one that is not known. -/
  | mode (mode : Option OutputMode)
  /-- Set the interval of the continuous mode in seconds. -/
  | interval (seconds : Int)
  /-- Send the counters. -/
  | poll
  /-- Set a text that is sent with every message. -/
  | message (text : Text)
  /-- Set the unit of distances, `none` for one that is not known. -/
  | range (unit : Option DistanceUnit)
  /-- Set the level below which strikes are ignored. -/
  | squelch (level : Int)
  /-- Clear the counters. -/
  | reset
  /-- Show model and serial number. -/
  | identify
  /-- Any other word. -/
  | unknown (word : Text)
deriving DecidableEq, Repr

/-- The byte at which a field ends. -/
def separator : UInt8 := 0x20

/-- The checksum of a block. -/
def checksum (covered : Bytes) : Nat := (Checksum.Convention.complemented.apply covered).toNat

namespace Command

/-- The word of a command. -/
def keyword : Command → Text
  | status => "STATUS".toList
  | mode _ => "MODE".toList
  | interval _ => "INTERVAL".toList
  | poll => "POLL".toList
  | message _ => "MSG".toList
  | range _ => "RANGE".toList
  | squelch _ => "SQUELCH".toList
  | reset => "RESET".toList
  | identify => "ID".toList
  | unknown word => word

/-- The output modes by their words. -/
def modes : List (Text × OutputMode) :=
  [("CONT".toList, .continuous), ("POLL".toList, .polled), ("STOP".toList, .stopped)]

/-- The parameters of a command. -/
def params (tail : Text) : List Text := Parameter.split ' ' tail

/-- A whole number as first parameter, 0 if there is none. -/
def amount (tail : Text) : Int := (Parameter.word? (params tail) 0).getD 0

/-- The keywords, each with the command that it makes of the text behind it. -/
def keywords : Keyword.Table (Text → Command) where
  entries :=
    [("STATUS".toList, fun _ => status),
     ("MODE".toList, fun tail =>
        mode ((params tail).head?.bind fun word => modes.lookup (Text.upper word))),
     ("INTERVAL".toList, fun tail => interval (amount tail)),
     ("POLL".toList, fun _ => poll),
     ("MSG".toList, fun tail => message (Text.trim tail)),
     ("RANGE".toList, fun tail => range ((params tail).head?.bind DistanceUnit.ofLabel?)),
     ("SQUELCH".toList, fun tail => squelch (amount tail)),
     ("RESET".toList, fun _ => reset),
     ("ID".toList, fun _ => identify)]

/-- The command of a text. -/
def ofText (text : Text) : Command :=
  match keywords.lookup text with
  | some (command, tail) => command tail
  | none => unknown (Text.upper ((Text.words text).headD []))

/-- The request of a block. -/
def read (raw : Bytes) : Except Fault (Request Command) := do
  let block ← Block.extract separator raw
  let received ← block.received
  let text := Text.trim block.payload
  if text.isEmpty then throw (.malformedFrame "empty block")
  return {
    target := .first
    checksum := .compare received (checksum block.covered)
    command := ofText text
    text }

end Command

/-- The block of a text, with CR and LF behind it. -/
def frame (payload : Text) : Bytes :=
  Block.build separator none payload (checksum (Utf8.encode payload ++ [separator])) ++
    [0x0D, 0x0A]

end LightningDetector

end WeatherBus
