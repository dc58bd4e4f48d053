import WeatherBus.Frame.Block
import WeatherBus.Keyword
import WeatherBus.Parameter
import WeatherBus.Request
import WeatherBus.VisibilitySensor.Settings

/-! # Commands of the visibility sensor

A command is a block whose fields end at colons: a keyword, the address, and parameters. A checksum
of zero stands for none.

* **`VisibilitySensor.Command.read`** — the request of a block;
* **`VisibilitySensor.frame`** — the block of a text. -/

namespace WeatherBus

namespace VisibilitySensor

/-- The commands of the visibility sensor. -/
inductive Command where
  /-- Show the settings. -/
  | get
  /-- Change the settings for good. -/
  | set (update : SettingsUpdate)
  /-- Change the settings up to the next reset. -/
  | setUntilReset (update : SettingsUpdate)
  /-- Choose the fields of a message, `none` for a mask that cannot be read. -/
  | chooseFields (mask : Option Nat)
  /-- Send a measurement. -/
  | poll
  /-- Calibrate one of two points. -/
  | calibrate (pin point : Int) (value : Float)
  /-- Go back to the settings that were changed for good. -/
  | reset
  /-- Any other keyword. -/
  | unknown (keyword : Text)
deriving DecidableEq, Repr

/-- The byte at which a field ends. -/
def separator : UInt8 := 0x3A

/-- The checksum of a block. -/
def checksum (covered : Bytes) : Nat := (Checksum.Convention.direct.apply covered).toNat

namespace Command

/-- The change of the settings by eight fields. -/
def updateOf (fields : List Text) : SettingsUpdate where
  id := Parameter.word? fields 0
  interval := Parameter.word? fields 1
  format := Parameter.word? fields 2
  mode := Parameter.word? fields 3
  baud := Parameter.word? fields 4
  unit := Parameter.word? fields 5
  averaging := Parameter.word? fields 6
  checked := Parameter.word? fields 7

/-- A mask in hexadecimal digits. -/
def mask? (fields : List Text) : Option Nat := fields.head?.bind (Numeral.unsigned? 16 32)

/-- A calibration. Fields that are missing or cannot be read count as 0. -/
def calibrationOf (fields : List Text) : Command :=
  calibrate ((Parameter.word? fields 0).getD 0) ((Parameter.word? fields 1).getD 0)
    ((Parameter.number? fields 2).getD 0.0)

/-- The keywords, each with the command that it makes of the fields behind the address. -/
def keywords : Keyword.Table (List Text → Command) where
  entries :=
    [("GET".toList, fun _ => get),
     ("SET".toList, fun fields => set (updateOf fields)),
     ("SETNC".toList, fun fields => setUntilReset (updateOf fields)),
     ("MSGSET".toList, fun fields => chooseFields (mask? fields)),
     ("POLL".toList, fun _ => poll),
     ("CAL".toList, calibrationOf),
     ("RESET".toList, fun _ => reset)]

/-- The command of a keyword, which has to fill its field. -/
def ofFields (keyword : Text) (fields : List Text) : Command :=
  match keywords.lookup keyword with
  | some (command, []) => command fields
  | _ => unknown keyword

/-- What a received checksum says. A checksum of zero stands for none. -/
def status (received calculated : Nat) : ChecksumStatus :=
  if received ≠ calculated ∧ received = 0 then .absent else .compare received calculated

/-- A checksum is valid if it is the one that was calculated. -/
theorem status_eq_valid_iff {received calculated : Nat} :
    status received calculated = .valid ↔ received = calculated := by
  rw [status]
  split
  · rename_i h
    simp [h.1]
  · exact ChecksumStatus.compare_eq_valid_iff

/-- The address of a field. -/
def address (field : Text) : Except Fault Nat :=
  match Numeral.word32? field with
  | none => .error (.malformedFrame s!"bad id: {String.ofList field}")
  | some id => if maxId < id then .error (.addressOutOfRange id) else .ok id

/-- The request of a block. -/
def read (raw : Bytes) : Except Fault (Request Command) := do
  let block ← Block.extract separator raw
  let received ← block.received
  match (Text.pieces (· == ':') block.payload).map Text.trim with
  | keyword :: id :: fields =>
    let id ← address id
    return {
      target := .address id
      checksum := status received (checksum block.covered)
      command := ofFields keyword fields
      text := block.payload }
  | _ => throw (.malformedFrame "missing id")

end Command

/-- The block of a text, with CR and LF behind it. -/
def frame (payload : Text) : Bytes :=
  Block.build separator (some separator) payload
    (checksum (Utf8.encode payload ++ [separator])) ++ [0x0D, 0x0A]

end VisibilitySensor

end WeatherBus
