import WeatherBus.Proofs.LightningDetector.Language
import WeatherBus.Proofs.VisibilitySensor.Language

/-! # Commands as text

* **`Block.reads_commands`** — the instruments that read blocks understand every text that writes a
  command, whatever its parameters. -/

namespace WeatherBus

/-- Every command is read back from the block of every text that writes it, for the device that it
is written for, and with a valid checksum. -/
theorem Block.reads_commands :
    (∀ {id command text}, id ≤ VisibilitySensor.maxId →
      VisibilitySensor.Command.IsWritten id command text →
        VisibilitySensor.Command.read (VisibilitySensor.frame text) = .ok {
          target := .address id
          checksum := .valid
          command
          text }) ∧
    ∀ {command text}, LightningDetector.Command.IsWritten command text →
      LightningDetector.Command.read (LightningDetector.frame text) = .ok {
        target := .first
        checksum := .valid
        command
        text := Text.trim text } :=
  ⟨VisibilitySensor.read_frame, LightningDetector.read_frame⟩

/-- Settings of which some are left alone and one is the smallest number there is, a mask with
zeros in front, a message in which there is a keyword, and an empty one. -/
theorem Block.reads_commands_extremes :
    let update : VisibilitySensor.SettingsUpdate :=
      { id := some 9, format := some (-1), checked := some (-0x8000000000000000) }
    let settings := "SETNC:3:9::-1:::::-9223372036854775808".toList
    let mask := "MSGSET:0:00001fF".toList
    let message := "mSg id  POLL?".toList
    let empty := "MSG ".toList
    VisibilitySensor.Command.read (VisibilitySensor.frame settings) = .ok
      ⟨.address 3, .valid, .setUntilReset update, settings⟩ ∧
    VisibilitySensor.Command.read (VisibilitySensor.frame mask) = .ok
      ⟨.address 0, .valid, .chooseFields (some 0x1FF), mask⟩ ∧
    LightningDetector.Command.read (LightningDetector.frame message) = .ok
      ⟨.first, .valid, .message "id  POLL?".toList, message⟩ ∧
    LightningDetector.Command.read (LightningDetector.frame empty) = .ok
      ⟨.first, .valid, .message [], "MSG".toList⟩ := by
  intro update settings mask message empty
  have hsettings : VisibilitySensor.Command.IsWritten 3 (.setUntilReset update) settings :=
    .wording (.setUntilReset (by decide))
  have hmask : VisibilitySensor.Command.IsWritten 0 (.chooseFields (some 0x1FF)) mask := by
    have hdigits : Text.alike "00001fF".toList (Numeral.hex 7 0x1FF) = true := by decide
    exact .wording (.chooseFields (by decide) hdigits)
  have hmessage : LightningDetector.Command.IsWritten (.message "id  POLL?".toList) message := by
    have hkeyword : Text.alike "mSg".toList "MSG".toList = true := by decide
    exact .withParameter (.message (by decide) (by decide)) hkeyword
  have hempty : LightningDetector.Command.IsWritten (.message []) empty := by
    have hkeyword : Text.alike "MSG".toList "MSG".toList = true := by decide
    exact .withParameter (.message (by decide) (by decide)) hkeyword
  exact ⟨Block.reads_commands.1 (by decide) hsettings, Block.reads_commands.1 (by decide) hmask,
    Block.reads_commands.2 hmessage, Block.reads_commands.2 hempty⟩

end WeatherBus
