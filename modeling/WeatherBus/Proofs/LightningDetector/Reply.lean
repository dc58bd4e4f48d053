import WeatherBus.Proofs.Bus.Reply
import WeatherBus.Proofs.LightningDetector.Conduct
import WeatherBus.Proofs.LightningDetector.Language

/-! # What the lightning detector says

The message of the host and the serial number are part of what the detector says.

* **`of_received`** — a message that was received can travel in a block again;
* **`receivedInvariant_isQuotable`** — so can the stored message, in every run;
* **`answers`** — the detector answers in single frames. -/

namespace WeatherBus

namespace LightningDetector

variable {request : Request Command} {d : Device LightningDetector} {text message : Text}

/-! ## Messages that were received -/

/-- The message of a command is part of the text of the command. -/
theorem Command.subset_of_ofText (h : ofText text = .message message) : message ⊆ text := by
  rw [ofText] at h
  split at h
  · rename_i command tail hlookup
    obtain ⟨⟨keyword, hmem⟩, hsub⟩ := Keyword.Table.mem_of_lookup hlookup
    -- Of all entries of the table, only that of MSG makes a message.
    have hall : ∀ entry ∈ keywords.entries, entry.2 tail = .message message →
        message = Text.trim tail := by
      simp only [keywords, List.forall_mem_cons]
      simp
      exact fun h => h.symm
    rw [hall _ hmem h]
    exact fun c hc => hsub c (Text.trim_subset tail hc)
  · exact absurd h (by simp)

/-- A request that was received is for the detector, and its message can travel in a block again. -/
theorem Command.of_read {raw : Bytes} (hraw : Block.IsWhole raw)
    (h : read raw = .ok request) : request.target = .first ∧
      ∀ message, request.command = .message message → message.IsPlain := by
  obtain ⟨block, received, hextract, -, rfl⟩ := Command.exists_block_of_read h
  refine ⟨rfl, fun message hmessage c hc => ?_⟩
  -- What is stored was cut out of the payload, in which there is neither STX nor ETX.
  refine Block.isPlain_of_extract hraw hextract c ?_
  exact Text.trim_subset _ (Command.subset_of_ofText hmessage hc)

/-- A request that was received is for the only detector, and its message is plain. -/
theorem of_received (h : Bus.Received LightningDetector request) : request.target = .first ∧
    ∀ message, request.command = .message message → message.IsPlain := by
  obtain ⟨frame, hframed, hread⟩ := h
  exact Command.of_read hframed.isWhole hread

/-! ## The stored message -/

/-- Serial number and message can travel in a block. -/
structure IsQuotable (d : Device LightningDetector) : Prop where
  serial : d.serial.IsPlain
  message : d.registers.message.IsPlain

/-- A sample leaves the message alone. -/
theorem message_observe (sample : Sample) (d : LightningDetector) :
    (observe sample d).message = d.message := by
  rw [observe]
  split
  · rfl
  · rfl

/-- The message stays one that can be sent. -/
theorem isQuotable_apply (h : Bus.Received LightningDetector request) (hd : IsQuotable d) :
    IsQuotable (apply request d).1 := by
  have hreceived := (of_received h).2
  obtain ⟨target, checksum, command, text⟩ := request
  cases command with
  | status => exact hd
  | mode mode => cases mode <;> exact ⟨hd.serial, hd.message⟩
  | interval seconds =>
    simp only [apply]
    split <;> exact ⟨hd.serial, hd.message⟩
  | poll => exact hd
  | message text =>
    simp only [apply]
    split
    · exact ⟨hd.serial, hreceived text rfl⟩
    · exact hd
  | range unit => cases unit <;> exact ⟨hd.serial, hd.message⟩
  | squelch level =>
    simp only [apply]
    split <;> exact ⟨hd.serial, hd.message⟩
  | reset => exact ⟨hd.serial, hd.message⟩
  | identify => exact hd
  | unknown word => exact hd

/-- No request that was received, and no sample, makes the detector unable to quote its message. -/
theorem receivedInvariant_isQuotable (maxAddress : Nat) :
    Bus.ReceivedInvariant maxAddress IsQuotable where
  apply h hd := isQuotable_apply h hd
  move _ hd := ⟨hd.serial, hd.message⟩
  observe sample hd := by
    refine ⟨hd.serial, ?_⟩
    rw [Device.mapRegisters]
    exact (message_observe sample _).symm ▸ hd.message
  markSent _ hd := ⟨hd.serial, hd.message⟩

/-! ## What is said -/

/-- Plain parameters make a plain text. -/
theorem isPlain_join {params : List Text} (h : ∀ param ∈ params, Text.IsPlain param) :
    (Parameter.join params).IsPlain := Text.isPlain_intercalate (by decide) h

/-- A plain text with the message behind it is plain. -/
theorem isPlain_withMessage {d : LightningDetector} (hd : d.message.IsPlain)
    (h : text.IsPlain) : (d.withMessage text).IsPlain := by
  rw [withMessage]
  split
  · exact h
  · exact h.append (Text.isPlain_cons_iff.2 ⟨by decide, hd⟩)

/-- The status is plain. -/
theorem isPlain_status {d : LightningDetector} (hd : d.message.IsPlain) (schedule : Schedule) :
    (d.status schedule).IsPlain := by
  refine isPlain_withMessage hd (isPlain_join ?_)
  simp only [List.forall_mem_cons]
  exact ⟨(Command.isToken_modeWord _).2.isPlain, (Numeral.isToken_ofNat _).isPlain,
    (Command.isToken_label _).2.isPlain, (Numeral.isToken_ofNat _).isPlain, by simp⟩

/-- A direction is a token. -/
theorem isToken_degrees (bearing : Float) : (degrees bearing).IsToken := by
  have hfixed := Decimal.isToken_fixed 0 (Binary64.floorMod bearing 360.0)
  rw [degrees]
  split
  · rename_i digits heq
    rw [heq, Text.isToken_cons_iff] at hfixed
    exact Text.isToken_cons_iff.2 ⟨hfixed.1, Numeral.isToken_zeroFilled _ hfixed.2⟩
  · exact Numeral.isToken_zeroFilled _ hfixed

/-- The distance is a token. -/
theorem isToken_distanceText (d : LightningDetector) : d.distanceText.IsToken := by
  rw [distanceText]
  split
  · exact Decimal.isToken_fixed _ _
  · decide

/-- The direction of the nearest strike is a token. -/
theorem isToken_bearingText (d : LightningDetector) : d.bearingText.IsToken := by
  rw [bearingText]
  split
  · exact isToken_degrees _
  · decide

/-- The data are plain. -/
theorem isPlain_data {d : LightningDetector} (hd : d.message.IsPlain) : d.data.IsPlain := by
  refine isPlain_withMessage hd (isPlain_join ?_)
  simp only [List.forall_mem_cons]
  exact ⟨by decide, (Numeral.isToken_ofNat _).isPlain, (Numeral.isToken_ofNat _).isPlain,
    (Numeral.isToken_ofNat _).isPlain, (isToken_distanceText d).isPlain,
    (isToken_bearingText d).isPlain, by simp⟩

/-- An acknowledgement of a known command is plain. -/
theorem isPlain_acknowledgement {command : Command} (h : ∀ word, command ≠ .unknown word) :
    (acknowledgement command).IsPlain := by
  have hfront : Text.IsPlain "ACK ".toList := by decide
  have hkeyword : command.keyword.IsToken := by
    cases command with
    | status => exact (by decide : Text.IsToken "STATUS".toList)
    | mode => exact (by decide : Text.IsToken "MODE".toList)
    | interval => exact (by decide : Text.IsToken "INTERVAL".toList)
    | poll => exact (by decide : Text.IsToken "POLL".toList)
    | message => exact (by decide : Text.IsToken "MSG".toList)
    | range => exact (by decide : Text.IsToken "RANGE".toList)
    | squelch => exact (by decide : Text.IsToken "SQUELCH".toList)
    | reset => exact (by decide : Text.IsToken "RESET".toList)
    | identify => exact (by decide : Text.IsToken "ID".toList)
    | unknown word => exact absurd rfl (h word)
  exact hfront.append hkeyword.isPlain

/-- What is said about a request can travel in a block. -/
theorem isQuotable_outcome (request : Request Command) (hd : IsQuotable d) :
    Bus.IsQuotable (apply request d).2 := by
  obtain ⟨target, checksum, command, text⟩ := request
  cases command with
  | status =>
    have hstatus := isPlain_status hd.message d.schedule
    have hword : Text.IsPlain "STATUS ".toList := by decide
    exact .said rfl (hword.append hstatus)
  | mode mode =>
    cases mode with
    | none => exact .refused
    | some mode => exact .said rfl (isPlain_acknowledgement (by simp))
  | interval seconds =>
    simp only [apply]
    split
    · exact .said rfl (isPlain_acknowledgement (by simp))
    · exact .refused
  | poll => exact .measured rfl
  | message text =>
    simp only [apply]
    split
    · exact .said rfl (isPlain_acknowledgement (by simp))
    · exact .refused
  | range unit =>
    cases unit with
    | none => exact .refused
    | some unit => exact .said rfl (isPlain_acknowledgement (by simp))
  | squelch level =>
    simp only [apply]
    split
    · exact .said rfl (isPlain_acknowledgement (by simp))
    · exact .refused
  | reset => exact .said rfl (isPlain_acknowledgement (by simp))
  | identify =>
    refine .said rfl (isPlain_join ?_)
    simp only [List.forall_mem_cons]
    exact ⟨by decide, by decide, hd.serial, by decide, by simp⟩
  | unknown word => exact .refused

/-- The reason for a refusal is plain. -/
theorem isPlain_reason {fault : Fault} {reason : Text} (h : reason ∈ reason? fault) :
    reason.IsPlain := by
  cases fault with
  | checksumMismatch received calculated => exact Option.some.inj h ▸ by decide
  | unknownCommand word => exact Option.some.inj h ▸ by decide
  | outOfRange parameter value low high => exact Option.some.inj h ▸ by decide
  | invalidParameter reason => exact Option.some.inj h ▸ by decide
  | malformedFrame reason => exact absurd h (by simp [reason?])
  | addressOutOfRange address => exact absurd h (by simp [reason?])
  | addressInUse address => exact absurd h (by simp [reason?])
  | reservedBits mask allowed => exact absurd h (by simp [reason?])
  | accessDenied => exact absurd h (by simp [reason?])

/-- The detector answers in single frames. -/
theorem answers : Bus.Answers frame IsQuotable where
  target_ne h := by
    rw [(of_received h).1]
    decide
  encodeReply_eq _ _ _ := rfl
  says_encodeFault bytes hbytes := by
    obtain ⟨reason, hreason, rfl⟩ := Option.map_eq_some_iff.1 hbytes
    have hword : Text.IsPlain "NAK ".toList := by decide
    exact ⟨_, hword.append (isPlain_reason hreason), rfl⟩
  isQuotable_apply _ hd := isQuotable_outcome _ hd

end LightningDetector

end WeatherBus
