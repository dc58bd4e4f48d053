import WeatherBus.Proofs.Frame.Style
import WeatherBus.Proofs.Number.Written

/-! # The commands of the visibility sensor as text

* **`Command.Wording`** — keyword and fields of a command;
* **`Command.IsWritten`** — the text of a command for a sensor;
* **`read_frame`** — the request is read back from the block of this text. -/

namespace WeatherBus

namespace VisibilitySensor

namespace SettingsUpdate

/-- The fields of a change, in the order in which they are written. -/
def toList (u : SettingsUpdate) : List (Option Int) :=
  [u.id, u.interval, u.format, u.mode, u.baud, u.unit, u.averaging, u.checked]

/-- A field as it is written. One that is left alone is empty. -/
def fieldText (field : Option Int) : Text := (field.map Numeral.ofInt).getD []

end SettingsUpdate

namespace Command

/-! ## How commands are written -/

/-- The keyword of a command, and its fields behind the address. -/
inductive Wording : Command → Text → List Text → Prop where
  | get : Wording get "GET".toList [['0']]
  | poll : Wording poll "POLL".toList [['0']]
  | reset : Wording reset "RESET".toList [['0']]
  | set {update : SettingsUpdate} (h : ∀ field ∈ update.toList, ∀ n ∈ field, Numeral.IsWord n) :
      Wording (set update) "SET".toList (update.toList.map SettingsUpdate.fieldText)
  | setUntilReset {update : SettingsUpdate}
      (h : ∀ field ∈ update.toList, ∀ n ∈ field, Numeral.IsWord n) :
      Wording (setUntilReset update) "SETNC".toList
        (update.toList.map SettingsUpdate.fieldText)
  /-- Any number of zeros may stand in front of the digits of a mask, in letters of either case. -/
  | chooseFields {width mask : Nat} {digits : Text} (hmask : mask < 2 ^ 32)
      (h : Text.alike digits (Numeral.hex width mask) = true) :
      Wording (chooseFields (some mask)) "MSGSET".toList [digits]

/-- The texts that write a command for the sensor with an address. -/
inductive IsWritten (id : Nat) (command : Command) : Text → Prop where
  | wording {keyword : Text} {fields : List Text} (h : Wording command keyword fields) :
      IsWritten id command (List.intercalate [':'] (keyword :: Numeral.ofNat id :: fields))

variable {command : Command} {keyword text payload : Text} {fields : List Text} {id : Nat}
  {update : SettingsUpdate} {raw : Bytes}

/-! ## Fields -/

/-- A field is written as a token. -/
theorem isToken_fieldText (field : Option Int) : (SettingsUpdate.fieldText field).IsToken := by
  cases field with
  | none => decide
  | some n => exact Numeral.isToken_ofInt n

/-- A field is read back, an empty one as one that is left alone. -/
theorem word?_fieldText {field : Option Int} (h : ∀ n ∈ field, Numeral.IsWord n) :
    Numeral.word? (Text.trim (SettingsUpdate.fieldText field)) = field := by
  rw [(isToken_fieldText field).trim_eq]
  cases field with
  | none => rfl
  | some n => exact Numeral.word?_ofInt (h n rfl)

/-- A change is read from its fields. -/
theorem updateOf_map_fieldText
    (h : ∀ field ∈ update.toList, ∀ n ∈ field, Numeral.IsWord n) :
    updateOf (update.toList.map SettingsUpdate.fieldText) = update := by
  simp only [SettingsUpdate.toList, List.forall_mem_cons] at h
  obtain ⟨hid, hinterval, hformat, hmode, hbaud, hunit, haveraging, hchecked, -⟩ := h
  simp only [updateOf, Parameter.word?, Parameter.read?, SettingsUpdate.toList, List.map_cons,
    List.getElem?_cons_zero, List.getElem?_cons_succ, Option.bind_some, word?_fieldText hid,
    word?_fieldText hinterval, word?_fieldText hformat, word?_fieldText hmode,
    word?_fieldText hbaud, word?_fieldText hunit, word?_fieldText haveraging,
    word?_fieldText hchecked]

/-- Digits of either case write the same mask. -/
theorem natural?_of_alike {width mask : Nat} {digits : Text}
    (h : Text.alike digits (Numeral.hex width mask) = true) :
    Numeral.natural? 16 digits = some mask := by
  rw [← Numeral.natural?_upper, Text.alike_iff.1 h, Numeral.natural?_upper,
    Numeral.natural?_hex]

/-- Keyword and fields hold neither blanks nor colons. -/
theorem Wording.isToken (h : Wording command keyword fields) :
    keyword.IsToken ∧ ∀ field ∈ fields, Text.IsToken field := by
  cases h with
  | get => exact ⟨by decide, by decide⟩
  | poll => exact ⟨by decide, by decide⟩
  | reset => exact ⟨by decide, by decide⟩
  | set h => exact ⟨by decide, List.forall_mem_map.2 fun field _ => isToken_fieldText field⟩
  | setUntilReset h =>
    exact ⟨by decide, List.forall_mem_map.2 fun field _ => isToken_fieldText field⟩
  | chooseFields hmask h =>
    exact ⟨by decide, List.forall_mem_singleton.2 ((Numeral.isToken_hex _ _).of_alike h)⟩

/-- A command is read from its keyword and fields. -/
theorem Wording.ofFields_eq (h : Wording command keyword fields) :
    ofFields keyword fields = command := by
  cases h with
  | get => rfl
  | poll => rfl
  | reset => rfl
  | set h => exact congrArg Command.set (updateOf_map_fieldText h)
  | setUntilReset h => exact congrArg Command.setUntilReset (updateOf_map_fieldText h)
  | chooseFields hmask h =>
    exact congrArg Command.chooseFields
      (Numeral.unsigned?_of_natural? (natural?_of_alike h) hmask)

/-- An id is read from its digits. -/
theorem address_ofNat (h : id ≤ maxId) : address (Numeral.ofNat id) = .ok id := by
  have hbits : id < 2 ^ 32 := Nat.lt_of_le_of_lt h (by decide)
  rw [address, Numeral.word32?_ofNat hbits]
  exact if_neg (Nat.not_lt.2 h)

end Command

/-! ## Reading -/

variable {command : Command} {text payload keyword field : Text} {fields : List Text} {id : Nat}
  {raw : Bytes}

/-- What is carried by a block is read as a request with a valid checksum, also if the checksum is
zero. -/
theorem read_of_carries (h : Block.Carries separator checksum raw payload)
    (hfields : (Text.pieces (· == ':') payload).map Text.trim = keyword :: field :: fields)
    (hid : Command.address field = .ok id) : Command.read raw = .ok {
      target := .address id
      checksum := .valid
      command := Command.ofFields keyword fields
      text := payload } := by
  obtain ⟨block, hextract, rfl, hreceived⟩ := h
  have hvalid := Command.status_eq_valid_iff.2 (Eq.refl (checksum block.covered))
  rw [Command.read, hextract]
  simp only [bind, Except.bind, hreceived, hfields, hid, hvalid]
  rfl

/-- Every command is read from the block of its text. -/
theorem read_frame (hid : id ≤ maxId) (h : Command.IsWritten id command text) :
    Command.read (frame text) = .ok {
      target := .address id
      checksum := .valid
      command
      text } := by
  obtain @⟨keyword, fields, hwording⟩ := h
  obtain ⟨hkeyword, hfields⟩ := hwording.isToken
  have htokens : ∀ field ∈ keyword :: Numeral.ofNat id :: fields, Text.IsToken field :=
    List.forall_mem_cons.2 ⟨hkeyword, List.forall_mem_cons.2 ⟨Numeral.isToken_ofNat id, hfields⟩⟩
  have hcolon : Text.IsPlain [':'] := by decide
  have hplain := Text.isPlain_intercalate hcolon fun field hf => (htokens field hf).isPlain
  have hread := read_of_carries (style.carries_frame hplain)
    (Text.map_trim_pieces (List.cons_ne_nil _ _) htokens) (Command.address_ofNat hid)
  rwa [hwording.ofFields_eq] at hread

end VisibilitySensor

end WeatherBus
