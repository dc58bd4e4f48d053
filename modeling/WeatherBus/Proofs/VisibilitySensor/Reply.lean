import Mathlib.Data.List.Forall2
import Mathlib.Data.List.Sort
import WeatherBus.Proofs.Bus.Reply
import WeatherBus.Proofs.VisibilitySensor.Conduct
import WeatherBus.Proofs.VisibilitySensor.Language

/-! # What the visibility sensor says

The report of the feed is part of what the sensor says.

* **`answers`** — the sensor answers in single frames;
* **`isField_of_mem_data`** — nothing in a message ends its field early, whatever is in the report;
* **`Tabulated`**, **`exists_tabulated`** — a message has one field for every bit that is asked for,
  in the order of the bits. -/

namespace WeatherBus

namespace VisibilitySensor

variable {request : Request Command} {d : Device VisibilitySensor} {s : VisibilitySensor}

/-! ## Answers -/

/-- Tokens between colons can travel in a block. -/
theorem isPlain_tokens {fields : List Text} (h : ∀ field ∈ fields, Text.IsToken field) :
    Text.IsPlain (List.intercalate [':'] fields) := by
  have hcolon : Text.IsPlain [':'] := by decide
  exact Text.isPlain_intercalate hcolon fun field hf => (h field hf).isPlain

/-- The report of the settings is plain. -/
theorem isPlain_settingsReport (id : Nat) (settings : Settings) :
    (settingsReport id settings).IsPlain := by
  have hfront : Text.IsPlain "SET:".toList := by decide
  exact hfront.append (isPlain_tokens (List.forall_mem_map.2 fun n _ => Numeral.isToken_ofNat n))

/-- A change is answered with a plain text. -/
theorem isQuotable_change (keep : Bool) (update : SettingsUpdate) (d : Device VisibilitySensor) :
    Bus.IsQuotable (change keep update d).2 := by
  simp only [change]
  split
  · exact .refused
  · exact .said rfl (isPlain_settingsReport _ _)

/-- So is a calibration. -/
theorem isQuotable_calibrate (number point : Int) (value : Float) (d : Device VisibilitySensor) :
    Bus.IsQuotable (calibrate number point value d).2 := by
  have hdone : Bus.IsQuotable (.ok (.say (List.intercalate [':']
      ["CAL".toList, Numeral.ofNat d.address, Numeral.ofInt point, Decimal.shortest value]))) := by
    refine .said rfl (isPlain_tokens ?_)
    simp only [List.forall_mem_cons]
    exact ⟨by decide, Numeral.isToken_ofNat _, Numeral.isToken_ofInt _,
      Decimal.isToken_shortest _, by simp⟩
  fun_cases calibrate number point value d
  all_goals first | exact .refused | exact hdone

/-- What is said about a request can travel in a block. -/
theorem isQuotable_outcome (request : Request Command) (d : Device VisibilitySensor) :
    Bus.IsQuotable (apply request d).2 := by
  obtain ⟨target, checksum, command, text⟩ := request
  cases command with
  | get => exact .said rfl (isPlain_settingsReport _ _)
  | set update => exact isQuotable_change true update d
  | setUntilReset update => exact isQuotable_change false update d
  | chooseFields mask =>
    cases mask with
    | none => exact .refused
    | some mask =>
      simp only [apply]
      split
      · refine .said rfl (isPlain_tokens ?_)
        simp only [List.forall_mem_cons]
        exact ⟨by decide, Numeral.isToken_ofNat _, Numeral.isToken_hex _ _, by simp⟩
      · exact .refused
  | poll => exact .measured rfl
  | calibrate number point value => exact isQuotable_calibrate number point value d
  | reset => exact .said rfl (isPlain_settingsReport _ _)
  | unknown keyword => exact .refused

/-- The sensor answers in single frames, whatever its state. -/
theorem answers (P : Device VisibilitySensor → Prop) : Bus.Answers frame P where
  target_ne h := by
    obtain ⟨frame, -, hread⟩ := h
    obtain ⟨block, received, keyword, id, fields, -, -, rfl⟩ := Command.exists_block_of_read hread
    exact Target.noConfusion
  encodeReply_eq _ _ _ := rfl
  says_encodeFault bytes hbytes := by
    obtain ⟨code, -, rfl⟩ := Option.map_eq_some_iff.1 hbytes
    refine ⟨_, isPlain_tokens ?_, rfl⟩
    simp only [List.forall_mem_cons]
    exact ⟨by decide, Numeral.isToken_ofNat _, Numeral.isToken_ofNat _, by simp⟩
  isQuotable_apply _ _ := isQuotable_outcome _ _

/-! ## The mask -/

/-- All bits of the mask stand for fields that there are. -/
def HasKnownMask (d : Device VisibilitySensor) : Prop :=
  d.registers.mask &&& allFields = d.registers.mask

/-! ## Fields -/

/-- A text that can stand between two colons of a block. -/
def IsField (t : Text) : Prop := ':' ∉ t ∧ t.IsPlain

/-- A token is a field. -/
theorem isField_of_isToken {t : Text} (h : t.IsToken) : IsField t := ⟨h.notMem_colon, h.isPlain⟩

/-- Whatever is in a text, nothing of it ends its field or the block. -/
theorem isField_textField (value : Text) : IsField (textField value) := by
  have hchar : ∀ c ∈ textField value, c = '_' ∨ c ≠ ':' ∧ isControl c = false := by
    refine List.forall_mem_map.2 fun c _ => ?_
    split
    · exact .inl rfl
    · rename_i h
      exact .inr (by simpa using h)
  refine ⟨fun hmem => ?_, fun c hc => ?_⟩
  · rcases hchar _ hmem with h | h
    · exact absurd h (by decide)
    · exact h.1 rfl
  · refine ⟨?_, ?_⟩
    · rintro rfl
      exact absurd (hchar _ hc) (by decide)
    · rintro rfl
      exact absurd (hchar _ hc) (by decide)

/-- A value that is a field or missing makes a field. -/
theorem isField_getD {value : Option Text} (h : ∀ t ∈ value, IsField t) :
    IsField (value.getD unknownValue) := by
  cases value with
  | none => exact ⟨by decide, by decide⟩
  | some t => exact h t rfl

/-- A number that is known or missing makes a field. -/
theorem isField_numberField (decimals : Nat) (value : Option Float) :
    IsField (numberField decimals value) := by
  refine isField_getD fun t ht => ?_
  obtain ⟨x, -, rfl⟩ := Option.map_eq_some_iff.1 ht
  exact isField_of_isToken (Decimal.isToken_fixed _ _)

/-- All fields of a sensor are fields. -/
theorem isField_of_mem_fields (s : VisibilitySensor) : ∀ field ∈ s.fields, IsField field := by
  have hcode : IsField ((s.weatherCode.map (Numeral.zeroPadded 2)).getD unknownValue) := by
    refine isField_getD fun t ht => ?_
    obtain ⟨code, -, rfl⟩ := Option.map_eq_some_iff.1 ht
    exact isField_of_isToken (Numeral.isToken_zeroPadded _ _)
  have hreport : IsField ((s.report.map textField).getD unknownValue) := by
    refine isField_getD fun t ht => ?_
    obtain ⟨report, -, rfl⟩ := Option.map_eq_some_iff.1 ht
    exact isField_textField report
  simp only [fields, List.forall_mem_cons]
  exact ⟨isField_numberField _ _, hcode, hreport, isField_numberField _ _,
    isField_numberField _ _, isField_numberField _ _, isField_numberField _ _,
    isField_numberField _ _, isField_of_isToken (Numeral.isToken_ofNat _), by simp⟩

/-! ## Messages -/

/-- The fields that are asked for, each with its bit. -/
def chosen (s : VisibilitySensor) : List (Text × Nat) :=
  s.fields.zipIdx.filter (s.chosenFields.testBit ∘ Prod.snd)

/-- The data are the id and the chosen fields behind a keyword. -/
theorem data_eq (id : Nat) (s : VisibilitySensor) : s.data id = List.intercalate [':']
    ("DATA".toList :: Numeral.ofNat id :: s.chosen.map Prod.fst) := rfl

/-- So are those that are chosen. -/
theorem isField_of_mem_chosen (s : VisibilitySensor) :
    ∀ field ∈ s.chosen.map Prod.fst, IsField field := by
  refine List.forall_mem_map.2 fun entry hentry => isField_of_mem_fields s entry.1 ?_
  exact List.fst_mem_of_mem_zipIdx (List.mem_of_mem_filter hentry)

/-- Type, address and fields: whatever the feed has supplied, none of them ends early. -/
theorem isField_of_mem_data (id : Nat) (s : VisibilitySensor) :
    ∀ field ∈ "DATA".toList :: Numeral.ofNat id :: s.chosen.map Prod.fst, IsField field :=
  List.forall_mem_cons.2 ⟨⟨by decide, by decide⟩, List.forall_mem_cons.2
    ⟨isField_of_isToken (Numeral.isToken_ofNat _), isField_of_mem_chosen s⟩⟩

/-- A message can travel in a block. -/
theorem isPlain_data (id : Nat) (s : VisibilitySensor) : (s.data id).IsPlain := by
  have hcolon : Text.IsPlain [':'] := by decide
  rw [data_eq]
  exact Text.isPlain_intercalate hcolon fun field hfield =>
    (isField_of_mem_data id s field hfield).2

/-! ## Bits -/

/-- The bits of a mask in ascending order. -/
structure IsBitsOf (mask : Nat) (bits : List Nat) : Prop where
  ascending : bits.Pairwise (· < ·)
  mem_iff : ∀ bit, bit ∈ bits ↔ mask.testBit bit = true

/-- The fields of a message behind the address: one for every bit that is asked for. -/
structure Tabulated (d : Device VisibilitySensor) (bits : List Nat) (fields : List Text) :
    Prop where
  isBitsOf : IsBitsOf d.registers.chosenFields bits
  pieces_eq : Text.pieces (· == ':') (d.registers.data d.address) =
    "DATA".toList :: Numeral.ofNat d.address :: fields
  fields_eq : List.Forall₂ (fun bit field => d.registers.fields[bit]? = some field) bits fields

/-- A mask has the bits of one list. -/
theorem IsBitsOf.unique {mask : Nat} {a b : List Nat} (ha : IsBitsOf mask a)
    (hb : IsBitsOf mask b) : a = b :=
  ha.ascending.eq_of_mem_iff hb.ascending fun bit => (ha.mem_iff bit).trans (hb.mem_iff bit).symm

/-- A mask that asks for fields that there are has no bits besides theirs. -/
theorem isBitsOf_filter {mask : Nat} (h : mask &&& allFields = mask) :
    IsBitsOf mask ((List.range 9).filter mask.testBit) where
  ascending := List.pairwise_lt_range.filter _
  mem_iff bit := by
    rw [List.mem_filter, List.mem_range]
    refine ⟨fun hbit => hbit.2, fun hbit => ⟨?_, hbit⟩⟩
    have hmask : mask < 2 ^ 9 := by
      have hle : mask &&& allFields ≤ allFields := Nat.and_le_right
      rw [h] at hle
      exact Nat.lt_of_le_of_lt hle (by decide)
    refine Nat.lt_of_not_le fun hle => ?_
    -- A bit behind those of the fields is worth more than the whole mask.
    have hzero : mask.testBit bit = false := Nat.testBit_lt_two_pow
      (Nat.lt_of_lt_of_le hmask (Nat.pow_le_pow_right (by decide) hle))
    rw [hzero] at hbit
    exact absurd hbit (by decide)

/-- The positions of the elements that are left are those at which a filter holds. -/
theorem map_snd_filter_zipIdx {α : Type} (p : Nat → Bool) (l : List α) :
    (l.zipIdx.filter (p ∘ Prod.snd)).map Prod.snd = (List.range l.length).filter p := by
  rw [List.range_eq_range', ← List.zipIdx_map_snd, List.filter_map]

/-- The type of the message, the address, and the fields that are asked for. -/
theorem Tabulated.length_pieces {bits : List Nat} {fields : List Text}
    (h : Tabulated d bits fields) :
    (Text.pieces (· == ':') (d.registers.data d.address)).length = 2 + bits.length := by
  rw [h.pieces_eq, List.length_cons, List.length_cons, ← h.fields_eq.length_eq]
  omega

/-- A standard message has four fields. -/
theorem Tabulated.length_of_standard {bits : List Nat} {fields : List Text}
    (h : Tabulated d bits fields) (hformat : d.registers.active.format = .standard) :
    bits.length = 4 := by
  have hchosen : d.registers.chosenFields = standardFields := by rw [chosenFields, hformat]
  have hbits := h.isBitsOf
  rw [hchosen] at hbits
  -- The bits are only known by what they are, so they are compared with a list that can be counted.
  rw [hbits.unique (isBitsOf_filter (by decide))]
  decide

/-- The chosen fields are fields that there are. -/
theorem chosenFields_and (hd : HasKnownMask d) :
    d.registers.chosenFields &&& allFields = d.registers.chosenFields := by
  rw [chosenFields]
  split
  · decide
  · exact hd

/-- The message of a sensor has one field for each bit that is asked for. -/
theorem exists_tabulated (hd : HasKnownMask d) : ∃ bits fields, Tabulated d bits fields := by
  refine ⟨d.registers.chosen.map Prod.snd, d.registers.chosen.map Prod.fst, ?_, ?_, ?_⟩
  · have hbits : d.registers.chosen.map Prod.snd =
        (List.range 9).filter d.registers.chosenFields.testBit := map_snd_filter_zipIdx _ _
    rw [hbits]
    exact isBitsOf_filter (chosenFields_and hd)
  · rw [data_eq]
    exact Text.pieces_intercalate (List.cons_ne_nil _ _) fun field hfield =>
      (isField_of_mem_data _ _ field hfield).1
  · rw [List.forall₂_map_left_iff, List.forall₂_map_right_iff, List.forall₂_same]
    exact fun entry hentry => List.mem_zipIdx_iff_getElem?.1 (List.mem_of_mem_filter hentry)

end VisibilitySensor

end WeatherBus
