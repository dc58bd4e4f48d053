import WeatherBus.DigitalBarometer.Instrument
import WeatherBus.HumidityProbe.Instrument
import WeatherBus.Proofs.BusBarometer.Effect
import WeatherBus.Proofs.Instrument.Field
import WeatherBus.VisibilitySensor.Instrument

/-! # Commands that set several registers

Four commands set several registers at once: format and interval of a bus barometer, the settings
of a visibility sensor, the serial line of a digital barometer, and the limits for the heating of a
humidity probe. For each of them there are the rules of its fields, what is wrong with its fields
in the order in which they are written, and the device afterwards.

* **`sets_fields_separately`** — every one of these commands takes its fields over one by one,
  whatever the other fields are, and a sensor moves only if all fields of its command are right. -/

namespace WeatherBus

/-! ## Format and interval of a bus barometer -/

namespace BusBarometer

variable {format : Option Int} {interval : Option Float} {d : Device BusBarometer}

/-- The number of a format. -/
def formatRule : FieldRule Int Nat := .upTo "format" 12

/-- An interval in seconds, stored in hundredths. -/
def intervalRule : FieldRule Float Nat where
  accepts x := Binary64.inRange 0.0 9999.0 x
  store x := Binary64.roundUp (x * 100.0)
  complaint x := .outOfRange "interval" x 0.0 9999.0

/-- What is wrong with the fields, in their order. -/
def autoSendFaults (format : Option Int) (interval : Option Float) : List (Option Fault) :=
  [formatRule.fault? format, intervalRule.fault? interval]

/-- A schedule after a new interval, which stops the output if it is zero. -/
def reschedule (schedule : Schedule) (hundredths : Nat) : Schedule :=
  let spaced := schedule.setInterval (hundredths * 10)
  if 0 < hundredths then spaced.setMode .continuous else spaced.setMode .stopped

/-- The barometer with all fields that are right. -/
def withAutoSend (format : Option Int) (interval : Option Float) (d : Device BusBarometer) :
    Device BusBarometer :=
  { d with
    schedule := (intervalRule.map (reschedule d.schedule)).after interval d.schedule
    registers := { d.registers with
      format := formatRule.after format d.registers.format
      interval := intervalRule.after interval d.registers.interval } }

/-- The format is chosen by its rule. -/
theorem chooseFormat_eq : chooseFormat format d =
    (d.mapRegisters fun r => { r with format := formatRule.after format r.format },
      formatRule.fault? format) := by
  refine formatRule.cases (motive := fun format number fault => chooseFormat format d =
    (d.mapRegisters fun r => { r with format := number }, fault)) _ rfl ?_ ?_ format
  · intro n h
    have hcheck : upTo "format" maxFormat n = .ok n.toNat := if_pos ((FieldRule.accepts_upTo _).1 h)
    simp only [chooseFormat, hcheck]
    rfl
  · intro n h
    have hcheck : upTo "format" maxFormat n = .error (formatRule.complaint n) :=
      if_neg fun hn => h ((FieldRule.accepts_upTo _).2 hn)
    simp only [chooseFormat, hcheck]
    rfl

/-- The interval is chosen by its rule, and the schedule follows it. -/
theorem chooseInterval_eq : chooseInterval interval d =
    ({ d with
      schedule := (intervalRule.map (reschedule d.schedule)).after interval d.schedule
      registers := { d.registers with
        interval := intervalRule.after interval d.registers.interval } },
      intervalRule.fault? interval) := by
  cases interval with
  | none => rfl
  | some x =>
    -- The check is the same for both forms in which an interval is kept.
    have hmap : (intervalRule.map (reschedule d.schedule)).accepts x = intervalRule.accepts x := rfl
    by_cases h : intervalRule.accepts x = true
    · rw [FieldRule.after_of_accepts h, FieldRule.after_of_accepts (hmap.trans h),
        FieldRule.fault?_of_accepts h]
      exact if_pos h
    · rw [FieldRule.after_of_refuses h, FieldRule.after_of_refuses (hmap ▸ h),
        FieldRule.fault?_of_refuses h]
      exact if_neg h

/-- Format and interval are chosen one after the other. -/
theorem fieldwise_autoSend : Fieldwise (autoSendFaults format interval)
    (withAutoSend format interval d) (autoSend format interval d) := by
  have hfirst : Fault.first? (autoSendFaults format interval) =
      (formatRule.fault? format).or (intervalRule.fault? interval) := by
    rw [autoSendFaults, Fault.first?]
    cases formatRule.fault? format with
    | none => cases intervalRule.fault? interval <;> rfl
    | some fault => rfl
  refine .of_first? (.sayAndWake (withAutoSend format interval d).registers.autoSendReport) ?_ ?_
  · rw [autoSend_fst, chooseFormat_eq, chooseInterval_eq]
    rfl
  · simp only [autoSend, chooseFormat_eq, chooseInterval_eq, hfirst]
    cases (formatRule.fault? format).or (intervalRule.fault? interval) with
    | none => rfl
    | some fault => rfl

end BusBarometer

/-! ## Settings of a visibility sensor -/

namespace VisibilitySensor

/-- The address. -/
def idRule : FieldRule Int Nat := .upTo "id" 9

/-- The interval of the continuous mode in seconds. -/
def intervalRule : FieldRule Int Nat := .upTo "interval" 3600

/-- What a message holds. -/
def formatRule : FieldRule Int MessageFormat :=
  (FieldRule.upTo "format" 1).map fun n => if n = 0 then .standard else .custom

/-- Whether messages are sent without being asked for. -/
def modeRule : FieldRule Int OutputMode :=
  (FieldRule.upTo "mode" 1).map fun n => if n = 0 then .polled else .continuous

/-- The code of the line speed. -/
def baudRule : FieldRule Int Nat := .upTo "baud" 7

/-- The unit of visibilities. -/
def unitRule : FieldRule Int LengthUnit :=
  (FieldRule.upTo "units" 1).map fun n => if n = 0 then .metre else .foot

/-- The number of samples that make up a visibility. -/
def averagingRule : FieldRule Int Nat where
  accepts n := n = 1 ∨ n = 10
  store := Int.toNat
  complaint n := .invalidParameter s!"averaging must be 1 or 10, got {n}"

/-- Whether frames without a checksum are refused. -/
def checkedRule : FieldRule Int Bool := (FieldRule.upTo "crc" 1).map (· == 1)

/-- What is wrong with the fields, in their order. -/
def changeFaults (u : SettingsUpdate) : List (Option Fault) :=
  [idRule.fault? u.id, intervalRule.fault? u.interval, formatRule.fault? u.format,
    modeRule.fault? u.mode, baudRule.fault? u.baud, unitRule.fault? u.unit,
    averagingRule.fault? u.averaging, checkedRule.fault? u.checked]

/-- The settings with all fields that are right. -/
def Settings.withFields (u : SettingsUpdate) (s : Settings) : Settings where
  interval := intervalRule.after u.interval s.interval
  format := formatRule.after u.format s.format
  mode := modeRule.after u.mode s.mode
  baud := baudRule.after u.baud s.baud
  unit := unitRule.after u.unit s.unit
  averaging := averagingRule.after u.averaging s.averaging
  checked := checkedRule.after u.checked s.checked

/-- The address that a sensor is to have, which it keeps if anything is wrong. -/
def addressAfter (u : SettingsUpdate) (address : Nat) : Nat :=
  if ∀ complaint ∈ changeFaults u, complaint = none then idRule.after u.id address else address

/-- The sensor with all fields that are right, before it moves. With `keep` they are also those
that a reset brings back. -/
def withChange (keep : Bool) (u : SettingsUpdate) (d : Device VisibilitySensor) :
    Device VisibilitySensor :=
  let settings := d.registers.active.withFields u
  { d with
    schedule := (d.schedule.setInterval (settings.interval * 1000)).setMode settings.mode
    registers := { d.registers with
      active := settings
      committed := if keep then settings else d.registers.committed
      committedId := if keep then addressAfter u d.address else d.registers.committedId } }

/-- The command that changes the settings for good, or up to the next reset. -/
def Command.setting (keep : Bool) (u : SettingsUpdate) : Command :=
  if keep then .set u else .setUntilReset u

section Fields

variable {name : String} {high : Nat} {field : Option Int}

/-- A field beyond its bound is refused as its rule says. -/
theorem beyond?_eq : beyond? name high field = (FieldRule.upTo name high).fault? field :=
  (FieldRule.upTo name high).cases
    (motive := fun field _ fault => beyond? name high field = fault) 0 rfl
    (fun _ h => if_pos ((FieldRule.accepts_upTo name).1 h))
    (fun _ h => if_neg fun hn => h ((FieldRule.accepts_upTo name).2 hn)) field

/-- A field within its bound is stored as its rule says, whatever is made of it. -/
theorem getD_map_upTo? {β : Type} (f : Nat → β) (old : β) :
    ((upTo? high field).map f).getD old = ((FieldRule.upTo name high).map f).after field old := by
  refine ((FieldRule.upTo name high).map f).cases
    (motive := fun field value _ => ((upTo? high field).map f).getD old = value) old rfl ?_ ?_ field
  · intro n h
    have hn : upTo? high (some n) = some n.toNat := if_pos ((FieldRule.accepts_upTo name).1 h)
    rw [hn]
    rfl
  · intro n h
    have hn : upTo? high (some n) = none :=
      if_neg fun hn => h ((FieldRule.accepts_upTo name).2 hn)
    rw [hn]
    rfl

/-- The same for a field that is stored as it is. -/
theorem getD_upTo? (old : Nat) :
    (upTo? high field).getD old = (FieldRule.upTo name high).after field old := by
  have h : ((upTo? high field).map id).getD old =
      ((FieldRule.upTo name high).map id).after field old := getD_map_upTo? id old
  rwa [Option.map_id_fun, id] at h

/-- A number of samples is refused as its rule says. -/
theorem wrongSampleCount?_eq : wrongSampleCount? field = averagingRule.fault? field :=
  averagingRule.cases (motive := fun field _ fault => wrongSampleCount? field = fault) 0 rfl
    (fun _ h => if_pos (of_decide_eq_true h)) (fun _ h => if_neg fun hn => h (decide_eq_true hn))
    field

/-- And it is stored as its rule says. -/
theorem getD_sampleCount? (old : Nat) :
    (sampleCount? field).getD old = averagingRule.after field old := by
  refine averagingRule.cases (motive := fun field value _ => (sampleCount? field).getD old = value)
    old rfl ?_ ?_ field
  · intro n h
    have hn : sampleCount? (some n) = some n.toNat := if_pos (of_decide_eq_true h)
    rw [hn]
    rfl
  · intro n h
    have hn : sampleCount? (some n) = none := if_neg fun hn => h (decide_eq_true hn)
    rw [hn]
    rfl

end Fields

variable {keep : Bool} {u : SettingsUpdate} {d : Device VisibilitySensor}

/-- An update sets all fields by their rules. -/
theorem update_eq (s : Settings) : s.update u = s.withFields u := by
  rw [Settings.update, Settings.withFields, Settings.mk.injEq]
  exact ⟨getD_upTo? _, getD_map_upTo? _ _, getD_map_upTo? _ _, getD_upTo? _, getD_map_upTo? _ _,
    getD_sampleCount? _, getD_map_upTo? _ _⟩

/-- It tells the first fault of all fields that it changes. -/
theorem fault?_eq (u : SettingsUpdate) : u.fault? = Fault.first? (changeFaults u) := by
  rw [SettingsUpdate.fault?, changeFaults, wrongSampleCount?_eq]
  simp only [beyond?_eq]
  rfl

/-- The address is taken over only if all fields are right. -/
theorem addressAfter_eq (u : SettingsUpdate) (address : Nat) : addressAfter u address =
    match u.fault? with
    | some _ => address
    | none => u.newId?.getD address := by
  have hid : u.newId?.getD address = idRule.after u.id address := getD_upTo? address
  have hnone : (∀ complaint ∈ changeFaults u, complaint = none) ↔ u.fault? = none := by
    rw [fault?_eq, Fault.first?_eq_none_iff]
  rw [addressAfter, hid]
  cases hf : u.fault? with
  | none => exact if_pos (hnone.2 hf)
  | some fault => exact if_neg fun hall => by simp [hnone.1 hall] at hf

/-- What becomes of a sensor, and its answer. -/
theorem change_eq : change keep u d = (withChange keep u d,
    match Fault.first? (changeFaults u) with
    | some fault => .error fault
    | none => .ok (settled (addressAfter u d.address) (withChange keep u d))) := by
  rw [withChange, ← update_eq, ← fault?_eq, addressAfter_eq]
  simp only [change]
  cases u.fault? with
  | none => cases keep <;> rfl
  | some fault => cases keep <;> rfl

/-- The settings are changed one after the other. -/
theorem fieldwise_change :
    Fieldwise (changeFaults u) (withChange keep u d) (change keep u d) := by
  rw [change_eq]
  exact .of_first? (settled (addressAfter u d.address) (withChange keep u d)) rfl rfl

/-- A sensor asks to be moved to the address of its field, if it is not there. -/
theorem getD_moveTo_of_change {outcome : Outcome} (h : (change keep u d).2 = .ok outcome) :
    outcome.moveTo.getD d.address = idRule.after u.id d.address := by
  have haddress : addressAfter u d.address = idRule.after u.id d.address :=
    if_pos (fieldwise_change.accepted_iff.1 ⟨outcome, h⟩)
  rw [change_eq] at h
  split at h
  · exact absurd h (by simp)
  · rw [← Except.ok.inj h, ← haddress, settled]
    by_cases hsame : addressAfter u d.address = d.address
    · rw [hsame]
      simp [withChange]
    · simp [withChange, hsame]

/-- A setting is changed by its update. -/
theorem apply_setting {request : Request Command} (h : request.command = .setting keep u) :
    apply request d = change keep u d := by
  rw [apply, h]
  cases keep with
  | false => rfl
  | true => rfl

/-- Only a request of which all fields are right moves a sensor. -/
theorem eq_none_of_addresses_ne {request : Request Command}
    (h : request.command = .setting keep u) {bus : Bus VisibilitySensor} {address : Nat}
    (hmoved : (bus.dispatchTo request address).1.addresses ≠ bus.addresses) :
    ∀ complaint ∈ changeFaults u, complaint = none := by
  rw [Bus.dispatchTo] at hmoved
  split at hmoved
  · exact absurd rfl hmoved
  · split at hmoved
    · exact absurd rfl hmoved
    · split at hmoved
      · exact absurd (Bus.addresses_replace _ _ _) hmoved
      · rename_i changed outcome happly
        have hchange : change keep u _ = _ := (apply_setting h).symm.trans happly
        exact fieldwise_change.accepted_iff.1 ⟨outcome, congrArg Prod.snd hchange⟩

end VisibilitySensor

/-! ## The serial line of a digital barometer -/

namespace DigitalBarometer

/-- The rate. -/
def baudRule : FieldRule Int Nat where
  accepts n := n ∈ [300, 600, 1200, 2400, 4800, 9600, 19200, 38400, 57600, 115200]
  store := Int.toNat
  complaint n := .invalidParameter s!"baud rate {n}"

/-- The parity, which may be none that is known. -/
def parityRule : FieldRule (Option Parity) Parity where
  accepts := Option.isSome
  store parity := parity.getD .none
  complaint _ := .invalidParameter "parity"

/-- The data bits. -/
def dataBitsRule : FieldRule Int Nat where
  accepts n := n = 7 ∨ n = 8
  store := Int.toNat
  complaint n := .outOfWholeRange "data bits" n 7 8

/-- The stop bits. -/
def stopBitsRule : FieldRule Int Nat where
  accepts n := n = 1 ∨ n = 2
  store := Int.toNat
  complaint n := .outOfWholeRange "stop bits" n 1 2

/-- What is wrong with the fields, in their order. -/
def lineFaults (u : LineUpdate) : List (Option Fault) :=
  [baudRule.fault? u.baud, parityRule.fault? u.parity, dataBitsRule.fault? u.dataBits,
    stopBitsRule.fault? u.stopBits]

/-- The barometer with all fields that are right. -/
def withLine (u : LineUpdate) (d : Device Registers) : Device Registers :=
  let b := d.registers.own
  { d with registers := { d.registers with own := { b with line := {
      baud := baudRule.after u.baud b.line.baud
      parity := parityRule.after u.parity b.line.parity
      dataBits := dataBitsRule.after u.dataBits b.line.dataBits
      stopBits := stopBitsRule.after u.stopBits b.line.stopBits } } } }

section Fields

variable {s : LineSettings} {field : Option Int}

/-- The rate is chosen by its rule. -/
theorem chooseBaud_eq : chooseBaud field s =
    ({ s with baud := baudRule.after field s.baud }, baudRule.fault? field) :=
  baudRule.cases
    (motive := fun field baud fault => chooseBaud field s = ({ s with baud }, fault)) s.baud rfl
    (fun _ h => if_pos (List.contains_iff_mem.2 (of_decide_eq_true h)))
    (fun _ h => if_neg fun hn => h (decide_eq_true (List.contains_iff_mem.1 hn))) field

/-- The parity is chosen by its rule. -/
theorem chooseParity_eq {field : Option (Option Parity)} : chooseParity field s =
    ({ s with parity := parityRule.after field s.parity }, parityRule.fault? field) := by
  cases field with
  | none => rfl
  | some parity =>
    cases parity with
    | none => rfl
    | some parity => rfl

/-- The number of data bits is chosen by its rule. -/
theorem chooseDataBits_eq : chooseDataBits field s =
    ({ s with dataBits := dataBitsRule.after field s.dataBits }, dataBitsRule.fault? field) :=
  dataBitsRule.cases
    (motive := fun field dataBits fault => chooseDataBits field s = ({ s with dataBits }, fault))
    s.dataBits rfl (fun _ h => if_pos (of_decide_eq_true h))
    (fun _ h => if_neg fun hn => h (decide_eq_true hn)) field

/-- The number of stop bits is chosen by its rule. -/
theorem chooseStopBits_eq : chooseStopBits field s =
    ({ s with stopBits := stopBitsRule.after field s.stopBits }, stopBitsRule.fault? field) :=
  stopBitsRule.cases
    (motive := fun field stopBits fault => chooseStopBits field s = ({ s with stopBits }, fault))
    s.stopBits rfl (fun _ h => if_pos (of_decide_eq_true h))
    (fun _ h => if_neg fun hn => h (decide_eq_true hn)) field

end Fields

/-- The settings of the serial line are changed one after the other. -/
theorem fieldwise_line {u : LineUpdate} {d : Device Registers} :
    Fieldwise (lineFaults u) (withLine u d) (apply (.line (.set u)) d) := by
  have hupdate : d.registers.own.line.update u =
      ((withLine u d).registers.own.line, Fault.first? (lineFaults u)) := by
    simp only [LineSettings.update, chooseBaud_eq, chooseParity_eq, chooseDataBits_eq,
      chooseStopBits_eq]
    rfl
  refine .of_first? (.say (withLine u d).registers.own.lineReport) ?_ ?_
  · simp only [apply, hupdate]
    rfl
  · simp only [apply, hupdate]
    rfl

end DigitalBarometer

/-! ## The limits for the heating of a humidity probe -/

namespace HumidityProbe

/-- The relative humidity. -/
def humidityRule : FieldRule Int Nat := .upTo "heat RH limit" 100

/-- The temperature. -/
def temperatureRule : FieldRule Int Nat := .upTo "heat temperature" 200

/-- The time. -/
def timeRule : FieldRule Int Nat := .upTo "heat time" 255

/-- What is wrong with the fields, in their order. -/
def limitFaults (humidity temperature time : Option Int) : List (Option Fault) :=
  [humidityRule.fault? humidity, temperatureRule.fault? temperature, timeRule.fault? time]

/-- The probe with all limits that are right. -/
def withLimits (humidity temperature time : Option Int) (d : Device Registers) :
    Device Registers :=
  let p := d.registers.own
  { d with registers := { d.registers with own := { p with heating := { p.heating with
      humidityLimit := humidityRule.after humidity p.heating.humidityLimit
      temperature := temperatureRule.after temperature p.heating.temperature
      time := timeRule.after time p.heating.time } } } }

/-- A limit of the heating is chosen by its rule. -/
theorem chooseLimit_eq {name : String} {high old : Nat} {field : Option Int} :
    chooseLimit name high field old =
      ((FieldRule.upTo name high).after field old, (FieldRule.upTo name high).fault? field) :=
  (FieldRule.upTo name high).cases
    (motive := fun field limit fault => chooseLimit name high field old = (limit, fault)) old rfl
    (fun _ h => if_pos ((FieldRule.accepts_upTo name).1 h))
    (fun _ h => if_neg fun hn => h ((FieldRule.accepts_upTo name).2 hn)) field

/-- The limits are changed one after the other. -/
theorem fieldwise_limits {humidity temperature time : Option Int} {d : Device Registers} :
    Fieldwise (limitFaults humidity temperature time) (withLimits humidity temperature time d)
      (apply (.heating (.set (.limits humidity temperature time))) d) := by
  have hupdate : d.registers.own.heating.update humidity temperature time =
      ((withLimits humidity temperature time d).registers.own.heating,
        Fault.first? (limitFaults humidity temperature time)) := by
    simp only [Heating.update, chooseLimit_eq]
    rfl
  refine .of_first?
    (.say (withLimits humidity temperature time d).registers.own.heatingReport) ?_ ?_
  · simp only [apply, hupdate]
    rfl
  · simp only [apply, hupdate]
    rfl

end HumidityProbe

/-! ## All of them -/

/-- Every command that sets several registers takes its fields over one by one, whatever state the
device is in: a register has the value of its field if that is present and right, and else its old
value; the command is carried out exactly if no field is wrong, and the answer is otherwise the
complaint about the first wrong one. A visibility sensor asks to be moved to the address of its
field, and it is moved only if no field is wrong. A digital barometer and a humidity probe carry
such a command out whenever they listen. -/
theorem sets_fields_separately :
    (∀ (request : Request BusBarometer.Command) format interval (d : Device BusBarometer),
      Fieldwise (BusBarometer.autoSendFaults format interval)
        (BusBarometer.withAutoSend format interval d)
        (Instrument.apply { request with command := .autoSend format interval } d)) ∧
    (∀ (request : Request VisibilitySensor.Command) keep u (d : Device VisibilitySensor),
      let setting := { request with command := .setting keep u }
      Fieldwise (VisibilitySensor.changeFaults u) (VisibilitySensor.withChange keep u d)
        (Instrument.apply setting d) ∧
      (∀ outcome, (Instrument.apply setting d).2 = .ok outcome →
        outcome.moveTo.getD d.address = VisibilitySensor.idRule.after u.id d.address) ∧
      ∀ (bus : Bus VisibilitySensor) address,
        (bus.dispatchTo setting address).1.addresses ≠ bus.addresses →
        ∀ complaint ∈ VisibilitySensor.changeFaults u, complaint = none) ∧
    (∀ u (d : Device DigitalBarometer.Registers),
      let result := DigitalBarometer.apply (.line (.set u)) d
      Fieldwise (DigitalBarometer.lineFaults u) (DigitalBarometer.withLine u d) result ∧
      (d.registers.isListening = true →
        ∀ request : Request (Terminal.Command DigitalBarometer.Command),
          Instrument.apply { request with command := .own (.line (.set u)) } d = result)) ∧
    ∀ humidity temperature time (d : Device HumidityProbe.Registers),
      let limits := HumidityProbe.HeatingUpdate.limits humidity temperature time
      let result := HumidityProbe.apply (.heating (.set limits)) d
      Fieldwise (HumidityProbe.limitFaults humidity temperature time)
        (HumidityProbe.withLimits humidity temperature time d) result ∧
      (d.registers.isListening = true →
        ∀ request : Request (Terminal.Command HumidityProbe.Command),
          Instrument.apply { request with command := .own (.heating (.set limits)) } d =
            result) := by
  refine ⟨?_, ?_, ?_, ?_⟩
  · intro request format interval d
    exact BusBarometer.fieldwise_autoSend
  · intro request keep u d setting
    have happly : Instrument.apply setting d = VisibilitySensor.change keep u d :=
      VisibilitySensor.apply_setting rfl
    rw [happly]
    exact ⟨VisibilitySensor.fieldwise_change, fun _ => VisibilitySensor.getD_moveTo_of_change,
      fun _ _ => VisibilitySensor.eq_none_of_addresses_ne rfl⟩
  · intro u d result
    exact ⟨DigitalBarometer.fieldwise_line, fun hlistening _ => if_pos hlistening⟩
  · intro humidity temperature time d limits result
    exact ⟨HumidityProbe.fieldwise_limits, fun hlistening _ => if_pos hlistening⟩

/-- Commands with right and wrong fields beside each other, and one that moves a sensor. -/
theorem sets_fields_separately_partly :
    let heard {C : Type} (command : C) : Request C :=
      { target := .all, checksum := .valid, command, text := [] }
    let moving : VisibilitySensor.SettingsUpdate := { id := some 5, baud := some 7 }
    let mixed : DigitalBarometer.LineUpdate :=
      { baud := some 9600, parity := some none, dataBits := some 9, stopBits := some 2 }
    let barometer := DigitalBarometer.kind.new .stop 0
    let probe := HumidityProbe.kind.new .run 0
    (∃ start, VisibilitySensor.bus 2 = .ok start ∧
      (start.dispatchTo (heard (.setting true moving)) 0).1.addresses = [1, 5] ∧
      (∀ complaint ∈ VisibilitySensor.changeFaults moving, complaint = none) ∧
      ∃ outcome, (Instrument.apply (heard (.setting true moving)) (VisibilitySensor.new 0)).2 =
        .ok outcome ∧ outcome.moveTo.getD 0 = 5) ∧
    (barometer.registers.isListening = true ∧
      (Instrument.apply (heard (.own (.line (.set mixed)))) barometer).1.registers.own.line =
        { baud := 9600, parity := .even, dataBits := 7, stopBits := 2 } ∧
      (Instrument.apply (heard (.own (.line (.set mixed)))) barometer).2 =
        .error (.invalidParameter "parity")) ∧
    (probe.registers.isListening = true ∧
      (Instrument.apply (heard (.own (.heating (.set (.limits (some 50) (some 201) (some 60))))))
        probe).1.registers.own.heating =
        { enabled := false, humidityLimit := 50, temperature := 100, time := 60 }) := by
  intro heard moving mixed barometer probe
  obtain ⟨-, hsensor, hbarometer, hprobe⟩ := sets_fields_separately
  refine ⟨?_, ⟨rfl, ?_, ?_⟩, rfl, ?_⟩
  · -- That the sensor has moved is enough to know that all fields are right.
    obtain ⟨start, hstart, hmoved, hbefore⟩ : ∃ start, VisibilitySensor.bus 2 = .ok start ∧
        (start.dispatchTo (heard (.setting true moving)) 0).1.addresses = [1, 5] ∧
        start.addresses = [0, 1] := ⟨_, rfl, by decide +kernel, by decide +kernel⟩
    obtain ⟨hfields, hmove, hall⟩ :=
      hsensor (heard .get) true moving (VisibilitySensor.new 0)
    have hright := hall start 0 fun hsame =>
      absurd (hmoved.symm.trans (hsame.trans hbefore)) (by decide)
    obtain ⟨outcome, hok⟩ := hfields.accepted_iff.2 hright
    exact ⟨start, hstart, hmoved, hright, outcome, hok, hmove outcome hok⟩
  · obtain ⟨hfields, happly⟩ := hbarometer mixed barometer
    rw [happly rfl (heard .closeLine), hfields.stored]
    rfl
  · obtain ⟨hfields, happly⟩ := hbarometer mixed barometer
    rw [happly rfl (heard .closeLine)]
    exact (hfields.refused_iff _).2 ⟨[none], _, rfl, by simp⟩
  · obtain ⟨hfields, happly⟩ := hprobe (some 50) (some 201) (some 60) probe
    rw [happly rfl (heard .closeLine), hfields.stored]
    rfl

end WeatherBus
