import WeatherBus.Proofs.BusBarometer.Period
import WeatherBus.Proofs.Instrument.Timing
import WeatherBus.Proofs.Number.Magnitude

/-! # What a command makes of a bus barometer

A command changes one register, or two if it chooses format and interval, and writes nothing to a
register that has not been checked before. The interval is checked as a double, and written in
hundredths of a second after a multiplication that rounds.

* **`BusBarometer.Effect`** — what a command can make of a barometer; `effect_apply`;
* **`BusBarometer.InRange`** — all registers are in their ranges; `inRange_run`;
* **`InRange.measurement`**, **`InRange.unit`** — so there are a format for every measurement and a
  unit for its code. -/

namespace WeatherBus

namespace BusBarometer

/-! ## One command -/

section Effect

variable {d e : Device BusBarometer}

/-- What a command can make of a barometer. -/
inductive Effect (d : Device BusBarometer) : Device BusBarometer → Prop where
  | unchanged : Effect d d
  | format {number : Nat} (h : number ≤ maxFormat) :
      Effect d (d.mapRegisters ({ · with format := number }))
  | interval {seconds : Float} (h : Binary64.inRange 0.0 maxInterval seconds = true) :
      Effect d (setInterval seconds d)
  | formatAndInterval {number : Nat} {seconds : Float} (h : number ≤ maxFormat)
      (h' : Binary64.inRange 0.0 maxInterval seconds = true) :
      Effect d (setInterval seconds (d.mapRegisters ({ · with format := number })))
  | unit {code : Nat} (h : code ≤ units.length - 1) :
      Effect d (d.mapRegisters ({ · with unitCode := code }))
  | filter {count : Nat} (h : count ≤ maxFilter) :
      Effect d (d.mapRegisters ({ · with filter := count }))
  | checksum (checked : Bool) : Effect d (d.mapRegisters ({ · with checked }))
  | offset {value : Float} (h : value.abs ≤ maxOffset) :
      Effect d (d.mapRegisters ({ · with offset := value }))
  | gain {value : Float} (h : Binary64.inRange gains.1 gains.2 value = true) :
      Effect d (d.mapRegisters ({ · with gain := value }))
  | started : Effect d (d.mapSchedule Schedule.start)
  | stopped : Effect d (d.mapSchedule Schedule.stop)

/-- What passes the check is within the bound. -/
theorem le_of_upTo {name : String} {high value : Nat} {n : Int}
    (h : upTo name high n = .ok value) : value ≤ high := by
  unfold upTo at h
  split at h
  · obtain rfl := Except.ok.inj h
    omega
  · exact absurd h (by simp)

/-- A number that is stored has been checked. -/
theorem effect_store {name : String} {high : Nat} {put : Nat → BusBarometer → BusBarometer}
    (h : ∀ value ≤ high, Effect d (d.mapRegisters (put value))) (n : Int) :
    Effect d (store name high n put d).1 := by
  rw [store]
  split
  · rename_i value hvalue
    exact h value (le_of_upTo hvalue)
  · exact .unchanged

/-- A calibration is one of the effects. -/
theorem effect_calibrate (number point : Int) (value : Float) :
    Effect d (calibrate number point value d).1 := by
  unfold calibrate
  split
  · exact .unchanged
  · split
    · split
      · rename_i hoffset
        exact .offset hoffset
      · exact .unchanged
    · split
      · split
        · rename_i hgain
          exact .gain hgain
        · exact .unchanged
      · exact .unchanged

/-- A choice of the format stores it, or changes nothing. -/
theorem chooseFormat_cases (format : Option Int) (d : Device BusBarometer) :
    (chooseFormat format d).1 = d ∨ ∃ number ≤ maxFormat,
      (chooseFormat format d).1 = d.mapRegisters ({ · with format := number }) := by
  unfold chooseFormat
  split
  · exact .inl rfl
  · split
    · rename_i number hnumber
      exact .inr ⟨number, le_of_upTo hnumber, rfl⟩
    · exact .inl rfl

/-- A choice of the interval stores it, or changes nothing. -/
theorem chooseInterval_cases (interval : Option Float) (d : Device BusBarometer) :
    (chooseInterval interval d).1 = d ∨
      ∃ seconds, Binary64.inRange 0.0 maxInterval seconds = true ∧
        (chooseInterval interval d).1 = setInterval seconds d := by
  unfold chooseInterval
  split
  · exact .inl rfl
  · split
    · rename_i seconds hseconds
      exact .inr ⟨seconds, hseconds, rfl⟩
    · exact .inl rfl

/-- Format and interval are chosen each on its own, so there are four cases. -/
theorem effect_autoSend (format : Option Int) (interval : Option Float) :
    Effect d (autoSend format interval d).1 := by
  rw [autoSend_fst]
  rcases chooseInterval_cases interval (chooseFormat format d).1 with hkept | ⟨seconds, hs, hset⟩
  · rw [hkept]
    rcases chooseFormat_cases format d with hsame | ⟨number, hnumber, hchosen⟩
    · rw [hsame]
      exact .unchanged
    · rw [hchosen]
      exact .format hnumber
  · rw [hset]
    rcases chooseFormat_cases format d with hsame | ⟨number, hnumber, hchosen⟩
    · rw [hsame]
      exact .interval hs
    · rw [hchosen]
      exact .formatAndInterval hnumber hs

/-- Every command does one of these things. -/
theorem effect_apply (request : Request Command) (d : Device BusBarometer) :
    Effect d (apply request d).1 := by
  obtain ⟨target, checksum, command, text⟩ := request
  cases command with
  | queryAutoSend => exact .unchanged
  | autoSend format interval => exact effect_autoSend format interval
  | queryAddress => exact .unchanged
  | setAddress n => exact .unchanged
  | queryUnit => exact .unchanged
  | setUnit n => exact effect_store (fun _ => .unit) n
  | queryFilter => exact .unchanged
  | setFilter n => exact effect_store (fun _ => .filter) n
  | queryChecksum => exact .unchanged
  | setChecksum n => exact effect_store (fun value _ => .checksum (value == 1)) n
  | calibrate number point value => exact effect_calibrate number point value
  | poll => exact .unchanged
  | resume => exact .started
  | stop => exact .stopped
  | identify => exact .unchanged
  | unknown text => exact .unchanged

/-- An interval starts the output or stops it, so it changes the schedule once. -/
theorem adjusts_setInterval (seconds : Float) (d : Device BusBarometer) :
    d.schedule.Adjusts (setInterval seconds d).schedule := by
  simp only [setInterval]
  split
  · exact ⟨_, .continuous, rfl⟩
  · exact ⟨_, .stopped, rfl⟩

/-- Every effect adjusts the schedule, or leaves it alone. -/
theorem Effect.adjusts (h : Effect d e) : d.schedule.Adjusts e.schedule := by
  cases h with
  | interval h => exact adjusts_setInterval _ d
  | formatAndInterval h h' => exact adjusts_setInterval _ (d.mapRegisters _)
  | started => exact Schedule.adjusts_setMode _ _
  | stopped => exact Schedule.adjusts_setMode _ _
  | unchanged => exact .refl _
  | format h => exact .refl _
  | unit h => exact .refl _
  | filter h => exact .refl _
  | checksum checked => exact .refl _
  | offset h => exact .refl _
  | gain h => exact .refl _

end Effect

instance : Timed BusBarometer where
  adjusts request d := (effect_apply request d).adjusts

/-! ## Ranges -/

section Range

variable {d e : Device BusBarometer}

/-- All registers of a barometer are in their ranges. -/
structure InRange (d : Device BusBarometer) : Prop where
  format_le : d.registers.format ≤ 12
  unitCode_le : d.registers.unitCode ≤ 5
  filter_le : d.registers.filter ≤ 99
  /-- In hundredths of a second. -/
  interval_le : d.registers.interval ≤ 999900
  offset_le : d.registers.offset.abs ≤ 10.0
  gain : Binary64.Within 0.9 1.1 d.registers.gain

/-- The settings of a new barometer are in their ranges. -/
theorem inRange_new (address : Nat) : InRange (new address) where
  format_le := by
    show 1 ≤ 12
    decide
  unitCode_le := Nat.zero_le _
  filter_le := Nat.zero_le _
  interval_le := Nat.zero_le _
  offset_le := by
    show Float.abs 0.0 ≤ 10.0
    decide +kernel
  gain := .of_inRange (show Binary64.inRange 0.9 1.1 1.0 = true by decide +kernel)

/-- What is written for an interval that has been checked. The product with 100 is rounded twice,
and passes the largest one neither time. -/
theorem interval_setInterval_le {seconds : Float}
    (h : Binary64.inRange 0.0 maxInterval seconds = true) (d : Device BusBarometer) :
    (setInterval seconds d).registers.interval ≤ 999900 := by
  have hmax : Binary64.IsWhole maxInterval 9999 := ⟨39, by decide, rfl, by decide⟩
  have hfactor : Binary64.IsWhole 100.0 100 := ⟨46, by decide, rfl, by decide⟩
  exact Binary64.roundUp_mul_le h hmax hfactor (by decide)

/-- Every command keeps the registers in their ranges. -/
theorem InRange.effect (h : InRange d) (heffect : Effect d e) : InRange e := by
  cases heffect with
  | unchanged => exact h
  | format hformat => exact { h with format_le := hformat }
  | interval hseconds => exact { h with interval_le := interval_setInterval_le hseconds d }
  | formatAndInterval hformat hseconds =>
    exact { h with
      format_le := hformat
      interval_le := interval_setInterval_le hseconds _ }
  | unit hcode => exact { h with unitCode_le := hcode }
  | filter hcount => exact { h with filter_le := hcount }
  | checksum checked => exact { h with }
  | offset hoffset => exact { h with offset_le := hoffset }
  | gain hgain => exact { h with gain := .of_inRange hgain }
  | started => exact { h with }
  | stopped => exact { h with }

/-- Every operation keeps the registers in their ranges. -/
theorem deviceInvariant_inRange : Bus.DeviceInvariant maxAddress InRange where
  apply request h := h.effect (effect_apply request _)
  move _ h := { h with }
  observe _ h := { h with }
  markSent _ h := { h with }

/-- After every run, all registers are in their ranges. -/
theorem inRange_run {count : Nat} {start : Bus BusBarometer} (h : bus count = .ok start)
    (operations : List Bus.Operation) : (start.run operations).Throughout maxAddress InRange :=
  deviceInvariant_inRange.invariant.run operations (throughout_bus inRange_new h)

/-- There is a format of the number that has been chosen. -/
theorem InRange.preset (h : InRange d) : ∃ format, preset d.registers.format = .ok format := by
  have hall : ∀ number < 13, ((BusBarometer.preset number).toOption).isSome = true := by
    decide +kernel
  have hsome := hall d.registers.format (Nat.lt_succ_of_le h.format_le)
  cases hpreset : BusBarometer.preset d.registers.format with
  | ok format => exact ⟨format, rfl⟩
  | error fault =>
    rw [hpreset] at hsome
    exact absurd hsome Bool.false_ne_true

/-- So every measurement has a format. -/
theorem InRange.measurement (h : InRange d) (timestamp : Timestamp) :
    ∃ format, BusBarometer.preset d.registers.format = .ok format ∧
      measurement timestamp d =
        frame d (format.output vocabulary (d.registers.reading timestamp d.serial)) := by
  obtain ⟨format, hformat⟩ := h.preset
  refine ⟨format, hformat, ?_⟩
  rw [BusBarometer.measurement, hformat]

/-- There is a unit of the code that has been chosen. -/
theorem InRange.unit (h : InRange d) :
    units[d.registers.unitCode]? = some d.registers.unit := by
  have hlt : d.registers.unitCode < units.length := Nat.lt_succ_of_le h.unitCode_le
  rw [BusBarometer.unit, List.getElem?_eq_getElem hlt, Option.getD_some]

end Range

end BusBarometer

end WeatherBus
