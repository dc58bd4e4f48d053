import WeatherBus.Proofs.Instrument.Timing
import WeatherBus.Proofs.Kinds

/-! # What a command makes of a lightning detector

The interval is the only setting that has no register of its own. It is kept in the schedule, in
milliseconds.

* **`LightningDetector.Effect`** — what a command can make of a detector; `effect_apply`;
* **`LightningDetector.InRange`** — all settings are in their ranges; `inRange_run`. -/

namespace WeatherBus

namespace LightningDetector

variable {d e : Device LightningDetector}

/-! ## One command -/

/-- What a command can make of a detector. -/
inductive Effect (d : Device LightningDetector) : Device LightningDetector → Prop where
  | unchanged : Effect d d
  | mode (mode : OutputMode) : Effect d (d.mapSchedule (·.setMode mode))
  | interval {seconds : Nat} (hlow : 1 ≤ seconds) (hhigh : seconds ≤ 3600) :
      Effect d (d.mapSchedule (·.setInterval (seconds * 1000)))
  | message {text : Text} (h : text.length ≤ maxMessage) :
      Effect d (d.mapRegisters ({ · with message := text }))
  | range (range : DistanceUnit) : Effect d (d.mapRegisters ({ · with range }))
  | squelch {level : Nat} (h : level ≤ maxSquelch) :
      Effect d (d.mapRegisters ({ · with squelch := level }))
  | cleared : Effect d (d.mapRegisters ({ · with strikes := {} }))

/-- Every command does one of these things. -/
theorem effect_apply (request : Request Command) (d : Device LightningDetector) :
    Effect d (apply request d).1 := by
  obtain ⟨target, checksum, command, text⟩ := request
  cases command with
  | status => exact .unchanged
  | mode mode =>
    cases mode with
    | none => exact .unchanged
    | some mode => exact .mode mode
  | interval seconds =>
    simp only [apply]
    split
    · rename_i hrange
      obtain ⟨hlow, hhigh⟩ : 1 ≤ seconds ∧ seconds ≤ 3600 := hrange
      exact .interval (by omega) (by omega)
    · exact .unchanged
  | poll => exact .unchanged
  | message text =>
    simp only [apply]
    split
    · rename_i hlength
      exact .message hlength
    · exact .unchanged
  | range unit =>
    cases unit with
    | none => exact .unchanged
    | some unit => exact .range unit
  | squelch level =>
    simp only [apply]
    split
    · exact .squelch (by omega)
    · exact .unchanged
  | reset => exact .cleared
  | identify => exact .unchanged
  | unknown word => exact .unchanged

/-- Every effect adjusts the schedule, or leaves it alone. -/
theorem Effect.adjusts (h : Effect d e) : d.schedule.Adjusts e.schedule := by
  cases h with
  | mode mode => exact Schedule.adjusts_setMode _ _
  | interval hlow hhigh => exact Schedule.adjusts_setInterval _ _
  | unchanged => exact .refl _
  | message h => exact .refl _
  | range range => exact .refl _
  | squelch h => exact .refl _
  | cleared => exact .refl _

instance : Timed LightningDetector where
  adjusts request d := (effect_apply request d).adjusts

/-! ## Ranges -/

/-- All settings of a detector are in their ranges. -/
structure InRange (d : Device LightningDetector) : Prop where
  /-- The interval is a number of seconds. -/
  interval : ∃ seconds, d.schedule.interval = seconds * 1000 ∧ 1 ≤ seconds ∧ seconds ≤ 3600
  squelch_le : d.registers.squelch ≤ 15
  length_le : d.registers.message.length ≤ 32

/-- The settings of a new detector are in their ranges. -/
theorem inRange_new (serial : Text) : InRange (new serial) where
  interval := ⟨60, rfl, by decide, by decide⟩
  squelch_le := Nat.zero_le _
  length_le := Nat.zero_le _

/-- Every command keeps the settings in their ranges. -/
theorem InRange.effect (h : InRange d) (heffect : Effect d e) : InRange e := by
  cases heffect with
  | unchanged => exact h
  | mode mode => exact { h with }
  | interval hlow hhigh => exact { h with interval := ⟨_, rfl, hlow, hhigh⟩ }
  | message hlength => exact { h with length_le := hlength }
  | range range => exact { h with }
  | squelch hlevel => exact { h with squelch_le := hlevel }
  | cleared => exact { h with }

/-- A sample counts strikes and leaves the settings alone. -/
theorem observe_eq (sample : Sample) (r : LightningDetector) :
    ∃ strikes, observe sample r = { r with strikes } := by
  simp only [observe]
  split
  · exact ⟨r.strikes, rfl⟩
  · exact ⟨_, rfl⟩

/-- Every operation keeps the settings in their ranges. -/
theorem deviceInvariant_inRange : Bus.DeviceInvariant 0 InRange where
  apply request h := h.effect (effect_apply request _)
  move _ h := { h with }
  observe {d} sample h := by
    have hobserve : Instrument.observe sample d.registers = observe sample d.registers := rfl
    obtain ⟨strikes, hstrikes⟩ := observe_eq sample d.registers
    rw [Device.mapRegisters, hobserve, hstrikes]
    exact { h with }
  markSent _ h := { h with }

/-- After every run, all settings are in their ranges. -/
theorem inRange_run {serial : Text} {start : Bus LightningDetector} (h : bus serial = .ok start)
    (operations : List Bus.Operation) : (start.run operations).Throughout 0 InRange :=
  deviceInvariant_inRange.invariant.run operations (throughout_bus (inRange_new serial) h)

end LightningDetector

end WeatherBus
