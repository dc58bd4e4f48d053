import WeatherBus.Proofs.Instrument.Timing
import WeatherBus.Proofs.Number.Magnitude
import WeatherBus.Proofs.VisibilitySensor.Commit

/-! # What a command makes of a visibility sensor

Settings are put in force in two ways, by a change and by a reset, and both write them to the
schedule at the same time.

* **`VisibilitySensor.Effect`** — what a command can make of a sensor; `effect_apply`;
* **`VisibilitySensor.Agrees`** — the schedule is what the settings in force ask for;
* **`VisibilitySensor.InRange`** — all settings are in their ranges, those in force and those that a
  reset brings back;
* **`agrees_run`**, **`inRange_run`** — no run changes that. -/

namespace WeatherBus

namespace VisibilitySensor

/-! ## One command -/

section Effect

variable {d e : Device VisibilitySensor}

/-- What a command can make of a sensor. -/
inductive Effect (d : Device VisibilitySensor) : Device VisibilitySensor → Prop where
  | unchanged : Effect d d
  | changed (update : SettingsUpdate) :
      Effect d (activate (d.registers.active.update update) d)
  | committed (update : SettingsUpdate) (id : Nat) : Effect d (commit update id d)
  | restored : Effect d (activate d.registers.committed d)
  | mask {mask : Nat} (h : mask &&& allFields = mask) : Effect d (d.mapRegisters ({ · with mask }))
  | zero {value : Float} (h : Binary64.inRange zeros.1 zeros.2 value = true) :
      Effect d (d.mapRegisters ({ · with zero := value }))
  | span {value : Float} (h : Binary64.inRange spans.1 spans.2 value = true) :
      Effect d (d.mapRegisters ({ · with span := value }))

/-- Whether all fields are accepted or not, a change that is kept is committed. -/
theorem effect_commit (update : SettingsUpdate) : Effect d (change true update d).1 := by
  cases hfault : update.fault? with
  | some fault =>
    rw [change_of_fault hfault]
    exact .committed update _
  | none =>
    rw [change_of_accepted hfault]
    exact .committed update _

/-- A change of the settings in force is one of the effects. -/
theorem effect_change (update : SettingsUpdate) : Effect d (change false update d).1 := by
  simp only [change]
  split
  · exact .changed update
  · exact .changed update

/-- So is a calibration. -/
theorem effect_calibrate (number point : Int) (value : Float) :
    Effect d (calibrate number point value d).1 := by
  unfold calibrate
  split
  · exact .unchanged
  · split
    · split
      · rename_i hzero
        exact .zero hzero
      · exact .unchanged
    · split
      · split
        · rename_i hspan
          exact .span hspan
        · exact .unchanged
      · exact .unchanged

/-- Every command does one of these things. -/
theorem effect_apply (request : Request Command) (d : Device VisibilitySensor) :
    Effect d (apply request d).1 := by
  obtain ⟨target, checksum, command, text⟩ := request
  cases command with
  | get => exact .unchanged
  | set update => exact effect_commit update
  | setUntilReset update => exact effect_change update
  | chooseFields mask =>
    cases mask with
    | none => exact .unchanged
    | some mask =>
      simp only [apply]
      split
      · rename_i hmask
        exact .mask hmask
      · exact .unchanged
  | poll => exact .unchanged
  | calibrate number point value => exact effect_calibrate number point value
  | reset => exact .restored
  | unknown keyword => exact .unchanged

/-- Settings that are activated adjust the schedule. -/
theorem adjusts_activate (settings : Settings) (d : Device VisibilitySensor) :
    d.schedule.Adjusts (activate settings d).schedule := ⟨_, _, rfl⟩

/-- Every effect adjusts the schedule, or leaves it alone. -/
theorem Effect.adjusts (h : Effect d e) : d.schedule.Adjusts e.schedule := by
  cases h with
  | unchanged => exact .refl _
  | changed update => exact adjusts_activate _ d
  | committed update id => exact adjusts_activate _ d
  | restored => exact adjusts_activate _ d
  | mask h => exact .refl _
  | zero h => exact .refl _
  | span h => exact .refl _

end Effect

instance : Timed VisibilitySensor where
  adjusts request d := (effect_apply request d).adjusts

/-! ## Settings and schedule -/

section Agrees

variable {d e : Device VisibilitySensor}

/-- The schedule of a sensor is what its settings ask for. -/
structure Agrees (d : Device VisibilitySensor) : Prop where
  mode_eq : d.schedule.mode = d.registers.active.mode
  interval_eq : d.schedule.interval = d.registers.active.interval * 1000

/-- Settings that are put in force are written to the schedule. -/
theorem agrees_activate (settings : Settings) (d : Device VisibilitySensor) :
    Agrees (activate settings d) := ⟨rfl, rfl⟩

/-- The schedule of a new sensor is what its settings ask for. -/
theorem agrees_new (id : Nat) : Agrees (new id) := agrees_activate _ _

/-- No command brings the schedule out of line with the settings. -/
theorem Agrees.effect (h : Agrees d) (heffect : Effect d e) : Agrees e := by
  cases heffect with
  | unchanged => exact h
  | changed update => exact agrees_activate _ d
  | committed update id =>
    -- What a reset brings back is no part of what is in force.
    obtain ⟨hmode, hinterval⟩ := agrees_activate (d.registers.active.update update) d
    exact ⟨hmode, hinterval⟩
  | restored => exact agrees_activate _ d
  | mask hmask => exact ⟨h.mode_eq, h.interval_eq⟩
  | zero hzero => exact ⟨h.mode_eq, h.interval_eq⟩
  | span hspan => exact ⟨h.mode_eq, h.interval_eq⟩

/-- No operation brings the schedule of a sensor out of line with its settings. -/
theorem deviceInvariant_agrees : Bus.DeviceInvariant maxId Agrees where
  apply request h := h.effect (effect_apply request _)
  move _ h := ⟨h.mode_eq, h.interval_eq⟩
  observe _ h := ⟨h.mode_eq, h.interval_eq⟩
  markSent _ h := ⟨h.mode_eq, h.interval_eq⟩

end Agrees

/-! ## Ranges -/

section Range

variable {d e : Device VisibilitySensor} {s : Settings}

/-- All settings are in their ranges. -/
structure Settings.InRange (s : Settings) : Prop where
  /-- In seconds. -/
  interval_le : s.interval ≤ 3600
  mode : s.mode = .polled ∨ s.mode = .continuous
  baud_le : s.baud ≤ 7
  averaging : s.averaging = 1 ∨ s.averaging = 10

/-- The settings of the factory are in their ranges. -/
theorem Settings.inRange_factory : Settings.InRange {} where
  interval_le := by decide
  mode := .inl rfl
  baud_le := by decide
  averaging := .inl rfl

/-- A field that is stored is within its bound. -/
theorem getD_upTo?_le {high old : Nat} (h : old ≤ high) (field : Option Int) :
    (upTo? high field).getD old ≤ high := by
  cases hnew : upTo? high field with
  | none => exact h
  | some value => exact le_of_upTo? hnew

/-- Fields that are out of range leave their settings alone. -/
theorem Settings.InRange.update (h : s.InRange) (u : SettingsUpdate) : (s.update u).InRange where
  interval_le := getD_upTo?_le h.interval_le u.interval
  mode := by
    simp only [Settings.update]
    cases upTo? 1 u.mode with
    | none => exact h.mode
    | some n =>
      rw [Option.map_some, Option.getD_some]
      split
      · exact .inl rfl
      · exact .inr rfl
  baud_le := getD_upTo?_le h.baud_le u.baud
  averaging := by
    simp only [Settings.update]
    cases hcount : sampleCount? u.averaging with
    | none => exact h.averaging
    | some count =>
      unfold sampleCount? at hcount
      split at hcount
      · split at hcount
        · rename_i n hn
          obtain rfl := Option.some.inj hcount
          simp only [Option.getD_some]
          omega
        · exact absurd hcount (by simp)
      · exact absurd hcount (by simp)

/-- All registers of a sensor are in their ranges. -/
structure InRange (d : Device VisibilitySensor) : Prop where
  active : d.registers.active.InRange
  committed : d.registers.committed.InRange
  /-- No bit is set that stands for no field. -/
  mask_eq : d.registers.mask &&& 0x1FF = d.registers.mask
  zero : Binary64.Within (-5.0) 5.0 d.registers.zero
  span : Binary64.Within 0.8 1.2 d.registers.span

/-- So are the settings of a new sensor. -/
theorem inRange_new (id : Nat) : InRange (new id) where
  active := Settings.inRange_factory
  committed := Settings.inRange_factory
  mask_eq := by
    show 15 &&& 0x1FF = 15
    decide
  zero := .of_inRange (show Binary64.inRange (-5.0) 5.0 0.0 = true by decide +kernel)
  span := .of_inRange (show Binary64.inRange 0.8 1.2 1.0 = true by decide +kernel)

/-- Every command keeps the registers in their ranges. -/
theorem InRange.effect (h : InRange d) (heffect : Effect d e) : InRange e := by
  cases heffect with
  | unchanged => exact h
  | changed update => exact { h with active := h.active.update update }
  | committed update id =>
    exact { h with
      active := h.active.update update
      committed := h.active.update update }
  | restored => exact { h with active := h.committed }
  | mask hmask => exact { h with mask_eq := hmask }
  | zero hzero => exact { h with zero := .of_inRange hzero }
  | span hspan => exact { h with span := .of_inRange hspan }

/-- Every operation keeps the registers in their ranges. -/
theorem deviceInvariant_inRange : Bus.DeviceInvariant maxId InRange where
  apply request h := h.effect (effect_apply request _)
  move _ h := { h with }
  observe _ h := { h with }
  markSent _ h := { h with }

end Range

/-! ## Every run -/

section Runs

variable {count : Nat} {start : Bus VisibilitySensor}

/-- After every run, the sensors agree with their settings. -/
theorem agrees_run (h : bus count = .ok start) (operations : List Bus.Operation) :
    (start.run operations).Throughout maxId Agrees :=
  deviceInvariant_agrees.invariant.run operations (throughout_bus (fun id _ => agrees_new id) h)

/-- After every run, all registers are in their ranges. -/
theorem inRange_run (h : bus count = .ok start) (operations : List Bus.Operation) :
    (start.run operations).Throughout maxId InRange :=
  deviceInvariant_inRange.invariant.run operations (throughout_bus (fun id _ => inRange_new id) h)

end Runs

end VisibilitySensor

end WeatherBus
