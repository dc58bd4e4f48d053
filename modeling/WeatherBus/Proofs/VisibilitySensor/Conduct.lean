import WeatherBus.Proofs.Instrument.Conduct
import WeatherBus.Proofs.Instrument.Signal
import WeatherBus.VisibilitySensor.Instrument

/-! # The visibility sensor keeps to the rules

All settings are set by one command. It is the only kind of instrument that changes its settings and
asks to be moved with one command, so it depends on the check of the new address beforehand.

* **`VisibilitySensor.IsSettled`** — the address that a reset brings back is one of a sensor; no
  command changes that;
* **`VisibilitySensor.requestedAddress_le`** — so every address that is announced is one, too. -/

namespace WeatherBus

namespace VisibilitySensor

/-- Whether a command sets several fields. -/
def Command.setsSeveral : Command → Bool
  | .set _ | .setUntilReset _ => true
  | _ => false

section Fields

variable {name : String} {high : Nat} {field : Option Int} {fault : Fault}

/-- A field beyond its bound is a fault of a parameter. -/
theorem isParameterFault_of_beyond? (h : beyond? name high field = some fault) :
    fault.isParameterFault = true := by
  unfold beyond? at h
  split at h
  · split at h
    · simp at h
    · rw [← Option.some.inj h, Fault.outOfWholeRange, Fault.isParameterFault]
  · simp at h

/-- So is a wrong number of samples. -/
theorem isParameterFault_of_wrongSampleCount? (h : wrongSampleCount? field = some fault) :
    fault.isParameterFault = true := by
  unfold wrongSampleCount? at h
  split at h
  · split at h
    · simp at h
    · rw [← Option.some.inj h, Fault.isParameterFault]
  · simp at h

/-- A wrong setting is a fault of a parameter. -/
theorem isParameterFault_of_fault? {u : SettingsUpdate} (h : u.fault? = some fault) :
    fault.isParameterFault = true := by
  have hmem := Fault.mem_of_first? h
  rw [List.mem_cons, List.mem_cons, List.mem_cons, List.mem_cons, List.mem_cons, List.mem_cons,
    List.mem_cons, List.mem_singleton] at hmem
  rcases hmem with h | h | h | h | h | h | h | h
  · exact isParameterFault_of_beyond? h.symm
  · exact isParameterFault_of_beyond? h.symm
  · exact isParameterFault_of_beyond? h.symm
  · exact isParameterFault_of_beyond? h.symm
  · exact isParameterFault_of_beyond? h.symm
  · exact isParameterFault_of_beyond? h.symm
  · exact isParameterFault_of_wrongSampleCount? h.symm
  · exact isParameterFault_of_beyond? h.symm

/-- What passes the check is within the bound. -/
theorem le_of_upTo? {n : Nat} (h : upTo? high field = some n) : n ≤ high := by
  unfold upTo? at h
  split at h
  · split at h
    · rename_i m hm
      obtain rfl := Option.some.inj h
      omega
    · simp at h
  · simp at h

end Fields

/-! ## Commands -/

/-- Putting settings in force changes the schedule in two steps: the interval, and then the mode. -/
theorem retains_activate (settings : Settings) (d : Device VisibilitySensor) :
    d.Retains (activate settings d) :=
  ⟨rfl, rfl, (Schedule.follows_setInterval _ _).trans (Schedule.follows_setMode _ _)⟩

/-- A sensor is asked to be moved to the address of its answer only. -/
theorem moveTo_settled (id : Nat) (d : Device VisibilitySensor) :
    (settled id d).moveTo = none ∨ (settled id d).moveTo = some id := by
  unfold settled
  split
  · exact .inl rfl
  · exact .inr rfl

/-- A change of the settings keeps to the rules for several settings. -/
theorem conduct_change (keep : Bool) (update : SettingsUpdate) (d : Device VisibilitySensor) :
    Conduct true update.newId? d (change keep update d) := by
  have hactivate := retains_activate (d.registers.active.update update) d
  have hkept (id : Nat) : d.Retains
      (if keep then
        (activate (d.registers.active.update update) d).mapRegisters
          fun r => { r with committed := r.active, committedId := id }
      else activate (d.registers.active.update update) d) := by
    split
    · exact hactivate.trans (Device.retains_mapRegisters _ _)
    · exact hactivate
  simp only [change]
  -- The parameters that are right are in force, whether another one is wrong or not.
  cases hfault : update.fault? with
  | some fault => exact .partly (hkept _) (isParameterFault_of_fault? hfault)
  | none =>
    cases hid : update.newId? with
    | some id => exact .carriedOver (hkept id) (moveTo_settled id _) rfl
    | none =>
      -- Without a new address the sensor is already where it belongs.
      refine .carriedOut (hkept _) (if_pos ?_)
      exact (hkept d.address).address.symm

/-- So does a calibration. -/
theorem conduct_calibrate {several : Bool} {announced : Option Nat} (number point : Int)
    (value : Float) (d : Device VisibilitySensor) :
    Conduct several announced d (calibrate number point value d) := by
  unfold calibrate
  split
  · exact .unchanged _
  · split
    · split
      · exact .carriedOut (Device.retains_mapRegisters _ d) rfl
      · exact .unchanged _
    · split
      · split
        · exact .carriedOut (Device.retains_mapRegisters _ d) rfl
        · exact .unchanged _
      · exact .unchanged _

/-- Every command keeps to the rules. -/
theorem conduct_apply (request : Request Command) (d : Device VisibilitySensor) :
    Conduct request.command.setsSeveral (requestedAddress request d) d (apply request d) := by
  obtain ⟨target, checksum, command, text⟩ := request
  cases command with
  | get => exact .unchanged _
  | set update => exact conduct_change true update d
  | setUntilReset update => exact conduct_change false update d
  | chooseFields mask =>
    cases mask with
    | none => exact .unchanged _
    | some mask =>
      simp only [apply]
      split
      · exact .carriedOut (Device.retains_mapRegisters _ d) rfl
      · exact .unchanged _
  | poll => exact .unchanged _
  | calibrate number point value => exact conduct_calibrate number point value d
  | reset => exact .carriedOver (retains_activate _ d) (moveTo_settled _ _) rfl
  | unknown keyword => exact .unchanged _

instance : Conducted VisibilitySensor where
  setsSeveral := Command.setsSeveral
  conduct := conduct_apply

/-! ## Changes of the schedule -/

/-- A change of the settings asks for the sender, whether it concerns the schedule or not. -/
theorem signals_change (keep : Bool) (update : SettingsUpdate) (d : Device VisibilitySensor) :
    Signals d (change keep update d) := by
  simp only [change]
  split
  · exact .refused
  · exact .announced rfl

/-- A calibration does not touch the schedule. -/
theorem signals_calibrate (number point : Int) (value : Float) (d : Device VisibilitySensor) :
    Signals d (calibrate number point value d) := by
  refine ⟨fun _ _ => ?_⟩
  fun_cases calibrate number point value d <;> rfl

/-- Every command asks for the sender if it changes the schedule. -/
theorem signals_apply (request : Request Command) (d : Device VisibilitySensor) :
    Signals d (apply request d) := by
  obtain ⟨target, checksum, command, text⟩ := request
  cases command with
  | get => exact .kept rfl
  | set update => exact signals_change true update d
  | setUntilReset update => exact signals_change false update d
  | chooseFields mask =>
    cases mask with
    | none => exact .refused
    | some mask =>
      simp only [apply]
      split
      · exact .kept rfl
      · exact .refused
  | poll => exact .kept rfl
  | calibrate number point value => exact signals_calibrate number point value d
  | reset => exact .announced rfl
  | unknown keyword => exact .refused

instance : Signaling VisibilitySensor where
  signals := signals_apply

/-! ## The address of a reset -/

/-- The address that a reset brings back is one that a sensor can have. -/
def IsSettled (d : Device VisibilitySensor) : Prop :=
  d.address ≤ maxId ∧ d.registers.committedId ≤ maxId

/-- Every address that a sensor announces is one that a sensor can have. -/
theorem requestedAddress_le {request : Request Command} {d : Device VisibilitySensor} {new : Nat}
    (hd : IsSettled d) (h : requestedAddress request d = some new) : new ≤ maxId := by
  unfold requestedAddress at h
  split at h
  · exact le_of_upTo? h
  · exact le_of_upTo? h
  · rw [← Option.some.inj h]
    exact hd.2
  · simp at h

/-- A change leaves the sensor settled. -/
theorem isSettled_change {keep : Bool} {update : SettingsUpdate} {d : Device VisibilitySensor}
    (hd : IsSettled d) : IsSettled (change keep update d).1 := by
  have haddress : ((change keep update d).1).address ≤ maxId := by
    rw [(conduct_change keep update d).retains.address]
    exact hd.1
  refine ⟨haddress, ?_⟩
  simp only [change]
  -- What is kept is the address at the time, or the new one, which was read as one of a sensor.
  cases hfault : update.fault? with
  | some fault =>
    cases keep with
    | true => exact hd.1
    | false => exact hd.2
  | none =>
    cases keep with
    | false => exact hd.2
    | true =>
      cases hid : update.newId? with
      | some id => exact le_of_upTo? hid
      | none => exact hd.1

/-- No command makes a reset bring back an address that no sensor can have. -/
theorem isSettled_apply (request : Request Command) {d : Device VisibilitySensor}
    (hd : IsSettled d) : IsSettled (apply request d).1 := by
  obtain ⟨target, checksum, command, text⟩ := request
  cases command with
  | get => exact hd
  | set update => exact isSettled_change hd
  | setUntilReset update => exact isSettled_change hd
  | chooseFields mask =>
    cases mask with
    | none => exact hd
    | some mask =>
      simp only [apply]
      split
      · exact hd
      · exact hd
  | poll => exact hd
  | calibrate number point value =>
    simp only [apply, calibrate]
    repeat' split
    all_goals exact hd
  | reset => exact hd
  | unknown keyword => exact hd

end VisibilitySensor

end WeatherBus
