import WeatherBus.BusBarometer.Instrument
import WeatherBus.Proofs.Instrument.Conduct
import WeatherBus.Proofs.Instrument.Signal

/-! # The bus barometer keeps to the rules

Format and interval of the continuous output are the only settings that are set together. -/

namespace WeatherBus

namespace BusBarometer

/-- Whether a command sets several fields. -/
def Command.setsSeveral : Command → Bool
  | .autoSend _ _ => true
  | _ => false

section Fields

variable {name : String} {high : Nat} {n : Int} {fault : Fault} {d : Device BusBarometer}

/-- A number beyond its bound is a fault of a parameter. -/
theorem isParameterFault_of_upTo (h : upTo name high n = .error fault) :
    fault.isParameterFault = true := by
  unfold upTo at h
  split at h
  · simp at h
  · rw [← Except.error.inj h, Fault.outOfWholeRange, Fault.isParameterFault]

/-- Choosing an interval changes the schedule in two steps: the interval, and then the mode. -/
theorem retains_setInterval (seconds : Float) (d : Device BusBarometer) :
    d.Retains (setInterval seconds d) := by
  refine ⟨rfl, rfl, ?_⟩
  simp only [setInterval]
  split
  · exact (Schedule.follows_setInterval _ _).trans (Schedule.follows_start _)
  · exact (Schedule.follows_setInterval _ _).trans (Schedule.follows_stop _)

/-- A choice of the format retains the rest. -/
theorem retains_chooseFormat (format : Option Int) : d.Retains (chooseFormat format d).1 := by
  unfold chooseFormat
  split
  · exact .refl d
  · split
    · exact ⟨rfl, rfl, .refl _⟩
    · exact .refl d

/-- A format that is refused is a fault of a parameter. -/
theorem isParameterFault_of_chooseFormat {format : Option Int}
    (h : (chooseFormat format d).2 = some fault) : fault.isParameterFault = true := by
  unfold chooseFormat at h
  split at h
  · simp at h
  · split at h
    · simp at h
    · rename_i wrong hwrong
      rw [← Option.some.inj h]
      exact isParameterFault_of_upTo hwrong

/-- A choice of the interval retains the rest. -/
theorem retains_chooseInterval (interval : Option Float) :
    d.Retains (chooseInterval interval d).1 := by
  unfold chooseInterval
  split
  · exact .refl d
  · split
    · exact retains_setInterval _ d
    · exact .refl d

/-- An interval that is refused is a fault of a parameter. -/
theorem isParameterFault_of_chooseInterval {interval : Option Float}
    (h : (chooseInterval interval d).2 = some fault) : fault.isParameterFault = true := by
  unfold chooseInterval at h
  split at h
  · simp at h
  · split at h
    · simp at h
    · rw [← Option.some.inj h, Fault.isParameterFault]

end Fields

/-! ## Commands -/

section Commands

variable {several : Bool} {announced : Option Nat}

/-- The command for format and interval keeps to the rules for several settings. -/
theorem conduct_autoSend (format : Option Int) (interval : Option Float)
    (d : Device BusBarometer) : Conduct true announced d (autoSend format interval d) := by
  have hformat : d.Retains (chooseFormat format d).1 := retains_chooseFormat format
  have hinterval := retains_chooseInterval (d := (chooseFormat format d).1) interval
  simp only [autoSend]
  split
  · rename_i fault hfault
    -- Each of the two may have been set although the other one is wrong.
    refine .partly (hformat.trans hinterval) ?_
    rw [Option.or_eq_some_iff] at hfault
    rcases hfault with hf | ⟨-, hi⟩
    · exact isParameterFault_of_chooseFormat hf
    · exact isParameterFault_of_chooseInterval hi
  · exact .carriedOut (hformat.trans hinterval) rfl

/-- A command that stores a number keeps to the rules. -/
theorem conduct_store (name : String) (high : Nat) (n : Int)
    (put : Nat → BusBarometer → BusBarometer) (d : Device BusBarometer) :
    Conduct several announced d (store name high n put d) := by
  rw [store]
  split
  · exact .carriedOut (Device.retains_mapRegisters _ d) rfl
  · exact .unchanged _

/-- So does a calibration. -/
theorem conduct_calibrate (number point : Int) (value : Float) (d : Device BusBarometer) :
    Conduct several announced d (calibrate number point value d) := by
  unfold calibrate
  split
  · exact .unchanged _
  · split
    · split
      · exact .carriedOut (Device.retains_mapRegisters _ d) rfl
      · exact .unchanged _
    · split
      · split
        · exact .carriedOut (Device.retains_mapRegisters _ d) rfl
        · exact .unchanged _
      · exact .unchanged _

/-- Every command keeps to the rules. -/
theorem conduct_apply (request : Request Command) (d : Device BusBarometer) :
    Conduct request.command.setsSeveral none d (apply request d) := by
  obtain ⟨target, checksum, command, text⟩ := request
  cases command with
  | queryAutoSend => exact .unchanged _
  | autoSend format interval => exact conduct_autoSend format interval d
  | queryAddress => exact .unchanged _
  -- A barometer leaves its move to the bus.
  | setAddress n => exact .unchanged _
  | queryUnit => exact .unchanged _
  | setUnit n => exact conduct_store _ _ n _ d
  | queryFilter => exact .unchanged _
  | setFilter n => exact conduct_store _ _ n _ d
  | queryChecksum => exact .unchanged _
  | setChecksum n => exact conduct_store _ _ n _ d
  | calibrate number point value => exact conduct_calibrate number point value d
  | poll => exact .unchanged _
  | resume => exact .carriedOut (Device.retains_mapSchedule (Schedule.follows_start _)) rfl
  | stop => exact .carriedOut (Device.retains_mapSchedule (Schedule.follows_stop _)) rfl
  | identify => exact .unchanged _
  | unknown text => exact .unchanged _

end Commands

instance : Conducted BusBarometer where
  setsSeveral := Command.setsSeveral
  conduct := conduct_apply

/-! ## Changes of the schedule -/

/-- The command for format and interval signals what it changes in the schedule. -/
theorem signals_autoSend (format : Option Int) (interval : Option Float)
    (d : Device BusBarometer) : Signals d (autoSend format interval d) := by
  simp only [autoSend]
  split
  · exact .refused
  · exact .announced rfl

/-- A command that stores a number does not touch the schedule. -/
theorem signals_store (name : String) (high : Nat) (n : Int)
    (put : Nat → BusBarometer → BusBarometer) (d : Device BusBarometer) :
    Signals d (store name high n put d) := by
  rw [store]
  split
  · exact .kept rfl
  · exact .refused

/-- Nor does a calibration. -/
theorem signals_calibrate (number point : Int) (value : Float) (d : Device BusBarometer) :
    Signals d (calibrate number point value d) := by
  refine ⟨fun _ _ => ?_⟩
  fun_cases calibrate number point value d <;> rfl

/-- Every command asks for the sender if it changes the schedule. -/
theorem signals_apply (request : Request Command) (d : Device BusBarometer) :
    Signals d (apply request d) := by
  obtain ⟨target, checksum, command, text⟩ := request
  cases command with
  | queryAutoSend => exact .kept rfl
  | autoSend format interval => exact signals_autoSend format interval d
  | queryAddress => exact .kept rfl
  | setAddress n => exact .kept rfl
  | queryUnit => exact .kept rfl
  | setUnit n => exact signals_store _ _ n _ d
  | queryFilter => exact .kept rfl
  | setFilter n => exact signals_store _ _ n _ d
  | queryChecksum => exact .kept rfl
  | setChecksum n => exact signals_store _ _ n _ d
  | calibrate number point value => exact signals_calibrate number point value d
  | poll => exact .kept rfl
  | resume => exact .announced rfl
  | stop => exact .announced rfl
  | identify => exact .kept rfl
  | unknown text => exact .refused

instance : Signaling BusBarometer where
  signals := signals_apply

end BusBarometer

end WeatherBus
