import WeatherBus.LightningDetector.Instrument
import WeatherBus.Proofs.Instrument.Conduct
import WeatherBus.Proofs.Instrument.Signal

/-! # The lightning detector keeps to the rules

No command sets several fields, and none moves the detector. -/

namespace WeatherBus

namespace LightningDetector

/-- Every command keeps to the rules. -/
theorem conduct_apply (request : Request Command) (d : Device LightningDetector) :
    Conduct false none d (apply request d) := by
  obtain ⟨target, checksum, command, text⟩ := request
  cases command with
  | status => exact .unchanged _
  | mode mode =>
    cases mode with
    | none => exact .unchanged _
    | some mode =>
      exact .carriedOut (Device.retains_mapSchedule (Schedule.follows_setMode mode _)) rfl
  | interval seconds =>
    simp only [apply]
    split
    · exact .carriedOut (Device.retains_mapSchedule (Schedule.follows_setInterval _ _)) rfl
    · exact .unchanged _
  | poll => exact .unchanged _
  | message text =>
    simp only [apply]
    split
    · exact .carriedOut (Device.retains_mapRegisters _ d) rfl
    · exact .unchanged _
  | range unit =>
    cases unit with
    | none => exact .unchanged _
    | some unit => exact .carriedOut (Device.retains_mapRegisters _ d) rfl
  | squelch level =>
    simp only [apply]
    split
    · exact .carriedOut (Device.retains_mapRegisters _ d) rfl
    · exact .unchanged _
  | reset => exact .carriedOut (Device.retains_mapRegisters _ d) rfl
  | identify => exact .unchanged _
  | unknown word => exact .unchanged _

instance : Conducted LightningDetector where
  setsSeveral _ := false
  conduct := conduct_apply

/-- Every command asks for the sender if it changes the schedule. -/
theorem signals_apply (request : Request Command) (d : Device LightningDetector) :
    Signals d (apply request d) := by
  obtain ⟨target, checksum, command, text⟩ := request
  cases command with
  | status => exact .kept rfl
  | mode mode =>
    cases mode with
    | none => exact .refused
    | some mode => exact .announced rfl
  | interval seconds =>
    simp only [apply]
    split
    · exact .announced rfl
    · exact .refused
  | poll => exact .kept rfl
  | message text =>
    simp only [apply]
    split
    · exact .kept rfl
    · exact .refused
  | range unit =>
    cases unit with
    | none => exact .refused
    | some unit => exact .kept rfl
  | squelch level =>
    simp only [apply]
    split
    · exact .kept rfl
    · exact .refused
  | reset => exact .kept rfl
  | identify => exact .kept rfl
  | unknown word => exact .refused

instance : Signaling LightningDetector where
  signals := signals_apply

end LightningDetector

end WeatherBus
