import WeatherBus.Proofs.Bus.Spacing
import WeatherBus.Proofs.BusBarometer.Effect
import WeatherBus.Proofs.LightningDetector.Effect
import WeatherBus.Proofs.SharedLine
import WeatherBus.Proofs.Terminal.Effect
import WeatherBus.Proofs.VisibilitySensor.Effect

/-! # Messages of all kinds of instruments

* **`InstrumentKind.Starts.lastSent_eq_none`** — at the start no device has sent;
* **`Bus.sends_on_time`** — so all devices send on time. -/

namespace WeatherBus

open Cli

namespace Cli.InstrumentKind

instance (kind : InstrumentKind) : Timed kind.Registers :=
  match kind with
  | digitalBarometer => inferInstanceAs (Timed DigitalBarometer.Registers)
  | humidityProbe => inferInstanceAs (Timed HumidityProbe.Registers)
  | busBarometer => inferInstanceAs (Timed BusBarometer)
  | visibilitySensor => inferInstanceAs (Timed VisibilitySensor)
  | lightningDetector => inferInstanceAs (Timed LightningDetector)

end Cli.InstrumentKind

/-- New instruments with terminals have not sent, whatever their modes. -/
theorem Terminal.Kind.lastSent_eq_none {V S R X : Type} {kind : Kind V S R X} {count : Nat}
    {start : Bus (Terminal V R)} (h : kind.bus count = .ok start) {a : Nat}
    {d : Device (Terminal V R)} (hd : start.get? a = some d) : d.schedule.lastSent = none := by
  have hnew : start.Throughout kind.maxAddress fun d => d.schedule.lastSent = none := by
    refine Kind.throughout_bus (fun mode address _ => ?_) h
    rw [Kind.new, Schedule.lastSent_setMode]
    split
    · rfl
    · rfl
  exact hnew.2.2 hd

/-- No device has sent at the start. -/
theorem Cli.InstrumentKind.Starts.lastSent_eq_none {kind : InstrumentKind}
    {start : Bus kind.Registers} (h : kind.Starts start) {a : Nat} {d : Device kind.Registers}
    (hd : start.get? a = some d) : d.schedule.lastSent = none := by
  cases kind with
  | digitalBarometer =>
    obtain ⟨count, h⟩ := h
    exact Terminal.Kind.lastSent_eq_none h hd
  | humidityProbe =>
    obtain ⟨count, h⟩ := h
    exact Terminal.Kind.lastSent_eq_none h hd
  | busBarometer =>
    obtain ⟨count, h⟩ := h
    have hnew : start.Throughout _ fun d => d.schedule.lastSent = none :=
      BusBarometer.throughout_bus (fun _ => rfl) h
    exact hnew.2.2 hd
  | visibilitySensor =>
    obtain ⟨count, h⟩ := h
    have hnew : start.Throughout _ fun d => d.schedule.lastSent = none :=
      VisibilitySensor.throughout_bus (fun _ _ => rfl) h
    exact hnew.2.2 hd
  | lightningDetector =>
    obtain ⟨serial, h⟩ := h
    have hnew : start.Throughout _ fun d => d.schedule.lastSent = none :=
      LightningDetector.throughout_bus rfl h
    exact hnew.2.2 hd

/-- On a bus of any kind, and whatever frames, samples and ticks there are, all devices send on
time. The times of the ticks need not even be in order. -/
theorem Bus.sends_on_time {kind : InstrumentKind} {start : Bus kind.Registers}
    (h : kind.Starts start) : start.SendsOnTime :=
  sendsOnTime_of_new h.wellPlaced h.lastSent_eq_none

/-- A barometer that is to send every two seconds is moved after its first message. It sends the
next one after two seconds, and not before. -/
theorem Bus.sends_on_time_moved :
    let setting := Occasion.dispatch (Utf8.encode "02:A,1,2".toList)
    let moving := Occasion.dispatch (Utf8.encode "02:N,7".toList)
    let tick now := Occasion.tick {} now none
    ∃ start, InstrumentKind.busBarometer.Starts start ∧ start.SendsOnTime ∧
      start.track.transmissions 2 [setting, tick 0, moving, tick 1000, tick 2000] = [0, 2000] ∧
      let moved := start.track.undergoAll [setting, tick 0, moving, tick 1000]
      (moved.ofOrigin? 2).map (·.address) = some 7 ∧
        (moved.tick {} 2000 none).2.2 = Utf8.encode "07:******* hPa\r\n".toList ∧
        ∀ d, moved.ofOrigin? 2 = some d → 0 + d.schedule.interval ≤ 2000 := by
  intro setting moving tick
  have hstarts : InstrumentKind.busBarometer.Starts _ := ⟨3, rfl⟩
  have htime := sends_on_time hstarts
  refine ⟨_, hstarts, htime, by decide +kernel, by decide +kernel, by decide +kernel,
    fun d hd => ?_⟩
  have hspaced := @htime.spaced 2 (by decide) [setting] [moving, tick 1000] (tick 0) (tick 2000)
    0 2000 d (by decide +kernel) (by decide +kernel) (by decide +kernel) hd
  -- Moving it does not take it out of its mode.
  refine hspaced.resolve_left (not_not.2 ?_)
  rw [staysContinuous_cons, staysContinuous_cons, staysContinuous_nil]
  exact ⟨by decide +kernel, by decide +kernel, by decide +kernel⟩

end WeatherBus
