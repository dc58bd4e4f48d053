import WeatherBus.Proofs.BusBarometer.Effect
import WeatherBus.Proofs.DigitalBarometer.Range
import WeatherBus.Proofs.HumidityProbe.Range
import WeatherBus.Proofs.LightningDetector.Effect
import WeatherBus.Proofs.VisibilitySensor.Effect

/-! # Registers stay in their ranges

For every kind, its ranges hold throughout the bus at the start, and no operation leaves them. What
is sent can be of any kind: numbers that cannot be read, that are too large for any register or that
are no numbers at all.

* **`registers_in_range`** — after every run, all registers of all devices are in their ranges. -/

namespace WeatherBus

/-- On a bus of any size and after every run, all registers of all devices are in their ranges. So a
bus barometer finds a format for every measurement and a unit for its code. -/
theorem registers_in_range :
    (∀ {count : Nat} {start : Bus BusBarometer}, BusBarometer.bus count = .ok start →
      ∀ operations {a d}, (start.run operations).get? a = some d →
        BusBarometer.InRange d ∧
        BusBarometer.units[d.registers.unitCode]? = some d.registers.unit ∧
        ∀ timestamp, ∃ format, BusBarometer.preset d.registers.format = .ok format ∧
          Instrument.measurement timestamp d = BusBarometer.frame d
            (format.output BusBarometer.vocabulary (d.registers.reading timestamp d.serial))) ∧
    (∀ {count : Nat} {start : Bus VisibilitySensor}, VisibilitySensor.bus count = .ok start →
      ∀ operations {a d}, (start.run operations).get? a = some d → VisibilitySensor.InRange d) ∧
    (∀ {serial : Text} {start : Bus LightningDetector},
      LightningDetector.bus serial = .ok start →
      ∀ operations {a d}, (start.run operations).get? a = some d →
        LightningDetector.InRange d) ∧
    (∀ {count : Nat} {start : Bus DigitalBarometer.Registers},
      DigitalBarometer.kind.bus count = .ok start →
      ∀ operations {a d}, (start.run operations).get? a = some d →
        DigitalBarometer.InRange d.registers.own ∧
        1 ≤ d.registers.interval ∧ d.registers.interval ≤ 255) ∧
    (∀ {count : Nat} {start : Bus HumidityProbe.Registers},
      HumidityProbe.kind.bus count = .ok start →
      ∀ operations {a d}, (start.run operations).get? a = some d →
        HumidityProbe.InRange d.registers.own ∧ d.address ≤ 99) := by
  refine ⟨?_, ?_, ?_, ?_, ?_⟩
  · intro count start h operations a d hd
    have hrange := (BusBarometer.inRange_run h operations).2.2 hd
    exact ⟨hrange, hrange.unit, hrange.measurement⟩
  · intro count start h operations a d hd
    exact (VisibilitySensor.inRange_run h operations).2.2 hd
  · intro serial start h operations a d hd
    exact (LightningDetector.inRange_run h operations).2.2 hd
  · intro count start h operations a d hd
    have hown := (Terminal.own_run DigitalBarometer.ownInvariant_inRange
      DigitalBarometer.inRange_initial h operations).2.2 hd
    have hinterval := (Terminal.intervalInRange_run (Nat.le_refl 1) h operations).2.2 hd
    exact ⟨hown, hinterval.minInterval_le, hinterval.le_max⟩
  · intro count start h operations a d hd
    obtain ⟨hplaced, hmax, hown⟩ := Terminal.own_run HumidityProbe.ownInvariant_inRange
      HumidityProbe.inRange_initial h operations
    refine ⟨hown hd, ?_⟩
    have hle := hplaced.le_maxAddress hd
    rwa [hplaced.address_eq hd, ← show (start.run operations).maxAddress = 99 from hmax]

/-- Some settings that cannot be chosen, each refused in its own way: with a number that is too
large beside one that is not, with no number, and with a negative one. -/
theorem registers_in_range_refused :
    let autoSend := Bus.Operation.dispatch (Utf8.encode "1:A,13,9999".toList)
    let change := Bus.Operation.dispatch (VisibilitySensor.frame "SET:1::30:::::5".toList)
    let squelch := Bus.Operation.dispatch (LightningDetector.frame "SQUELCH -1".toList)
    let height := Bus.Operation.dispatch (Utf8.encode "HHCP NaN".toList)
    let heating := Bus.Operation.dispatch (Utf8.encode "XHEAT 50 201".toList)
    (∃ start d, BusBarometer.bus 2 = .ok start ∧ (start.run [autoSend]).get? 1 = some d ∧
      d.registers.interval = 999900 ∧ BusBarometer.InRange d) ∧
    (∃ start d, VisibilitySensor.bus 2 = .ok start ∧ (start.run [change]).get? 1 = some d ∧
      d.registers.committed.interval = 30 ∧ VisibilitySensor.InRange d) ∧
    (∃ start d, LightningDetector.bus [] = .ok start ∧ (start.run [squelch]).get? 0 = some d ∧
      d.registers.squelch = 0 ∧ LightningDetector.InRange d) ∧
    (∃ start d, DigitalBarometer.kind.bus 1 = .ok start ∧
      (start.run [height]).get? 0 = some d ∧
      d.registers.own.correctionHeight = 0.0 ∧ DigitalBarometer.InRange d.registers.own) ∧
    ∃ start d, HumidityProbe.kind.bus 1 = .ok start ∧ (start.run [heating]).get? 0 = some d ∧
      d.registers.own.heating.humidityLimit = 50 ∧ HumidityProbe.InRange d.registers.own := by
  intro autoSend change squelch height heating
  obtain ⟨hbus, hvisibility, hlightning, hdigital, hhumidity⟩ := registers_in_range
  refine ⟨?_, ?_, ?_, ?_, ?_⟩
  · obtain ⟨start, hstart, hsome⟩ : ∃ start, BusBarometer.bus 2 = .ok start ∧
        ((start.run [autoSend]).get? 1).map (·.registers.interval) = some 999900 :=
      ⟨_, rfl, by decide +kernel⟩
    obtain ⟨d, hd, hinterval⟩ := Option.map_eq_some_iff.1 hsome
    exact ⟨start, d, hstart, hd, hinterval, (hbus hstart _ hd).1⟩
  · obtain ⟨start, hstart, hsome⟩ : ∃ start, VisibilitySensor.bus 2 = .ok start ∧
        ((start.run [change]).get? 1).map (·.registers.committed.interval) = some 30 :=
      ⟨_, rfl, by decide +kernel⟩
    obtain ⟨d, hd, hinterval⟩ := Option.map_eq_some_iff.1 hsome
    exact ⟨start, d, hstart, hd, hinterval, hvisibility hstart _ hd⟩
  · obtain ⟨start, hstart, hsome⟩ : ∃ start, LightningDetector.bus [] = .ok start ∧
        ((start.run [squelch]).get? 0).map (·.registers.squelch) = some 0 :=
      ⟨_, rfl, by decide +kernel⟩
    obtain ⟨d, hd, hsquelch⟩ := Option.map_eq_some_iff.1 hsome
    exact ⟨start, d, hstart, hd, hsquelch, hlightning hstart _ hd⟩
  · obtain ⟨start, hstart, hsome⟩ : ∃ start, DigitalBarometer.kind.bus 1 = .ok start ∧
        ((start.run [height]).get? 0).map (·.registers.own.correctionHeight) = some 0.0 :=
      ⟨_, rfl, by decide +kernel⟩
    obtain ⟨d, hd, hheight⟩ := Option.map_eq_some_iff.1 hsome
    exact ⟨start, d, hstart, hd, hheight, (hdigital hstart _ hd).1⟩
  · obtain ⟨start, hstart, hsome⟩ : ∃ start, HumidityProbe.kind.bus 1 = .ok start ∧
        ((start.run [heating]).get? 0).map (·.registers.own.heating.humidityLimit) = some 50 :=
      ⟨_, rfl, by decide +kernel⟩
    obtain ⟨d, hd, hlimit⟩ := Option.map_eq_some_iff.1 hsome
    exact ⟨start, d, hstart, hd, hlimit, (hhumidity hstart _ hd).1⟩

end WeatherBus
