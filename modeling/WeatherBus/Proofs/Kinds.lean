import WeatherBus.Cli.Arguments
import WeatherBus.Proofs.Bus.Turn
import WeatherBus.Proofs.BusBarometer.Conduct
import WeatherBus.Proofs.DigitalBarometer.Conduct
import WeatherBus.Proofs.HumidityProbe.Conduct
import WeatherBus.Proofs.LightningDetector.Conduct
import WeatherBus.Proofs.VisibilitySensor.Conduct

/-! # All kinds of instruments

What holds of every kind is stated once, with the kind as a variable.

* **`InstrumentKind.Registers`**, **`InstrumentKind.Command`** — the types of a kind, which is an
  instrument that keeps to the rules, those about changes of the schedule included;
* **`InstrumentKind.Starts`** — the buses that a kind can start with; they are in order;
* **`InstrumentKind.Starts.requestedAddress_le`** — in every run, an address that a device announces
  is one that it can have. -/

namespace WeatherBus

namespace Cli.InstrumentKind

/-- The registers of the devices of a kind. -/
def Registers : InstrumentKind → Type
  | digitalBarometer => DigitalBarometer.Registers
  | humidityProbe => HumidityProbe.Registers
  | busBarometer => BusBarometer
  | visibilitySensor => VisibilitySensor
  | lightningDetector => LightningDetector

/-- The commands of a kind. -/
def Command : InstrumentKind → Type
  | digitalBarometer => Terminal.Command DigitalBarometer.Command
  | humidityProbe => Terminal.Command HumidityProbe.Command
  | busBarometer => BusBarometer.Command
  | visibilitySensor => VisibilitySensor.Command
  | lightningDetector => LightningDetector.Command

instance (kind : InstrumentKind) : Instrument kind.Registers kind.Command :=
  match kind with
  | digitalBarometer => inferInstanceAs
      (Instrument DigitalBarometer.Registers (Terminal.Command DigitalBarometer.Command))
  | humidityProbe => inferInstanceAs
      (Instrument HumidityProbe.Registers (Terminal.Command HumidityProbe.Command))
  | busBarometer => inferInstanceAs (Instrument BusBarometer BusBarometer.Command)
  | visibilitySensor => inferInstanceAs (Instrument VisibilitySensor VisibilitySensor.Command)
  | lightningDetector => inferInstanceAs (Instrument LightningDetector LightningDetector.Command)

instance (kind : InstrumentKind) : Conducted kind.Registers :=
  match kind with
  | digitalBarometer => inferInstanceAs (Conducted DigitalBarometer.Registers)
  | humidityProbe => inferInstanceAs (Conducted HumidityProbe.Registers)
  | busBarometer => inferInstanceAs (Conducted BusBarometer)
  | visibilitySensor => inferInstanceAs (Conducted VisibilitySensor)
  | lightningDetector => inferInstanceAs (Conducted LightningDetector)

instance (kind : InstrumentKind) : Signaling kind.Registers :=
  match kind with
  | digitalBarometer => inferInstanceAs (Signaling DigitalBarometer.Registers)
  | humidityProbe => inferInstanceAs (Signaling HumidityProbe.Registers)
  | busBarometer => inferInstanceAs (Signaling BusBarometer)
  | visibilitySensor => inferInstanceAs (Signaling VisibilitySensor)
  | lightningDetector => inferInstanceAs (Signaling LightningDetector)

/-- The buses that a kind can start with: any number of devices that it accepts, and for the one
that cannot share its line any serial number. -/
def Starts : (kind : InstrumentKind) → Bus kind.Registers → Prop
  | digitalBarometer, bus => ∃ count, DigitalBarometer.kind.bus count = .ok bus
  | humidityProbe, bus => ∃ count, HumidityProbe.kind.bus count = .ok bus
  | busBarometer, bus => ∃ count, BusBarometer.bus count = .ok bus
  | visibilitySensor, bus => ∃ count, VisibilitySensor.bus count = .ok bus
  | lightningDetector, bus => ∃ serial, LightningDetector.bus serial = .ok bus

end Cli.InstrumentKind

open Cli

/-! ## Buses at the start -/

/-- Adding devices to an empty bus leaves it in order. -/
theorem Bus.wellPlaced_of_insertAll {R : Type} {maxAddress : Nat} {devices : List (Device R)}
    {bus : Bus R} (h : (Bus.empty maxAddress).insertAll devices = .ok bus) :
    bus.WellPlaced ∧ bus.maxAddress = maxAddress :=
  Bus.insertAll_induction (Q := fun bus => bus.WellPlaced ∧ bus.maxAddress = maxAddress)
    (fun _ hd hq => ⟨hq.1.insert hd, (Bus.maxAddress_insert hd).trans hq.2⟩) h
    ⟨Bus.wellPlaced_empty maxAddress, rfl⟩

/-- A property of all devices that are added holds throughout the bus. -/
theorem Bus.throughout_of_insertAll {R : Type} {maxAddress : Nat} {P : Device R → Prop}
    {devices : List (Device R)} {bus : Bus R} (hdevices : ∀ d ∈ devices, P d)
    (h : (Bus.empty maxAddress).insertAll devices = .ok bus) : bus.Throughout maxAddress P := by
  obtain ⟨hplaced, hmax⟩ := Bus.wellPlaced_of_insertAll h
  refine ⟨hplaced, hmax, ?_⟩
  refine Bus.insertAll_induction (Q := fun bus => ∀ {a d}, bus.get? a = some d → P d) ?_ h ?_
  · intro bus after d hmem hd hq a e he
    rw [Bus.get?_insert hd] at he
    split at he
    · obtain rfl := Option.some.inj he
      exact hdevices d hmem
    · exact hq he
  · intro a d hd
    simp [Bus.get?, Bus.empty] at hd

/-- A bus with new terminals is in order. -/
theorem Terminal.Kind.wellPlaced_bus {V S R X : Type} {kind : Terminal.Kind V S R X}
    {count : Nat} {bus : Bus (Terminal V R)} (h : kind.bus count = .ok bus) : bus.WellPlaced := by
  rw [Terminal.Kind.bus] at h
  split at h
  · simp at h
  · exact (Bus.wellPlaced_of_insertAll h).1

/-- A bus with new barometers is in order. -/
theorem BusBarometer.wellPlaced_bus {count : Nat} {bus : Bus BusBarometer}
    (h : BusBarometer.bus count = .ok bus) : bus.WellPlaced := by
  rw [BusBarometer.bus] at h
  split at h
  · simp at h
  · split at h
    · exact (Bus.wellPlaced_of_insertAll h).1
    · exact (Bus.wellPlaced_of_insertAll h).1

/-- What holds of a new detector holds throughout the bus at the start. -/
theorem LightningDetector.throughout_bus {P : Device LightningDetector → Prop} {serial : Text}
    {bus : Bus LightningDetector} (hnew : P (new serial))
    (h : LightningDetector.bus serial = .ok bus) : bus.Throughout 0 P := by
  have hall : (Bus.empty 0).insertAll [new serial] = .ok bus := by
    rw [← h, LightningDetector.bus, Bus.insertAll, List.foldlM_cons]
    exact bind_pure _
  exact Bus.throughout_of_insertAll (List.forall_mem_singleton.2 hnew) hall

/-- A bus with a new detector is in order. -/
theorem LightningDetector.wellPlaced_bus {serial : Text} {bus : Bus LightningDetector}
    (h : LightningDetector.bus serial = .ok bus) : bus.WellPlaced :=
  (Bus.wellPlaced_empty 0).insert h

namespace VisibilitySensor

/-- No operation makes a reset bring back an address that no sensor can have. -/
theorem deviceInvariant_isSettled : Bus.DeviceInvariant maxId IsSettled where
  apply request hd := isSettled_apply request hd
  move ha hd := ⟨ha, hd.2⟩
  observe _ hd := hd
  markSent _ hd := hd

/-- What holds of every new sensor holds throughout the bus at the start. -/
theorem throughout_bus {P : Device VisibilitySensor → Prop} {count : Nat}
    {bus : Bus VisibilitySensor} (hnew : ∀ id ≤ maxId, P (new id))
    (h : VisibilitySensor.bus count = .ok bus) : bus.Throughout maxId P := by
  rw [VisibilitySensor.bus] at h
  split at h
  · simp at h
  · rename_i hcount
    refine Bus.throughout_of_insertAll (fun d hd => ?_) h
    obtain ⟨id, hid, rfl⟩ := List.mem_map.1 hd
    rw [List.mem_range] at hid
    exact hnew id (by omega)

/-- All sensors are settled at the start. -/
theorem isSettled_bus {count : Nat} {bus : Bus VisibilitySensor}
    (h : VisibilitySensor.bus count = .ok bus) : bus.Throughout maxId IsSettled :=
  throughout_bus (fun _ hid => ⟨hid, hid⟩) h

end VisibilitySensor

namespace Cli.InstrumentKind

variable {kind : InstrumentKind} {start : Bus kind.Registers}

/-- Every kind starts with a bus that is in order. -/
theorem Starts.wellPlaced (h : kind.Starts start) : start.WellPlaced := by
  cases kind with
  | digitalBarometer =>
    obtain ⟨count, h⟩ := h
    exact Terminal.Kind.wellPlaced_bus h
  | humidityProbe =>
    obtain ⟨count, h⟩ := h
    exact Terminal.Kind.wellPlaced_bus h
  | busBarometer =>
    obtain ⟨count, h⟩ := h
    exact BusBarometer.wellPlaced_bus h
  | visibilitySensor =>
    obtain ⟨count, h⟩ := h
    exact (VisibilitySensor.isSettled_bus h).1
  | lightningDetector =>
    obtain ⟨serial, h⟩ := h
    exact LightningDetector.wellPlaced_bus h

/-- The bus is in order after every run. -/
theorem Starts.wellPlaced_run (h : kind.Starts start) (operations : List Bus.Operation) :
    (start.run operations).WellPlaced := Bus.invariant_wellPlaced.run operations h.wellPlaced

/-- In every run, an address that a device announces is one that it can have. Only the visibility
sensor announces any. -/
theorem Starts.requestedAddress_le (h : kind.Starts start) (operations : List Bus.Operation)
    {a new : Nat} {d : Device kind.Registers} {request : Request kind.Command}
    (hd : (start.run operations).get? a = some d)
    (hr : Instrument.requestedAddress request d = some new) :
    new ≤ (start.run operations).maxAddress := by
  cases kind with
  | visibilitySensor =>
    obtain ⟨count, h⟩ := h
    have hq := VisibilitySensor.deviceInvariant_isSettled.invariant.run operations
      (VisibilitySensor.isSettled_bus h)
    have hmax : (start.run operations).maxAddress = VisibilitySensor.maxId := hq.2.1
    rw [hmax]
    exact VisibilitySensor.requestedAddress_le (hq.2.2 hd) hr
  | digitalBarometer => cases hr
  | humidityProbe => cases hr
  | busBarometer => cases hr
  | lightningDetector => cases hr

end Cli.InstrumentKind

end WeatherBus
