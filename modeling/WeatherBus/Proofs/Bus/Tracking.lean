import Mathlib.Data.List.Nodup
import WeatherBus.Proofs.Bus.Projection

/-! # Which device is which

Devices change their addresses, their settings and their samples, and not all of them have a serial
number. To tell which device is which, each gets a tag with the address at which it starts.

* **`Tracked R`** — registers with such a tag. A kind of instrument is one with tags, too, and never
  looks at them;
* **`Bus.track`**, **`Bus.forget`** — tag all devices, and take the tags away again;
* **`Bus.forget_dispatch`**, **`Bus.forget_run`** — a bus with tags behaves like the one without;
* **`Bus.origins`** — the tags on a bus; `Bus.invariant_origins` says that no run loses or doubles
  one;
* **`Bus.ofOrigin?`** — the device with a tag. -/

namespace WeatherBus

open scoped List

/-- Registers of a device, with the address at which it started. -/
structure Tracked (R : Type) where
  /-- The address at which the device started. -/
  origin : Nat
  registers : R
deriving DecidableEq, Repr

namespace Device

variable {R : Type}

/-- The address at which a device started. -/
def origin (d : Device (Tracked R)) : Nat := d.registers.origin

/-- A device without its tag. -/
def forget (d : Device (Tracked R)) : Device R where
  address := d.address
  serial := d.serial
  schedule := d.schedule
  registers := d.registers.registers

/-- A device with a tag. -/
def track (origin : Nat) (d : Device R) : Device (Tracked R) where
  address := d.address
  serial := d.serial
  schedule := d.schedule
  registers := ⟨origin, d.registers⟩

/-- Without its tag a device is what it was. -/
@[simp] theorem forget_track (origin : Nat) (d : Device R) : (d.track origin).forget = d := rfl

/-- The tag is the one that was given. -/
@[simp] theorem origin_track (origin : Nat) (d : Device R) : (d.track origin).origin = origin := rfl

/-- A device is itself with its tag. -/
@[simp] theorem track_forget (d : Device (Tracked R)) : d.forget.track d.origin = d := rfl

/-- A tag does not matter for what a command leaves alone. -/
theorem retains_track {d : Device (Tracked R)} {e : Device R} (h : d.forget.Retains e) (o : Nat) :
    d.Retains (e.track o) := ⟨h.address, h.serial, h.schedule⟩

end Device

/-! ## Instruments with tags -/

section Instrument

variable {R C : Type} [Instrument R C]

/-- A kind of instrument with tags. Each device keeps its own. -/
instance : Instrument (Tracked R) C where
  framing := Instrument.framing R
  read := Instrument.read R
  needsChecksum d := Instrument.needsChecksum d.forget
  requestedAddress request d := Instrument.requestedAddress request d.forget
  apply request d :=
    let result := Instrument.apply request d.forget
    (result.1.track d.origin, result.2)
  observe sample r := { r with registers := Instrument.observe sample r.registers }
  canObserve sample r := Instrument.canObserve sample r.registers
  encodeReply request d := Instrument.encodeReply request d.forget
  encodeFault request d := Instrument.encodeFault request d.forget
  measurement timestamp d := Instrument.measurement timestamp d.forget
  canMeasure d := Instrument.canMeasure d.forget

/-- A command changes the device and leaves the tag. -/
theorem apply_tracked (request : Request C) (d : Device (Tracked R)) :
    Instrument.apply request d =
      ((Instrument.apply request d.forget).1.track d.origin,
        (Instrument.apply request d.forget).2) := rfl

/-- Commands leave the tag of a device alone. -/
@[simp] theorem origin_apply (request : Request C) (d : Device (Tracked R)) :
    (Instrument.apply request d).1.origin = d.origin := rfl

/-- With tags, commands keep to the same rules. -/
instance [Conducted R] : Conducted (Tracked R) where
  setsSeveral := Conducted.setsSeveral R
  conduct request d := by
    have h := Conducted.conduct request d.forget
    refine ⟨Device.retains_track h.retains _, fun hf => ?_, fun ho hm => ?_⟩
    · refine (h.refused hf).imp_left fun hd => ?_
      rw [apply_tracked, hd, Device.track_forget]
    · refine (h.moved ho hm).imp_left fun hd => ?_
      rw [apply_tracked, hd, Device.track_forget]

end Instrument

namespace Bus

/-! ## Tags on a bus -/

section Tags

variable {R : Type}

/-- A bus without tags. -/
def forget (bus : Bus (Tracked R)) : Bus R where
  maxAddress := bus.maxAddress
  devices := bus.devices.map fun entry => (entry.1, entry.2.forget)
  ascending := by simpa [Function.comp_def] using bus.ascending

/-- The bus with a tag on every device. -/
def track (bus : Bus R) : Bus (Tracked R) where
  maxAddress := bus.maxAddress
  devices := bus.devices.map fun entry => (entry.1, entry.2.track entry.1)
  ascending := by simpa [Function.comp_def] using bus.ascending

/-- The tags on a bus. -/
def origins (bus : Bus (Tracked R)) : List Nat := bus.toList.map Device.origin

/-- The device with a tag. -/
def ofOrigin? (origin : Nat) (bus : Bus (Tracked R)) : Option (Device (Tracked R)) :=
  bus.toList.find? fun d => d.origin = origin

variable {bus : Bus (Tracked R)} {plain : Bus R} {a o : Nat} {d : Device (Tracked R)}

/-- The devices without their tags are where they were. -/
theorem devices_forget (bus : Bus (Tracked R)) :
    bus.forget.devices = bus.devices.map fun entry => (entry.1, entry.2.forget) := rfl

/-- The devices get their addresses as tags. -/
theorem devices_track (plain : Bus R) :
    plain.track.devices = plain.devices.map fun entry => (entry.1, entry.2.track entry.1) := rfl

/-- So does the device at an address. -/
theorem get?_track (a : Nat) (plain : Bus R) :
    plain.track.get? a = (plain.get? a).map (Device.track a) :=
  lookup_map_snd (fun k (d : Device R) => d.track k) a plain.devices

/-- Taking the tags away gives the bus that was tagged. -/
@[simp] theorem forget_track (plain : Bus R) : plain.track.forget = plain := by
  refine eq_of_devices_eq rfl ?_
  rw [devices_forget, devices_track, List.map_map]
  exact List.map_id _

/-- At first the tags are the taken addresses. -/
@[simp] theorem origins_track (plain : Bus R) : plain.track.origins = plain.addresses := by
  rw [origins, toList, track, List.map_map, List.map_map]
  rfl

/-- Tags do not matter for the order of a bus. -/
theorem WellPlaced.track (hp : plain.WellPlaced) : plain.track.WellPlaced where
  address_eq h := by
    rw [get?_track] at h
    obtain ⟨d, hd, rfl⟩ := Option.map_eq_some_iff.1 h
    exact hp.address_eq hd
  le_maxAddress h := by
    rw [get?_track] at h
    obtain ⟨d, hd, rfl⟩ := Option.map_eq_some_iff.1 h
    exact hp.le_maxAddress hd

end Tags

/-! ## Tags do not matter -/

section Forget

variable {R C : Type} [Instrument R C]

/-- No command looks at a tag. -/
theorem projection_registers : Projection (Tracked.registers (R := R)) where
  framing_eq := rfl
  read_eq := rfl
  needsChecksum_eq _ := rfl
  requestedAddress_eq _ _ := rfl
  apply_eq _ _ := rfl
  observe_eq _ _ := rfl
  encodeReply_eq _ _ := rfl
  encodeFault_eq _ _ := rfl
  measurement_eq _ _ := rfl

/-- Tags do not matter for a frame. -/
theorem forget_dispatch (frame : Bytes) (bus : Bus (Tracked R)) :
    bus.forget.dispatch frame = ((bus.dispatch frame).1.forget, (bus.dispatch frame).2) :=
  dispatch_project projection_registers frame bus

/-- Tags do not matter for a run. -/
theorem forget_run (operations : List Operation) (bus : Bus (Tracked R)) :
    (bus.run operations).forget = bus.forget.run operations :=
  (run_project projection_registers operations bus).symm

end Forget

/-! ## No device is lost or doubled -/

section Origins

variable {R C : Type} [Instrument R C]

/-- What no operation changes of a device is on the bus as often after a run as before it. -/
theorem invariant_map_perm {α : Type} {g : Device R → α}
    (happly : ∀ (request : Request C) (d : Device R), g (Instrument.apply request d).1 = g d)
    (hmove : ∀ (d : Device R) (a : Nat), g { d with address := a } = g d)
    (hobserve : ∀ (sample : Sample) (d : Device R),
      g (d.mapRegisters (Instrument.observe sample)) = g d)
    (hmark : ∀ (time : Nat) (d : Device R), g (d.mapSchedule (·.markSent time)) = g d)
    (l : List α) : Invariant fun bus : Bus R => bus.toList.map g ~ l where
  replace {bus a d} request hd h := by
    have hsame : (bus.replace a (Instrument.apply request d).1).toList.map g = bus.toList.map g :=
      map_toList_modify fun he => by
        obtain rfl := Option.some.inj (hd.symm.trans he)
        exact happly request d
    rwa [hsame]
  move hr h := (map_reassign_perm g hmove hr).trans h
  observe sample h := by
    rwa [observe, map_toList_map (hobserve sample)]
  markSent time a h := by
    rwa [map_toList_modify fun _ => hmark time _]

variable {bus : Bus (Tracked R)} {o : Nat} {d : Device (Tracked R)}

/-- No run loses or doubles a tag, nor a serial number with it. -/
theorem invariant_origins [Conducted R] (l : List (Nat × Text)) :
    Invariant fun bus : Bus (Tracked R) => bus.toList.map (fun d => (d.origin, d.serial)) ~ l :=
  invariant_map_perm
    (fun request d => by rw [origin_apply, (Conducted.conduct request d).retains.serial])
    (fun _ _ => rfl) (fun _ _ => rfl) (fun _ _ => rfl) l

/-- If all tags are different, the device with a tag is the only one with it. -/
theorem ofOrigin?_eq_some_iff (hn : bus.origins.Nodup) :
    bus.ofOrigin? o = some d ↔ d ∈ bus.toList ∧ d.origin = o := by
  constructor
  · intro h
    exact ⟨List.mem_of_find?_eq_some h, by simpa using List.find?_some h⟩
  · rintro ⟨hd, rfl⟩
    obtain ⟨e, he⟩ : ∃ e, bus.ofOrigin? d.origin = some e := by
      rw [← Option.isSome_iff_exists, ofOrigin?, List.find?_isSome]
      exact ⟨d, hd, by simp⟩
    have horigin : e.origin = d.origin := by simpa using List.find?_some he
    rw [he, List.inj_on_of_nodup_map hn (List.mem_of_find?_eq_some he) hd horigin]

end Origins

end Bus

end WeatherBus
