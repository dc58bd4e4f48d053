import Mathlib.Data.List.Basic
import WeatherBus.Proofs.Bus.Turn

/-! # Looking at registers in another way

Proofs write more into the registers of a device than its commands look at, and leave it out again
to come back to the kind of instrument that they are about.

* **`Projection`** — what a function of the registers leaves out does not matter for frames,
  commands and samples;
* **`Bus.project`** — the bus with other registers;
* **`Bus.dispatch_project`**, **`Bus.run_project`** — with a projection it does not matter when this
  is done. -/

namespace WeatherBus

open scoped List

variable {A R : Type}

/-- A device with other registers. -/
def Device.project (f : A → R) (d : Device A) : Device R where
  address := d.address
  serial := d.serial
  schedule := d.schedule
  registers := f d.registers

/-- What `f` leaves out of the registers does not matter for what the instrument does. -/
structure Projection {C : Type} [Instrument A C] [Instrument R C] (f : A → R) : Prop where
  framing_eq : Instrument.framing R = Instrument.framing A
  read_eq : Instrument.read R = Instrument.read A
  needsChecksum_eq : ∀ d : Device A,
    Instrument.needsChecksum (d.project f) = Instrument.needsChecksum d
  requestedAddress_eq : ∀ (request : Request C) (d : Device A),
    Instrument.requestedAddress request (d.project f) = Instrument.requestedAddress request d
  apply_eq : ∀ (request : Request C) (d : Device A), Instrument.apply request (d.project f) =
    ((Instrument.apply request d).1.project f, (Instrument.apply request d).2)
  observe_eq : ∀ (sample : Sample) (registers : A),
    f (Instrument.observe sample registers) = Instrument.observe sample (f registers)
  encodeReply_eq : ∀ (request : Request C) (d : Device A),
    Instrument.encodeReply request (d.project f) = Instrument.encodeReply request d
  encodeFault_eq : ∀ (request : Request C) (d : Device A),
    Instrument.encodeFault request (d.project f) = Instrument.encodeFault request d
  measurement_eq : ∀ (timestamp : Timestamp) (d : Device A),
    Instrument.measurement timestamp (d.project f) = Instrument.measurement timestamp d

namespace Bus

/-! ## Other registers on a bus -/

section Registers

/-- A bus is its devices and the largest address. -/
theorem eq_of_devices_eq {x y : Bus R} (hm : x.maxAddress = y.maxAddress)
    (hd : x.devices = y.devices) : x = y := by
  obtain ⟨m, l, h⟩ := x
  obtain ⟨m', l', h'⟩ := y
  obtain rfl : m = m' := hm
  obtain rfl : l = l' := hd
  rfl

/-- The bus with other registers. -/
def project (f : A → R) (bus : Bus A) : Bus R where
  maxAddress := bus.maxAddress
  devices := bus.devices.map fun entry => (entry.1, entry.2.project f)
  ascending := by simpa [Function.comp_def] using bus.ascending

variable {f : A → R}

/-- The devices are projected where they are. -/
theorem devices_project (f : A → R) (bus : Bus A) :
    (bus.project f).devices = bus.devices.map fun entry => (entry.1, entry.2.project f) := rfl

/-- The largest address stays. -/
@[simp] theorem maxAddress_project (f : A → R) (bus : Bus A) :
    (bus.project f).maxAddress = bus.maxAddress := rfl

/-- So do the addresses in use. -/
@[simp] theorem addresses_project (f : A → R) (bus : Bus A) :
    (bus.project f).addresses = bus.addresses := by
  rw [addresses, addresses, project, List.map_map]
  rfl

/-- All devices are projected. -/
@[simp] theorem toList_project (f : A → R) (bus : Bus A) :
    (bus.project f).toList = bus.toList.map (Device.project f) := by
  rw [toList, toList, project, List.map_map, List.map_map]
  rfl

/-- So is the one at an address. -/
theorem get?_project (f : A → R) (a : Nat) (bus : Bus A) :
    (bus.project f).get? a = (bus.get? a).map (Device.project f) :=
  lookup_map_snd (fun _ (d : Device A) => d.project f) a bus.devices

/-- An address is in use before and after. -/
@[simp] theorem contains_project (f : A → R) (a : Nat) (bus : Bus A) :
    (bus.project f).contains a = bus.contains a := by
  rw [contains, contains, get?_project, Option.isSome_map]

/-- Registers do not matter for the order of a bus. -/
theorem WellPlaced.project {bus : Bus A} (hp : bus.WellPlaced) (f : A → R) :
    (bus.project f).WellPlaced where
  address_eq h := by
    rw [get?_project] at h
    obtain ⟨d, hd, rfl⟩ := Option.map_eq_some_iff.1 h
    exact hp.address_eq hd
  le_maxAddress h := by
    rw [get?_project] at h
    obtain ⟨d, hd, rfl⟩ := Option.map_eq_some_iff.1 h
    exact hp.le_maxAddress hd

/-- If a change of a device does not look at what is left out, it does not matter when it is left
out. -/
theorem modify_project {g : Device A → Device A} {h : Device R → Device R}
    (hgh : ∀ d, (g d).project f = h (d.project f)) (a : Nat) (bus : Bus A) :
    (bus.project f).modify a h = (bus.modify a g).project f := by
  refine eq_of_devices_eq rfl ?_
  simp only [devices_project, modify, List.map_map]
  refine List.map_congr_left fun entry _ => ?_
  simp only [Function.comp_apply]
  split
  · rw [hgh]
  · rfl

/-- A device can be replaced before or after. -/
theorem replace_project (a : Nat) (d : Device A) (bus : Bus A) :
    (bus.project f).replace a (d.project f) = (bus.replace a d).project f :=
  modify_project (g := fun _ => d) (h := fun _ => d.project f) (fun _ => rfl) a bus

/-- A change of all devices can be made before or after, if it does the same to each. -/
theorem map_project {g : Device A → Device A} {h : Device R → Device R}
    (hgh : ∀ d, (g d).project f = h (d.project f)) (bus : Bus A) :
    (bus.project f).map h = (bus.map g).project f := by
  refine eq_of_devices_eq rfl ?_
  simp only [devices_project, map, List.map_map]
  refine List.map_congr_left fun entry _ => ?_
  simp only [Function.comp_apply]
  rw [hgh]

/-- So can a place be taken in a list. -/
theorem placeAscending_map {α β : Type} (f : α → β) (a : Nat) (value : α) (l : List (Nat × α)) :
    placeAscending a (f value) (l.map fun entry => (entry.1, f entry.2)) =
      (placeAscending a value l).map fun entry => (entry.1, f entry.2) := by
  induction l with
  | nil => rfl
  | cons entry rest ih =>
    obtain ⟨k, v⟩ := entry
    simp only [List.map_cons, placeAscending]
    split
    · rfl
    · split
      · rfl
      · rw [List.map_cons, ih]

/-- And so on the bus. -/
theorem place_project (a : Nat) (d : Device A) (bus : Bus A) :
    (bus.project f).place a (d.project f) = (bus.place a d).project f :=
  eq_of_devices_eq rfl (placeAscending_map (Device.project f) a d bus.devices)

/-- A device can be taken off before or after. -/
theorem erase_project (a : Nat) (bus : Bus A) :
    (bus.project f).erase a = (bus.erase a).project f := by
  refine eq_of_devices_eq rfl ?_
  simp only [devices_project, erase, List.filter_map]
  rfl

/-- It can be moved before or after. -/
theorem reassign_project (old new : Nat) (bus : Bus A) :
    (bus.project f).reassign old new = (bus.reassign old new).map (project f) := by
  rw [reassign, reassign, maxAddress_project, get?_project]
  split
  · rfl
  · cases bus.get? old with
    | none => rfl
    | some d =>
      simp only [Option.map_some, contains_project]
      split
      · rfl
      · split
        · rfl
        · rw [erase_project]
          exact congrArg Except.ok (place_project new { d with address := new } _)

end Registers

/-! ## What is left out does not matter -/

section Projection

variable {C : Type} [Instrument A C] [Instrument R C] {f : A → R}

/-- A request is for the same devices. -/
theorem resolve_project (target : Target) (bus : Bus A) :
    (bus.project f).resolve target = bus.resolve target := by
  cases target with
  | address a => rw [resolve, resolve, contains_project]
  | all => rw [resolve, resolve, addresses_project]
  | first => rw [resolve, resolve, first?, first?, addresses_project]

/-- The same requests are permitted. -/
theorem permit_project (hf : Projection f) (request : Request C) (d : Device A) (bus : Bus A) :
    (bus.project f).permit request (d.project f) = bus.permit request d := by
  unfold permit
  simp only [contains_project, hf.needsChecksum_eq, hf.requestedAddress_eq]
  rfl

/-- A refusal says the same. -/
theorem refusal_project (hf : Projection f) (request : Request C) (d : Device A) (wake : Bool)
    (fault : Fault) : refusal request (d.project f) wake fault = refusal request d wake fault := by
  rw [refusal, refusal, hf.encodeFault_eq]

/-- So does an answer. -/
theorem answer_project (hf : Projection f) (request : Request C) (d : Device A)
    (outcome : Outcome) : answer request (d.project f) outcome = answer request d outcome := by
  rw [answer, answer, hf.encodeReply_eq]
  rfl

/-- An outcome is settled in the same way. -/
theorem settle_project (hf : Projection f) (request : Request C) (d : Device A)
    (outcome : Outcome) (bus : Bus A) : (bus.project f).settle request (d.project f) outcome =
      ((bus.settle request d outcome).1.project f, (bus.settle request d outcome).2) := by
  rw [settle, settle]
  cases outcome.moveTo with
  | none => rw [answer_project hf]
  | some new =>
    have ha : (d.project f).address = d.address := rfl
    simp only [ha, reassign_project]
    cases bus.reassign d.address new with
    | ok moved =>
      exact congrArg (Prod.mk _) (answer_project hf request { d with address := new } outcome)
    | error fault => exact congrArg (Prod.mk _) (refusal_project hf request d outcome.wake fault)

/-- A turn does the same. -/
theorem dispatchTo_project (hf : Projection f) (request : Request C) (a : Nat) (bus : Bus A) :
    (bus.project f).dispatchTo request a =
      ((bus.dispatchTo request a).1.project f, (bus.dispatchTo request a).2) := by
  rw [dispatchTo, dispatchTo, get?_project]
  cases bus.get? a with
  | none => rfl
  | some d =>
    simp only [Option.map_some, permit_project hf]
    cases bus.permit request d with
    | error fault => exact congrArg (Prod.mk _) (refusal_project hf request d true fault)
    | ok allowed =>
      simp only [hf.apply_eq]
      rcases Instrument.apply request d with ⟨changed, fault | outcome⟩
      · simp only [replace_project, refusal_project hf]
      · simp only [replace_project, settle_project hf]

/-- So do several turns. -/
theorem dispatchAll_project (hf : Projection f) (request : Request C) (addresses : List Nat)
    (bus : Bus A) : (bus.project f).dispatchAll request addresses =
      ((bus.dispatchAll request addresses).1.project f,
        (bus.dispatchAll request addresses).2) := by
  induction addresses generalizing bus with
  | nil => rfl
  | cons a rest ih => simp only [dispatchAll, dispatchTo_project hf, ih]

/-- What is left out does not matter for a frame. -/
theorem dispatch_project (hf : Projection f) (frame : Bytes) (bus : Bus A) :
    (bus.project f).dispatch frame =
      ((bus.dispatch frame).1.project f, (bus.dispatch frame).2) := by
  rw [dispatch, dispatch, hf.read_eq]
  cases Instrument.read A frame with
  | error fault => rfl
  | ok request =>
    simp only [resolve_project]
    cases bus.resolve request.target with
    | error fault => rfl
    | ok addresses => exact dispatchAll_project hf request addresses bus

/-- A sample can be taken in before or after. -/
theorem observe_project (hf : Projection f) (sample : Sample) (bus : Bus A) :
    (bus.project f).observe sample = (bus.observe sample).project f := by
  refine map_project (fun d => ?_) bus
  rw [Device.project, Device.mapRegisters, hf.observe_eq]
  rfl

/-- A record can be made before or after. -/
theorem markSent_project (time : Nat) (addresses : List Nat) (bus : Bus A) :
    (bus.project f).markSent time addresses = (bus.markSent time addresses).project f := by
  induction addresses generalizing bus with
  | nil => rfl
  | cons a rest ih =>
    have hone : (bus.project f).modify a (Device.mapSchedule (·.markSent time)) =
        (bus.modify a (Device.mapSchedule (·.markSent time))).project f :=
      modify_project (f := f) (g := Device.mapSchedule (·.markSent time)) (fun _ => rfl) a bus
    rw [markSent, markSent, List.foldl_cons, List.foldl_cons, hone]
    exact ih _

/-- The next time stays the same. -/
theorem nextDue_project (now : Nat) (bus : Bus A) :
    (bus.project f).nextDue now = bus.nextDue now := by
  rw [nextDue, nextDue, toList_project, List.filterMap_map]
  rfl

/-- So do the devices that are due. -/
theorem due_project (now : Nat) (bus : Bus A) : (bus.project f).due now = bus.due now := by
  rw [due, due, toList_project, List.filter_map, List.map_map]
  rfl

/-- So do their messages. -/
theorem measurements_project (hf : Projection f) (timestamp : Timestamp) (addresses : List Nat)
    (bus : Bus A) :
    (bus.project f).measurements timestamp addresses = bus.measurements timestamp addresses := by
  refine List.flatMap_congr fun a _ => ?_
  rw [get?_project]
  cases bus.get? a with
  | none => rfl
  | some d => exact hf.measurement_eq timestamp d

/-- Every operation can be carried out before or after. -/
theorem operate_project (hf : Projection f) (operation : Operation) (bus : Bus A) :
    (bus.project f).operate operation = (bus.operate operation).project f := by
  cases operation with
  | dispatch frame => rw [operate, operate, dispatch_project hf]
  | observe sample => exact observe_project hf sample bus
  | markSent time addresses => exact markSent_project time addresses bus

/-- What is left out does not matter for a run. -/
theorem run_project (hf : Projection f) (operations : List Operation) (bus : Bus A) :
    (bus.project f).run operations = (bus.run operations).project f := by
  induction operations generalizing bus with
  | nil => rfl
  | cons operation rest ih => rw [run_cons, run_cons, operate_project hf, ih]

end Projection

end Bus

end WeatherBus
