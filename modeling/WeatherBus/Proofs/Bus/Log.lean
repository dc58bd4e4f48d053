import WeatherBus.Proofs.Bus.Projection

/-! # Which samples a device has taken in

A device keeps only what it needs of a sample. To tell which samples it has taken in, and in which
order, each device gets a log of them.

* **`Logged R`** — registers with such a log. A kind of instrument is one with logs, too, and never
  looks at them: `Bus.projection_registers_logged`;
* **`Bus.Logs`** — all devices on a bus have the same log; a frame and a record leave it alone, and
  a sample is added to it. -/

namespace WeatherBus

open scoped List

/-- Registers of a device, with the samples that the device has taken in. -/
structure Logged (R : Type) where
  /-- The samples in the order in which they were taken in. -/
  log : List Sample
  registers : R
deriving DecidableEq, Repr

/-- The samples that a device has taken in. -/
def Device.log {R : Type} (d : Device (Logged R)) : List Sample := d.registers.log

variable {R C : Type} [Instrument R C]

/-- A kind of instrument with logs. Only samples are written down. -/
instance : Instrument (Logged R) C where
  framing := Instrument.framing R
  read := Instrument.read R
  needsChecksum d := Instrument.needsChecksum (d.project Logged.registers)
  requestedAddress request d :=
    Instrument.requestedAddress request (d.project Logged.registers)
  apply request d :=
    let result := Instrument.apply request (d.project Logged.registers)
    (result.1.project (Logged.mk d.log), result.2)
  observe sample r :=
    { log := r.log ++ [sample], registers := Instrument.observe sample r.registers }
  canObserve sample r := Instrument.canObserve sample r.registers
  encodeReply request d := Instrument.encodeReply request (d.project Logged.registers)
  encodeFault request d := Instrument.encodeFault request (d.project Logged.registers)
  measurement timestamp d := Instrument.measurement timestamp (d.project Logged.registers)
  canMeasure d := Instrument.canMeasure (d.project Logged.registers)

namespace Bus

/-- No command looks at a log. -/
theorem projection_registers_logged : Projection (Logged.registers (R := R)) where
  framing_eq := rfl
  read_eq := rfl
  needsChecksum_eq _ := rfl
  requestedAddress_eq _ _ := rfl
  apply_eq _ _ := rfl
  observe_eq _ _ := rfl
  encodeReply_eq _ _ := rfl
  encodeFault_eq _ _ := rfl
  measurement_eq _ _ := rfl

/-- Leaving the logs out gives the bus that got them. -/
theorem project_registers_logged (log : List Sample) (plain : Bus R) :
    (plain.project (Logged.mk log)).project Logged.registers = plain := by
  refine eq_of_devices_eq rfl ?_
  rw [devices_project, devices_project, List.map_map]
  exact List.map_id _

/-! ## The log of a bus -/

/-- All devices on a bus have taken in the same samples. -/
def Logs (log : List Sample) (bus : Bus (Logged R)) : Prop := ∀ d ∈ bus.toList, d.log = log

variable {bus after : Bus (Logged R)} {log : List Sample}

/-- At first all logs are empty. -/
theorem logs_project (plain : Bus R) : (plain.project (Logged.mk [])).Logs [] := by
  intro d hd
  rw [toList_project] at hd
  obtain ⟨d, -, rfl⟩ := List.mem_map.1 hd
  rfl

namespace Logs

/-- It is enough to know the logs, and not on which device they are. -/
theorem of_perm (h : bus.Logs log)
    (hperm : after.toList.map Device.log ~ bus.toList.map Device.log) : after.Logs log := by
  intro d hd
  obtain ⟨e, he, hsame⟩ := List.mem_map.1 (hperm.mem_iff.1 (List.mem_map_of_mem hd))
  rw [← hsame]
  exact h e he

/-- No frame adds to a log. -/
theorem dispatchInvariant (log : List Sample) : DispatchInvariant (Logs (R := R) log) where
  replace {bus a d} request hd h := by
    refine h.of_perm (List.Perm.of_eq (map_toList_modify fun he => ?_))
    obtain rfl := Option.some.inj (hd.symm.trans he)
    rfl
  move hr h := h.of_perm (map_reassign_perm Device.log (fun _ _ => rfl) hr)

/-- A frame leaves the log alone. -/
theorem dispatch (h : bus.Logs log) (frame : Bytes) : (bus.dispatch frame).1.Logs log :=
  (dispatchInvariant log).dispatch frame h

/-- A sample is added to the log. -/
theorem observe (h : bus.Logs log) (sample : Sample) :
    (bus.observe sample).Logs (log ++ [sample]) := by
  intro d hd
  obtain ⟨a, ha⟩ := mem_toList_iff.1 hd
  rw [Bus.observe, get?_map] at ha
  obtain ⟨e, he, rfl⟩ := Option.map_eq_some_iff.1 ha
  exact congrArg (· ++ [sample]) (h e (mem_toList_iff.2 ⟨a, he⟩))

/-- A record leaves the log alone. -/
theorem markSent (h : bus.Logs log) (time : Nat) (addresses : List Nat) :
    (bus.markSent time addresses).Logs log :=
  h.of_perm (List.Perm.of_eq (map_toList_markSent (fun _ _ => rfl) time addresses bus))

end Logs

end Bus

end WeatherBus
