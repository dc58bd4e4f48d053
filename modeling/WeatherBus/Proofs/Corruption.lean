import WeatherBus.LightningDetector.Instrument
import WeatherBus.Proofs.Bus.Turn
import WeatherBus.Proofs.Checksum
import WeatherBus.Proofs.Frame.Style
import WeatherBus.VisibilitySensor.Instrument

/-! # Damaged blocks have no effect

A block whose content was damaged within two bytes next to each other still carries the checksum of
the content as it was. No device that needs a checksum lets it through, whatever else can be read
from the block.

* **`Bus.Disregards`** — a frame changes nothing on a bus, and no measurement is sent for it;
* **`Bus.disregards_of_checksum`** — so it is if its checksum is wrong, and all devices need one;
* **`LightningDetector.checksum_of_read`**, **`VisibilitySensor.checksum_of_read`** — what the two
  kinds of instruments that read blocks find out about the checksum;
* **`Bus.disregards_corrupted`** — damaged blocks, of any length and on any bus. -/

namespace WeatherBus

namespace Bus

variable {R C : Type} [Instrument R C] {request : Request C} {bus : Bus R} {d : Device R}
  {frame : Bytes}

/-- A frame has no effect on a bus: all devices are as before, and none of them is going to send a
measurement. -/
structure Disregards (bus : Bus R) (frame : Bytes) : Prop where
  bus_eq : (bus.dispatch frame).1 = bus
  measurements_eq : (bus.dispatch frame).2.measurements = []

/-! ## Wrong checksums -/

/-- The devices that measure for two answers are those of the first and those of the second. -/
theorem measurements_append (a b : Answer) :
    (a ++ b).measurements = a.measurements ++ b.measurements := rfl

/-- A device that needs a checksum lets no request through without the right one. -/
theorem permit_of_checksum_ne (h : request.checksum ≠ .valid)
    (hn : Instrument.needsChecksum d = true) : ∃ fault, bus.permit request d = .error fault := by
  rw [permit]
  cases hc : request.checksum with
  | valid => exact absurd hc h
  | invalid received calculated => exact ⟨_, rfl⟩
  | absent =>
    rw [hn]
    exact ⟨_, rfl⟩

/-- A device that may not carry out a request does nothing in its turn. -/
theorem dispatchTo_of_forbidden
    (h : ∀ d ∈ bus.toList, ∃ fault, bus.permit request d = .error fault) (a : Nat) :
    (bus.dispatchTo request a).1 = bus ∧ (bus.dispatchTo request a).2.measurements = [] := by
  cases hd : bus.get? a with
  | none =>
    rw [dispatchTo, hd]
    exact ⟨rfl, rfl⟩
  | some d =>
    obtain ⟨fault, hp⟩ := h d (mem_toList_iff.2 ⟨a, hd⟩)
    have hturn : bus.dispatchTo request a = (bus, refusal request d true fault) := by
      simp only [dispatchTo, hd, hp]
    rw [hturn]
    exact ⟨rfl, rfl⟩

/-- Nor do several devices in their turns. -/
theorem dispatchAll_of_forbidden
    (h : ∀ d ∈ bus.toList, ∃ fault, bus.permit request d = .error fault) (addresses : List Nat) :
    (bus.dispatchAll request addresses).1 = bus ∧
      (bus.dispatchAll request addresses).2.measurements = [] := by
  induction addresses with
  | nil => exact ⟨rfl, rfl⟩
  | cons a rest ih =>
    obtain ⟨hbus, hsilent⟩ := dispatchTo_of_forbidden h a
    rw [fst_dispatchAll_cons, snd_dispatchAll_cons, measurements_append, hbus, hsilent]
    exact ih

/-- A frame with a wrong checksum has no effect where all devices need one. -/
theorem disregards_of_checksum
    (h : ∀ request : Request C, Instrument.read R frame = .ok request → request.checksum ≠ .valid)
    (hn : ∀ d ∈ bus.toList, Instrument.needsChecksum d = true) : bus.Disregards frame := by
  have hboth : (bus.dispatch frame).1 = bus ∧ (bus.dispatch frame).2.measurements = [] := by
    -- A frame that cannot be read, or that is for no device here, is lost.
    rw [dispatch]
    split
    · exact ⟨rfl, rfl⟩
    · rename_i request hread
      split
      · exact ⟨rfl, rfl⟩
      · exact dispatchAll_of_forbidden
          (fun d hd => permit_of_checksum_ne (h request hread) (hn d hd)) _
  exact ⟨hboth.1, hboth.2⟩

end Bus

/-! ## The two kinds that read blocks -/

namespace LightningDetector

variable {trailer : Option UInt8} {content : Bytes} {received : Nat} {request : Request Command}

/-- The checksum of a block is compared with the one of its content. -/
theorem checksum_of_read (ht : ∀ b ∈ trailer, b = separator) (hc : etx ∉ content)
    (hr : received < 16 ^ 4)
    (h : Command.read (Block.ofBytes separator trailer content received) = .ok request) :
    request.checksum = .compare received (checksum (content ++ [separator])) := by
  obtain ⟨block, sent, hextract, hsent, rfl⟩ := Command.exists_block_of_read h
  obtain ⟨hcovered, hreceived⟩ := Block.of_extract_ofBytes isSeparator ht hc hr hextract
  obtain rfl := Except.ok.inj (hsent.symm.trans hreceived)
  rw [hcovered]

/-- The checksum of damaged content does not match. -/
theorem checksum_ne_of_corrupts {p q : Bytes} (h : Corrupts p q) :
    checksum (q ++ [separator]) ≠ checksum (p ++ [separator]) := fun heq =>
  (h.append [separator]).checksum_ne .complemented (BitVec.eq_of_toNat_eq heq)

end LightningDetector

namespace VisibilitySensor

variable {trailer : Option UInt8} {content : Bytes} {received : Nat} {request : Request Command}

/-- The checksum of a block is compared with the one of its content, unless it is zero. -/
theorem checksum_of_read (ht : ∀ b ∈ trailer, b = separator) (hc : etx ∉ content)
    (hr : received < 16 ^ 4)
    (h : Command.read (Block.ofBytes separator trailer content received) = .ok request) :
    request.checksum = Command.status received (checksum (content ++ [separator])) := by
  obtain ⟨block, sent, keyword, id, fields, hextract, hsent, rfl⟩ := Command.exists_block_of_read h
  obtain ⟨hcovered, hreceived⟩ := Block.of_extract_ofBytes isSeparator ht hc hr hextract
  obtain rfl := Except.ok.inj (hsent.symm.trans hreceived)
  rw [hcovered]

/-- The checksum of damaged content does not match. -/
theorem checksum_ne_of_corrupts {p q : Bytes} (h : Corrupts p q) :
    checksum (q ++ [separator]) ≠ checksum (p ++ [separator]) := fun heq =>
  (h.append [separator]).checksum_ne .direct (BitVec.eq_of_toNat_eq heq)

end VisibilitySensor

/-! ## Damaged blocks -/

/-- A block whose content was damaged within two bytes next to each other has no effect on any bus
with lightning detectors, nor on any bus with visibility sensors that all check: the block carries
the checksum of the content `p` as it was, with a separator behind it or without. -/
theorem Bus.disregards_corrupted {p q : Bytes} (h : Corrupts p q) (hq : etx ∉ q)
    (trailed : Bool) :
    (∀ bus : Bus LightningDetector,
      let separator := LightningDetector.separator
      bus.Disregards (Block.ofBytes separator (if trailed then some separator else none) q
        (LightningDetector.checksum (p ++ [separator])))) ∧
    ∀ bus : Bus VisibilitySensor, (∀ d ∈ bus.toList, d.registers.active.checked = true) →
      let separator := VisibilitySensor.separator
      bus.Disregards (Block.ofBytes separator (if trailed then some separator else none) q
        (VisibilitySensor.checksum (p ++ [separator]))) := by
  have htrailer : ∀ separator : UInt8,
      ∀ b ∈ (if trailed then some separator else none), b = separator := by
    intro separator b hb
    cases trailed with
    | true => exact (Option.some.inj hb).symm
    | false => exact absurd hb (by simp)
  refine ⟨fun bus => ?_, fun bus hchecked => ?_⟩
  · refine disregards_of_checksum (fun request hread hvalid => ?_) fun d _ => rfl
    have hstatus := LightningDetector.checksum_of_read (htrailer _) hq
      (Checksum.Convention.toNat_apply_lt _ _) hread
    rw [hvalid] at hstatus
    -- The checksum of `p` would be that of `q`.
    have hmatch := ChecksumStatus.compare_eq_valid_iff.1 hstatus.symm
    exact LightningDetector.checksum_ne_of_corrupts h hmatch.symm
  · refine disregards_of_checksum (fun request hread hvalid => ?_) hchecked
    have hstatus := VisibilitySensor.checksum_of_read (htrailer _) hq
      (Checksum.Convention.toNat_apply_lt _ _) hread
    rw [hvalid] at hstatus
    have hmatch := VisibilitySensor.Command.status_eq_valid_iff.1 hstatus.symm
    exact VisibilitySensor.checksum_ne_of_corrupts h hmatch.symm

/-- A poll for sensor 1 that was one for sensor 10. Both kinds of devices read it, and refuse it for
its checksum. -/
theorem Bus.disregards_corrupted_poll :
    let p := Utf8.encode "POLL:10".toList
    let q := Utf8.encode "POLL:01".toList
    let toDetector := Block.ofBytes LightningDetector.separator none q
      (LightningDetector.checksum (p ++ [LightningDetector.separator]))
    let toSensor := Block.ofBytes VisibilitySensor.separator none q
      (VisibilitySensor.checksum (p ++ [VisibilitySensor.separator]))
    Corrupts p q ∧ etx ∉ q ∧
    (∃ detectors, LightningDetector.bus "L1".toList = .ok detectors ∧
      detectors.Disregards toDetector ∧ (detectors.dispatch toDetector).2.faults.length = 1) ∧
    ∃ sensors, VisibilitySensor.bus 2 = .ok sensors ∧
      (∀ d ∈ sensors.toList, d.registers.active.checked = true) ∧
      sensors.Disregards toSensor ∧ (sensors.dispatch toSensor).2.faults.length = 1 := by
  intro p q toDetector toSensor
  have hcorrupts : Corrupts p q :=
    Corrupts.of_append (a := Utf8.encode "10".toList) (b := Utf8.encode "01".toList)
      (Utf8.encode "POLL:".toList) [] (by decide) (by decide) (by decide)
  have hq : etx ∉ q := by decide
  obtain ⟨hdetectors, hsensors⟩ := Bus.disregards_corrupted hcorrupts hq false
  refine ⟨hcorrupts, hq, ⟨_, rfl, hdetectors _, by decide +kernel⟩, ⟨_, rfl, ?_, hsensors _ ?_, ?_⟩⟩
  · decide +kernel
  · decide +kernel
  · decide +kernel

end WeatherBus
