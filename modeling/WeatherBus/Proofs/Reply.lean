import WeatherBus.Proofs.Kinds
import WeatherBus.Proofs.LightningDetector.Reply
import WeatherBus.Proofs.VisibilitySensor.Effect
import WeatherBus.Proofs.VisibilitySensor.Reply

/-! # Everything that is sent is sent in frames

Instruments send back what others have given them, the message of the host and the report of the
feed. That does not break the framing.

* **`Block.Conveys`** — bytes from which a receiver recovers one payload;
* **`Bus.Conveys`** — a bus whose answers and measurements are such bytes;
* **`Bus.sends_frames`** — so are they in every run, for both kinds of instruments that send blocks,
  and the fields of the visibility sensor are where they belong. -/

namespace WeatherBus

namespace Block

/-- Bytes that are the frame of one payload. Whatever a receiver was in the middle of, if its limit
admits the block, it hands out this one block and reads the payload from it. CR and LF behind the
block do not count. -/
structure Conveys (write : Text → Bytes) (separator : UInt8) (checksum : Bytes → Nat)
    (bytes : Bytes) (payload : Text) : Prop where
  isPlain : payload.IsPlain
  bytes_eq : bytes = write payload
  recovers : ∀ limit framer, bytes.length ≤ limit + 2 → ∃ raw,
    ((Assembler.block framer).frames limit bytes).2 = [raw] ∧ Carries separator checksum raw payload

/-- Each style conveys the plain texts that it frames. -/
theorem Style.conveys (style : Style) {payload : Text} (h : payload.IsPlain) :
    Conveys style.frame style.separator style.checksum (style.frame payload) payload where
  isPlain := h
  bytes_eq := rfl
  recovers limit framer hlimit := by
    obtain ⟨next, hnext⟩ := style.frames_frame h hlimit framer
    exact ⟨style.block payload, by rw [hnext], style.carries_block h⟩

end Block

namespace Bus

variable {R C : Type} [Instrument R C]

/-- A bus that says everything in frames: its answer to any frame of a stream, if it has one, and
the measurement of every device, whose text is its data. -/
structure Conveys (conveys : Bytes → Text → Prop) (data : Device R → Text) (bus : Bus R) :
    Prop where
  reply : ∀ {frame}, Framed frame → (bus.dispatch frame).2.reply ≠ [] →
    ∃ payload, conveys (bus.dispatch frame).2.reply payload
  measurement : ∀ {a d}, bus.get? a = some d → ∀ timestamp,
    conveys (Instrument.measurement timestamp d) (data d)

/-- A kind that answers in single frames says everything in frames, if it also frames its data. -/
theorem Answers.conveys (style : Block.Style) {P : Device R → Prop} {data : Device R → Text}
    {maxAddress : Nat} {bus : Bus R} (h : Answers style.frame P)
    (hdata : ∀ {d}, P d → (data d).IsPlain)
    (hmeasurement : ∀ timestamp d, Instrument.measurement timestamp d = style.frame (data d))
    (hq : bus.Throughout maxAddress P) :
    bus.Conveys (Block.Conveys style.frame style.separator style.checksum) data where
  reply hframed hreply := by
    rcases h.dispatch hframed hq with hsilent | ⟨payload, hplain, heq⟩
    · exact absurd hsilent hreply
    · exact ⟨payload, heq ▸ style.conveys hplain⟩
  measurement hd timestamp :=
    hmeasurement timestamp _ ▸ style.conveys (hdata (hq.2.2 hd))

end Bus

variable {operations : List Bus.Operation}

namespace LightningDetector

/-- Bytes from which a host recovers what a detector says. -/
def Conveys : Bytes → Text → Prop := Block.Conveys frame separator checksum

/-- A detector says everything in frames, whatever message the host has given it. -/
theorem conveys_run {serial : Text} {start : Bus LightningDetector} (hserial : serial.IsPlain)
    (hstart : bus serial = .ok start)
    (hframes : ∀ frame, .dispatch frame ∈ operations → Bus.Framed frame) :
    (start.run operations).Conveys Conveys (·.registers.data) := by
  have hnew : IsQuotable (new serial) := ⟨hserial, List.forall_mem_nil _⟩
  have hquotable := (receivedInvariant_isQuotable 0).run hframes (throughout_bus hnew hstart)
  exact answers.conveys style (fun hd => isPlain_data hd.message) (fun _ _ => frame_eq _)
    hquotable

end LightningDetector

namespace VisibilitySensor

variable {count : Nat} {start : Bus VisibilitySensor}

/-- Bytes from which a host recovers what a sensor says. -/
def Conveys : Bytes → Text → Prop := Block.Conveys frame separator checksum

/-- In every run, the mask of a sensor asks for fields that there are. -/
theorem hasKnownMask_run (hstart : bus count = .ok start) (operations : List Bus.Operation) :
    (start.run operations).Throughout maxId HasKnownMask :=
  (inRange_run hstart operations).imp InRange.mask_eq

/-- A sensor says everything in frames, whatever report the feed has supplied. -/
theorem conveys_run (hstart : bus count = .ok start) (operations : List Bus.Operation) :
    (start.run operations).Conveys Conveys fun d => d.registers.data d.address :=
  (answers HasKnownMask).conveys style (fun _ => isPlain_data _ _) (fun _ _ => frame_eq _)
    (hasKnownMask_run hstart operations)

end VisibilitySensor

/-- In every run on the frames of a stream and any samples of the feed, what an instrument says is
in frames from which the host recovers it. Between the colons of a sensor's message there are,
behind its type and its address, the fields of the bits that are asked for, in the order of the
bits. -/
theorem Bus.sends_frames
    (hframes : ∀ frame, .dispatch frame ∈ operations → Framed frame) :
    (∀ {serial start}, Text.IsPlain serial → LightningDetector.bus serial = .ok start →
      (start.run operations).Conveys LightningDetector.Conveys (·.registers.data)) ∧
    ∀ {count start}, VisibilitySensor.bus count = .ok start →
      (start.run operations).Conveys VisibilitySensor.Conveys
        (fun d => d.registers.data d.address) ∧
      ∀ {a d}, (start.run operations).get? a = some d →
        ∃ bits fields, VisibilitySensor.Tabulated d bits fields ∧
          (Text.pieces (· == ':') (d.registers.data d.address)).length = 2 + bits.length ∧
          (d.registers.active.format = .standard → bits.length = 4) := by
  refine ⟨fun hserial hstart => LightningDetector.conveys_run hserial hstart hframes,
    fun hstart => ⟨VisibilitySensor.conveys_run hstart operations, fun hd => ?_⟩⟩
  have hmask := (VisibilitySensor.hasKnownMask_run hstart operations).2.2 hd
  obtain ⟨bits, fields, h⟩ := VisibilitySensor.exists_tabulated hmask
  exact ⟨bits, fields, h, h.length_pieces, h.length_of_standard⟩

/-- A serial number, a message and a report with colons. The detector answers to the message, also
when it comes again. Of the two fields that the sensor is asked for, it does not know the first
one. -/
theorem Bus.sends_frames_colons :
    let detectors := (Bus.empty 0).place 0 (LightningDetector.new "T:1".toList)
    let sensors := (Bus.empty VisibilitySensor.maxId).place 0 (VisibilitySensor.new 0)
    let frames := fun stream => ((Assembler.start .block).frames 64 stream).2
    let toDetector := frames (LightningDetector.frame "MSG a:b".toList)
    let toSensor := frames (VisibilitySensor.frame "MSGSET:0:06".toList ++
      VisibilitySensor.frame "SET:0:::1:::::".toList)
    let report : Sample := ⟨[("METAR".toList, "A:B".toList)]⟩
    LightningDetector.bus "T:1".toList = .ok detectors ∧
    VisibilitySensor.bus 1 = .ok sensors ∧
    (∀ frame ∈ toDetector, ∃ payload, LightningDetector.Conveys
      ((detectors.run (toDetector.map .dispatch)).dispatch frame).2.reply payload) ∧
    (∃ d, (detectors.run (toDetector.map .dispatch)).get? 0 = some d ∧
      d.registers.data = "DATA 0 0 0 --- --- a:b".toList ∧
      ∀ timestamp, LightningDetector.Conveys (Instrument.measurement timestamp d)
        d.registers.data) ∧
    ∃ d, (sensors.run (toSensor.map .dispatch ++ [.observe report])).get? 0 = some d ∧
      d.registers.data d.address = "DATA:0://:A_B".toList ∧
      ∀ timestamp, VisibilitySensor.Conveys (Instrument.measurement timestamp d)
        (d.registers.data d.address) := by
  intro detectors sensors frames toDetector toSensor report
  have hdetectors : LightningDetector.bus "T:1".toList = .ok detectors := rfl
  have hsensors : VisibilitySensor.bus 1 = .ok sensors := rfl
  have hframed : ∀ stream frame, .dispatch frame ∈ (frames stream).map Operation.dispatch →
      Framed frame := by
    intro stream frame h
    obtain ⟨_, hmem, heq⟩ := List.mem_map.1 h
    exact ⟨64, stream, Operation.dispatch.inj heq ▸ hmem⟩
  have hdetector : (detectors.run (toDetector.map .dispatch)).Conveys LightningDetector.Conveys
      (fun d => d.registers.data) :=
    (Bus.sends_frames (hframed _)).1 (by decide) hdetectors
  have hsensor : (sensors.run (toSensor.map .dispatch ++ [.observe report])).Conveys
      VisibilitySensor.Conveys (fun d => d.registers.data d.address) := by
    refine ((Bus.sends_frames fun frame h => ?_).2 hsensors).1
    rcases List.mem_append.1 h with h | h
    · exact hframed _ frame h
    · exact Operation.noConfusion (List.mem_singleton.1 h)
  have hanswers : ∀ frame ∈ toDetector,
      ((detectors.run (toDetector.map .dispatch)).dispatch frame).2.reply ≠ [] := by
    decide +kernel
  obtain ⟨d, hd, hmessage⟩ := Option.map_eq_some_iff.1
    (by decide +kernel : ((detectors.run (toDetector.map .dispatch)).get? 0).map
      (fun d => d.registers.data) = some "DATA 0 0 0 --- --- a:b".toList)
  obtain ⟨e, he, hreport⟩ := Option.map_eq_some_iff.1
    (by decide +kernel : ((sensors.run (toSensor.map .dispatch ++ [.observe report])).get? 0).map
      (fun d => d.registers.data d.address) = some "DATA:0://:A_B".toList)
  exact ⟨hdetectors, hsensors, fun frame h => hdetector.reply ⟨64, _, h⟩ (hanswers frame h),
    ⟨d, hd, hmessage, hdetector.measurement hd⟩, ⟨e, he, hreport, hsensor.measurement he⟩⟩

end WeatherBus
