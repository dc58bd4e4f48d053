import WeatherBus.Proofs.Bus.Turn
import WeatherBus.Proofs.Frame.Stream

/-! # What a bus says

The frames of a host come out of its stream of bytes. Some properties of a device are kept by the
requests that are read from such frames, but not by all there are.

* **`Bus.Received`** — a request that was read from a frame of a stream;
* **`Bus.ReceivedInvariant`** — what these requests, samples and records keep of a device;
* **`Bus.Answers`** — a kind of instrument that answers such a request in one frame;
  `Bus.Answers.dispatch` says that so does the bus. -/

namespace WeatherBus

/-- Bytes that are the frame of one payload. -/
def Block.Says (write : Text → Bytes) (bytes : Bytes) : Prop :=
  ∃ payload : Text, payload.IsPlain ∧ bytes = write payload

/-- An answer says nothing, or one thing. -/
def Answer.IsSingle (write : Text → Bytes) (answer : Answer) : Prop :=
  answer.reply = [] ∨ Block.Says write answer.reply

namespace Bus

variable {R C : Type} [Instrument R C] {request : Request C} {bus : Bus R} {frame : Bytes}

/-! ## Frames of a stream -/

/-- A frame that a framer hands out from some stream of bytes. -/
def Framed (frame : Bytes) : Prop :=
  ∃ limit stream, frame ∈ ((Assembler.start .block).frames limit stream).2

/-- What is framed is a whole block. -/
theorem Framed.isWhole (h : Framed frame) : Block.IsWhole frame := by
  obtain ⟨limit, stream, hframe⟩ := h
  exact Assembler.isWhole_of_mem_frames .outside hframe

/-- A request that was read from such a frame. -/
def Received (R : Type) {C : Type} [Instrument R C] (request : Request C) : Prop :=
  ∃ frame, Framed frame ∧ Instrument.read R frame = .ok request

/-! ## Runs -/

/-- What requests that were received, samples and records keep of a device. -/
structure ReceivedInvariant (maxAddress : Nat) (P : Device R → Prop) : Prop where
  apply : ∀ {request : Request C} {d : Device R}, Received R request → P d →
    P (Instrument.apply request d).1
  move : ∀ {d : Device R} {a : Nat}, a ≤ maxAddress → P d → P { d with address := a }
  observe : ∀ {d : Device R} (sample : Sample), P d →
    P (d.mapRegisters (Instrument.observe sample))
  markSent : ∀ {d : Device R} (time : Nat), P d → P (d.mapSchedule (·.markSent time))

/-- What is kept of every device holds throughout every run on the frames of a stream. -/
theorem ReceivedInvariant.run [Conducted R] {maxAddress : Nat} {P : Device R → Prop}
    (h : ReceivedInvariant maxAddress P) {operations : List Operation}
    (hframes : ∀ frame, .dispatch frame ∈ operations → Framed frame)
    (hq : bus.Throughout maxAddress P) : (bus.run operations).Throughout maxAddress P := by
  have hread : ReadInvariant Framed maxAddress P :=
    { h with apply := fun hframed hread => h.apply ⟨_, hframed, hread⟩ }
  exact hread.run hframes hq

/-! ## Answers -/

/-- What a device does about a request can be answered in a block, if there is anything to say. -/
inductive IsQuotable : Except Fault Outcome → Prop where
  | refused {fault : Fault} : IsQuotable (.error fault)
  | said {outcome : Outcome} {body : Text} (h : outcome.reply = .text body)
      (hbody : body.IsPlain) : IsQuotable (.ok outcome)
  | measured {outcome : Outcome} (h : outcome.reply = .measurement) : IsQuotable (.ok outcome)

/-- A kind of instrument that answers in single frames, as long as its devices have a property. -/
structure Answers (write : Text → Bytes) (P : Device R → Prop) : Prop where
  /-- No request is for several devices. -/
  target_ne : ∀ {request : Request C}, Received R request → request.target ≠ .all
  encodeReply_eq : ∀ (request : Request C) (d : Device R) (body : Text),
    Instrument.encodeReply request d body = write body
  says_encodeFault : ∀ {request : Request C} {d : Device R} {fault : Fault},
    ∀ bytes ∈ Instrument.encodeFault request d fault, Block.Says write bytes
  isQuotable_apply : ∀ {request : Request C} {d : Device R}, Received R request → P d →
    IsQuotable (Instrument.apply request d).2

/-- A request is for one device at most, unless it is for all of them. -/
theorem resolve_of_ne_all {target : Target} {addresses : List Nat} (hne : target ≠ .all)
    (h : bus.resolve target = .ok addresses) : addresses = [] ∨ ∃ a, addresses = [a] := by
  cases target with
  | address a =>
    rw [resolve] at h
    split at h
    · exact .inr ⟨a, (Except.ok.inj h).symm⟩
    · exact absurd h (by simp)
  | all => exact absurd rfl hne
  | first =>
    obtain rfl := Except.ok.inj h
    cases bus.first? with
    | none => exact .inl rfl
    | some a => exact .inr ⟨a, rfl⟩

namespace Answers

variable {write : Text → Bytes} {P : Device R → Prop} {maxAddress : Nat}

/-- A refusal is one frame or nothing. -/
theorem isSingle_refusal (h : Answers write P) (request : Request C) (d : Device R) (wake : Bool)
    (fault : Fault) : Answer.IsSingle write (refusal request d wake fault) := by
  rw [Answer.IsSingle, refusal]
  cases hbytes : Instrument.encodeFault request d fault with
  | none => exact .inl rfl
  | some bytes => exact .inr (h.says_encodeFault bytes hbytes)

/-- An answer is one frame or nothing. -/
theorem isSingle_answer (h : Answers write P) {d changed after : Device R} {outcome : Outcome}
    (hreceived : Received R request) (hp : P d)
    (ha : Instrument.apply request d = (changed, .ok outcome)) :
    Answer.IsSingle write (answer request after outcome) := by
  have hquotable := h.isQuotable_apply hreceived hp
  rw [ha] at hquotable
  rw [Answer.IsSingle, answer]
  cases hquotable with
  | said hreply hbody =>
    rw [hreply]
    exact .inr ⟨_, hbody, h.encodeReply_eq _ _ _⟩
  | measured hreply =>
    rw [hreply]
    exact .inl rfl

/-- A device says at most one thing in its turn. -/
theorem dispatchTo (h : Answers write P) (hreceived : Received R request)
    (hq : bus.Throughout maxAddress P) (a : Nat) :
    Answer.IsSingle write (bus.dispatchTo request a).2 := by
  have hturn := turn_dispatchTo request a bus
  generalize bus.dispatchTo request a = result at hturn
  cases hturn with
  | absent hd => exact .inl rfl
  | forbidden hd hp => exact h.isSingle_refusal _ _ _ _
  | refused hd hp ha => exact h.isSingle_refusal _ _ _ _
  | stayed hd hp ha hm => exact h.isSingle_answer hreceived (hq.2.2 hd) ha
  | moved hd hp ha hm hr => exact h.isSingle_answer hreceived (hq.2.2 hd) ha
  | stuck hd hp ha hm hr => exact h.isSingle_refusal _ _ _ _

/-- A frame of a stream is answered in one frame, or not at all. -/
theorem dispatch (h : Answers write P) (hframed : Framed frame)
    (hq : bus.Throughout maxAddress P) : Answer.IsSingle write (bus.dispatch frame).2 := by
  rw [Bus.dispatch]
  split
  · exact .inl rfl
  · rename_i request hread
    have hreceived : Received R request := ⟨frame, hframed, hread⟩
    split
    · exact .inl rfl
    · rename_i addresses hresolve
      -- Answers of several devices would be several frames, but there is one device at most.
      rcases resolve_of_ne_all (h.target_ne hreceived) hresolve with rfl | ⟨a, rfl⟩
      · exact .inl rfl
      · have hturn := h.dispatchTo hreceived hq a
        have hreply : (bus.dispatchAll request [a]).2.reply =
            (bus.dispatchTo request a).2.reply := List.append_nil _
        rwa [Answer.IsSingle, hreply]

end Answers

end Bus

end WeatherBus
