import WeatherBus.Emulator.Basic
import WeatherBus.Proofs.Bus.Projection
import WeatherBus.Proofs.Emulator.Step

/-! # Emulators with other registers

An emulator takes the same steps whatever else is written into the registers of its devices.

* **`Emulator.project`** — the emulator with other registers;
* **`Emulator.perform_project`** — with a projection it does not matter when this is done. -/

namespace WeatherBus

namespace Emulator

variable {A R C : Type} [Instrument A C] [Instrument R C] {f : A → R}

/-- The emulator with other registers. -/
def project (f : A → R) (e : Emulator A) : Emulator R where
  limit := e.limit
  bus := e.bus.project f
  feed := e.feed
  assembler := e.assembler
  receiver := e.receiver
  sender := e.sender
  shutdown := e.shutdown
  written := e.written

/-- An emulator can be started before or after. -/
theorem start_project (hf : Projection f) (limit : Nat) (feed : Feed) (bus : Bus A) :
    start limit feed (bus.project f) = (start limit feed bus).project f := by
  rw [start, start, hf.framing_eq]
  rfl

/-! ## The parts of a step -/

/-- It can write before or after. -/
theorem write_project (path : Path) (data : Bytes) (e : Emulator A) :
    (e.project f).write path data = (e.write path data).project f := by
  rw [write, write]
  split <;> rfl

/-- It can signal before or after. -/
theorem notify_project (e : Emulator A) : (e.project f).notify = e.notify.project f := by
  have hs : (e.project f).sender = e.sender := rfl
  rw [notify, notify, hs]
  split <;> rfl

/-- It can be told to stop before or after. -/
theorem requestShutdown_project (e : Emulator A) :
    (e.project f).requestShutdown = e.requestShutdown.project f :=
  notify_project { e with shutdown := true }

/-- A sample can be taken in before or after. -/
theorem observe_project (hf : Projection f) (sample : Option Sample) (e : Emulator A) :
    (e.project f).observe sample = (e.observe sample).project f := by
  cases sample with
  | none => rfl
  | some sample => simp only [observe, project, Bus.observe_project hf]

/-- A frame can be carried out before or after. -/
theorem carryOut_project (hf : Projection f) (frame : Bytes) (e : Emulator A) :
    (e.project f).carryOut frame = (e.carryOut frame).project f := by
  have hd := Bus.dispatch_project hf frame e.bus
  have hb : (e.project f).bus = e.bus.project f := rfl
  simp only [carryOut, hb, hd]
  -- The reply goes out first; the signal and the place of the receiver do not look at the bus.
  have hw : write .receiver (e.bus.dispatch frame).2.reply
      { e.project f with bus := (e.bus.dispatch frame).1.project f } =
        (write .receiver (e.bus.dispatch frame).2.reply
          { e with bus := (e.bus.dispatch frame).1 }).project f :=
    write_project _ _ { e with bus := (e.bus.dispatch frame).1 }
  rw [hw]
  split
  · split
    · exact notify_project _
    · rfl
  · split
    · rw [notify_project]
      rfl
    · rfl

/-- A byte can be received before or after. -/
theorem receive_project (hf : Projection f) (b : UInt8) (e : Emulator A) :
    (e.project f).receive b = (e.receive b).project f := by
  simp only [receive]
  have ha : (e.project f).assembler = e.assembler := rfl
  have hl : (e.project f).limit = e.limit := rfl
  rw [ha, hl]
  split
  · exact carryOut_project hf _ { e with assembler := (e.assembler.push e.limit b).1 }
  · rfl

/-- An answer can be sent before or after. -/
theorem sendAnswer_project (hf : Projection f) (timestamp : Timestamp) (addresses : List Nat)
    (sample : Option Sample) (e : Emulator A) :
    (e.project f).sendAnswer timestamp addresses sample =
      (e.sendAnswer timestamp addresses sample).project f := by
  have hm := Bus.measurements_project hf timestamp addresses (e.observe sample).bus
  have hb : ((e.observe sample).project f).bus = (e.observe sample).bus.project f := rfl
  rw [sendAnswer, sendAnswer, observe_project hf, ← write_project, hb, hm]
  rfl

/-- What is due can be sent before or after. -/
theorem sendDue_project (hf : Projection f) (now : Nat) (timestamp : Timestamp)
    (sample : Option Sample) (e : Emulator A) :
    (e.project f).sendDue now timestamp sample = (e.sendDue now timestamp sample).project f := by
  have hb : ((e.observe sample).project f).bus = (e.observe sample).bus.project f := rfl
  rw [sendDue, sendDue, observe_project hf, ← write_project, hb, Bus.due_project,
    Bus.measurements_project hf]
  rfl

/-- The schedules can be looked at before or after. -/
theorem check_project (now : Nat) (e : Emulator A) :
    (e.project f).check now = (e.check now).project f := by
  have hs : (e.project f).shutdown = e.shutdown := rfl
  have hb : (e.project f).bus.nextDue now = e.bus.nextDue now := Bus.nextDue_project now e.bus
  rw [check, check, hs, hb]
  split
  · rfl
  · cases e.bus.nextDue now with
    | none => rfl
    | some due =>
      simp only
      split <;> rfl

/-- A record can be made before or after. -/
theorem record_project (time : Nat) (addresses : List Nat) (e : Emulator A) :
    (e.project f).record time addresses = (e.record time addresses).project f := by
  have hm := Bus.markSent_project (f := f) time addresses e.bus
  simp only [record, project, hm]

/-- The line can be lost before or after. -/
theorem lose_project (failure : Failure) (e : Emulator A) :
    (e.project f).lose failure = (e.lose failure).project f :=
  requestShutdown_project { e with receiver := .stopped (some failure) }

/-! ## Every step -/

/-- What is left out of the registers does not matter for a step. -/
theorem step?_project (hf : Projection f) (event : Event) (e : Emulator A) :
    (e.project f).step? event = (e.step? event).map (project f) := by
  have hr : (e.project f).receiver = e.receiver := rfl
  have hs : (e.project f).sender = e.sender := rfl
  rw [step?.eq_def, step?.eq_def, hr, hs]
  -- Which step it is depends on the event and the places of the two paths, and not on the bus.
  split
  · exact congrArg some (receive_project hf _ _)
  · rfl
  · exact congrArg some (sendAnswer_project hf _ _ _ _)
  · exact congrArg some (lose_project _ _)
  · have hd : (e.project f).shutdown = e.shutdown := rfl
    rw [hd]
    split <;> rfl
  · exact congrArg some (check_project _ _)
  · rfl
  · rfl
  · exact congrArg some (sendDue_project hf _ _ _ _)
  · exact congrArg some (record_project _ _ _)
  · exact congrArg some (requestShutdown_project _)
  · rfl

/-- What is left out of the registers does not matter for a run. -/
theorem perform_project (hf : Projection f) (events : List Event) (e : Emulator A) :
    (e.project f).perform events = (e.perform events).project f := by
  induction events generalizing e with
  | nil => rfl
  | cons event rest ih =>
    have hstep : (e.project f).perform [event] = (e.perform [event]).project f := by
      rw [perform_singleton, perform_singleton, step?_project hf]
      cases e.step? event <;> rfl
    rw [perform_cons, hstep, ih, ← perform_cons]

end Emulator

end WeatherBus
