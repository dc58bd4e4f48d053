import Mathlib.Logic.Function.Basic
import WeatherBus.Proofs.Emulator.Step

/-! # What a step does with a line of the feed

Both paths fetch lines of the same feed, and all devices take in a line in a later step.

* **`Emulator.held`** — what a path has fetched and not yet taken in;
* **`Emulator.move?`** — what a step does with a line;
* **`Emulator.Flow`** — what this means for the feed, for the paths and for the bus;
  `Emulator.flow_perform` says that it is so for every step. -/

namespace WeatherBus

/-- What a path has fetched off the feed. -/
structure Fetch where
  path : Path
  /-- What the line holds, `none` if it holds no sample, or if there was no line. -/
  sample : Option Sample
deriving DecidableEq, Repr

/-- What the receiver has fetched and not yet taken in. -/
def Receiver.held : Receiver → Option (Option Sample)
  | .sampled _ sample => some sample
  | _ => none

/-- What the sender has fetched and not yet taken in. -/
def Sender.held : Sender → Option (Option Sample)
  | .sampled sample => some sample
  | _ => none

namespace Emulator

variable {R C : Type} [Instrument R C] {e after : Emulator R} {event : Event}

/-! ## Lines of the feed -/

/-- What a step does with a line of the feed. -/
inductive Move where
  /-- A path fetches it. -/
  | fetch (f : Fetch)
  /-- All devices take in the line that a path has fetched. -/
  | take (path : Path)

/-- What a path has fetched and not yet taken in. -/
def held (e : Emulator R) : Path → Option (Option Sample)
  | .receiver => e.receiver.held
  | .sender => e.sender.held

/-- What a step does with a line of the feed, `none` if it has to do with none. -/
def move? (event : Event) (e : Emulator R) : Option Move :=
  match event, e.receiver, e.sender with
  | .fetchAnswer, .answering _, _ => some (.fetch ⟨.receiver, e.fetch.1⟩)
  | .sendAnswer _, .sampled _ _, _ => some (.take .receiver)
  | .fetchDue, _, .fetching => some (.fetch ⟨.sender, e.fetch.1⟩)
  | .sendDue _ _, _, .sampled _ => some (.take .sender)
  | _, _, _ => none

/-- How a step moves lines, with the emulator behind it. -/
inductive Flow (e : Emulator R) : Option Move → Emulator R → Prop where
  /-- A path fetches a line. -/
  | fetched {path : Path} {after : Emulator R} (hheld : e.held path = none)
      (hafter : after.held = Function.update e.held path (some e.fetch.1))
      (hfeed : after.feed = e.feed.next.2) (hbus : after.bus = e.bus) :
      Flow e (some (.fetch ⟨path, e.fetch.1⟩)) after
  /-- The line that a path has fetched is taken in. -/
  | taken {path : Path} {sample : Option Sample} {after : Emulator R}
      (hheld : e.held path = some sample) (hafter : after.held = Function.update e.held path none)
      (hfeed : after.feed = e.feed) (hbus : after.bus = (e.observe sample).bus) :
      Flow e (some (.take path)) after
  /-- No line is moved. -/
  | unmoved {after : Emulator R} (hafter : after.held = e.held) (hfeed : after.feed = e.feed)
      (hbus : after.bus = e.bus ∨ (∃ frame, after.bus = (e.bus.dispatch frame).1) ∨
        ∃ time addresses, after.bus = e.bus.markSent time addresses) : Flow e none after

/-! ## The parts of a step -/

/-- What the paths hold depends on where they stand only. -/
theorem held_eq (hr : after.receiver.held = e.receiver.held)
    (hs : after.sender.held = e.sender.held) : after.held = e.held := by
  funext path
  cases path with
  | receiver => exact hr
  | sender => exact hs

/-- The receiver is somewhere else. -/
theorem held_eq_update_receiver (hs : after.sender = e.sender) :
    after.held = Function.update e.held .receiver after.receiver.held := by
  funext path
  cases path with
  | receiver => rw [Function.update_self]; rfl
  | sender => rw [Function.update_of_ne (by decide)]; exact congrArg Sender.held hs

/-- The sender is somewhere else. -/
theorem held_eq_update_sender (hr : after.receiver = e.receiver) :
    after.held = Function.update e.held .sender after.sender.held := by
  funext path
  cases path with
  | receiver => rw [Function.update_of_ne (by decide)]; exact congrArg Receiver.held hr
  | sender => rw [Function.update_self]; rfl

/-- Writing leaves the feed alone. -/
@[simp] theorem feed_write (path : Path) (data : Bytes) (e : Emulator R) :
    (e.write path data).feed = e.feed := by
  rw [write]
  split <;> rfl

/-- It leaves the receiver alone. -/
@[simp] theorem receiver_write (path : Path) (data : Bytes) (e : Emulator R) :
    (e.write path data).receiver = e.receiver := by
  rw [write]
  split <;> rfl

/-- It leaves alone what the paths hold. -/
@[simp] theorem held_write (path : Path) (data : Bytes) (e : Emulator R) :
    (e.write path data).held = e.held := by
  rw [write]
  split <;> rfl

/-- A signal leaves the feed alone. -/
@[simp] theorem feed_notify (e : Emulator R) : e.notify.feed = e.feed := by
  rw [notify]
  split <;> rfl

/-- A sender that sleeps holds no line. -/
@[simp] theorem held_notify (e : Emulator R) : e.notify.held = e.held := by
  rw [notify]
  split
  · rename_i hs
    exact held_eq rfl (by rw [hs]; rfl)
  · rfl

/-- So does a sample that is taken in. -/
@[simp] theorem feed_observe (sample : Option Sample) (e : Emulator R) :
    (e.observe sample).feed = e.feed := by
  cases sample <;> rfl

/-- Such a sample leaves the receiver alone. -/
@[simp] theorem receiver_observe (sample : Option Sample) (e : Emulator R) :
    (e.observe sample).receiver = e.receiver := by
  cases sample <;> rfl

/-- A frame leaves the feed alone. -/
theorem feed_carryOut (frame : Bytes) (e : Emulator R) : (e.carryOut frame).feed = e.feed := by
  simp only [carryOut]
  split <;> split <;> simp

/-- A receiver that listens holds no line, and neither does one that needs one. -/
theorem held_carryOut (frame : Bytes) (hr : e.receiver = .listening) :
    (e.carryOut frame).held = e.held := by
  have hheld : e.receiver.held = none := by rw [hr]; rfl
  simp only [carryOut]
  split
  · split
    · rw [held_notify, held_write]
      rfl
    · rw [held_write]
      rfl
  · split
    · refine held_eq hheld.symm ?_
      exact congrFun ((held_notify _).trans (held_write _ _ _)) .sender
    · refine held_eq hheld.symm ?_
      exact congrFun (held_write _ _ _) .sender

/-! ## Every step -/

/-- A byte moves no line. -/
theorem flow_receive (b : UInt8) (hr : e.receiver = .listening) : e.Flow none (e.receive b) := by
  simp only [receive]
  split
  · rename_i frame hframe
    refine .unmoved ?_ ?_ (.inr (.inl ⟨frame, bus_carryOut _ _⟩))
    · exact held_carryOut (e := { e with assembler := (e.assembler.push e.limit b).1 }) frame hr
    · exact feed_carryOut _ _
  · exact .unmoved rfl rfl (.inl rfl)

/-- The receiver fetches a line for its answer. -/
theorem flow_fetchAnswer {addresses : List Nat} (hr : e.receiver = .answering addresses) :
    e.Flow (some (.fetch ⟨.receiver, e.fetch.1⟩)) (e.fetchAnswer addresses) :=
  .fetched (congrArg Receiver.held hr) (held_eq_update_receiver rfl) rfl rfl

/-- All devices take it in when the answer is sent. -/
theorem flow_sendAnswer {addresses : List Nat} {sample : Option Sample} (timestamp : Timestamp)
    (hr : e.receiver = .sampled addresses sample) :
    e.Flow (some (.take .receiver)) (e.sendAnswer timestamp addresses sample) := by
  refine .taken (congrArg Receiver.held hr) ?_ ?_ ?_
  · have hs : (e.sendAnswer timestamp addresses sample).sender = e.sender := by
      rw [sendAnswer, sender_write]
      exact sender_observe sample e
    rw [held_eq_update_receiver hs, sendAnswer, receiver_write]
    rfl
  · rw [sendAnswer, feed_write]
    exact feed_observe sample e
  · rw [sendAnswer, bus_write]

/-- The sender fetches a line for what is due. -/
theorem flow_fetchDue (hs : e.sender = .fetching) :
    e.Flow (some (.fetch ⟨.sender, e.fetch.1⟩)) e.fetchDue :=
  .fetched (congrArg Sender.held hs) (held_eq_update_sender rfl) rfl rfl

/-- All devices take it in when that is sent. -/
theorem flow_sendDue {sample : Option Sample} (now : Nat) (timestamp : Timestamp)
    (hs : e.sender = .sampled sample) :
    e.Flow (some (.take .sender)) (e.sendDue now timestamp sample) := by
  refine .taken (congrArg Sender.held hs) ?_ ?_ ?_
  · have hr : (e.sendDue now timestamp sample).receiver = e.receiver := by
      rw [sendDue, receiver_write]
      exact receiver_observe sample e
    rw [held_eq_update_sender hr, sendDue, sender_write]
    rfl
  · rw [sendDue, feed_write]
    exact feed_observe sample e
  · rw [sendDue, bus_write]

/-- A look at the schedules moves no line. -/
theorem flow_check (now : Nat) (hs : e.sender = .checking) : e.Flow none (e.check now) := by
  have hheld : e.sender.held = none := by rw [hs]; rfl
  rw [check]
  split
  · exact .unmoved (held_eq rfl hheld.symm) rfl (.inl rfl)
  · split
    · exact .unmoved (held_eq rfl hheld.symm) rfl (.inl rfl)
    · split <;> exact .unmoved (held_eq rfl hheld.symm) rfl (.inl rfl)

/-- Neither does the demand to stop. -/
theorem flow_requestShutdown (e : Emulator R) : e.Flow none e.requestShutdown :=
  .unmoved (held_notify _) (feed_notify _) (.inl (bus_requestShutdown e))

/-- Nor does the loss of the line. -/
theorem flow_lose (failure : Failure) (hr : e.receiver = .listening) :
    e.Flow none (e.lose failure) := by
  refine .unmoved ((held_notify _).trans (held_eq ?_ rfl)) (feed_notify _)
    (.inl (bus_requestShutdown _))
  rw [hr]
  rfl

/-- A step that can be taken. -/
theorem flow_of_step (h : e.Step event after) : e.Flow (e.move? event) after := by
  cases h with
  | receive b hr => exact flow_receive b hr
  | fetchAnswer hr =>
    rw [move?.eq_def, hr]
    exact flow_fetchAnswer hr
  | sendAnswer timestamp hr =>
    rw [move?.eq_def, hr]
    exact flow_sendAnswer timestamp hr
  | lose failure hr => exact flow_lose failure hr
  | stopListening hr => exact .unmoved (held_eq (by rw [hr]; rfl) rfl) rfl (.inl rfl)
  | check now hs => exact flow_check now hs
  | wake hs => exact .unmoved (held_eq rfl (by rw [hs]; rfl)) rfl (.inl rfl)
  | fetchDue hs =>
    rw [move?.eq_def, hs]
    exact flow_fetchDue hs
  | sendDue now timestamp hs =>
    rw [move?.eq_def, hs]
    exact flow_sendDue now timestamp hs
  | record hs =>
    exact .unmoved (held_eq rfl (by rw [hs]; rfl)) rfl (.inr (.inr ⟨_, _, rfl⟩))
  | requestShutdown => exact flow_requestShutdown e

/-- A step that cannot be taken moves no line. -/
theorem move?_eq_none (h : e.step? event = none) : e.move? event = none := by
  unfold move?
  split
  · rename_i hr
    simp [step?, hr] at h
  · rename_i hr
    simp [step?, hr] at h
  · rename_i hs
    simp [step?, hs] at h
  · rename_i hs
    simp [step?, hs] at h
  · rfl

/-- Every step, taken or left out. -/
theorem flow_perform (event : Event) (e : Emulator R) :
    e.Flow (e.move? event) (e.perform [event]) := by
  rw [perform_singleton]
  cases h : e.step? event with
  | some after => exact flow_of_step (step?_eq_some_iff.1 h)
  | none =>
    rw [move?_eq_none h]
    exact .unmoved rfl rfl (.inl rfl)

end Emulator

end WeatherBus
