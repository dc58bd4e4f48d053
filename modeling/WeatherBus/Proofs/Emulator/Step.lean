import WeatherBus.Emulator.Basic
import WeatherBus.Proofs.Bus.Turn

/-! # Steps of an emulator

What a step does to the bus, and to the record that the sender still has to make, is said once, in
`Emulator.Change`.

* **`Emulator.Step`** — which steps can be taken, and what comes of them;
* **`Emulator.pending`** — the record that has to be made: a time and some addresses;
* **`Emulator.change_perform`** — every step is one of five changes;
* **`Emulator.exists_run_perform`** — what happens to the bus is a run of operations;
* **`Emulator.pending_perform`** — a record stays pending until it is made. -/

namespace WeatherBus

/-- The record that the sender has to make. -/
def Sender.pending : Sender → Option (Nat × List Nat)
  | .recording time addresses => some (time, addresses)
  | _ => none

namespace Emulator

variable {R C : Type} [Instrument R C] {e after : Emulator R} {event : Event}

/-- The record that the sender has to make. -/
def pending (e : Emulator R) : Option (Nat × List Nat) := e.sender.pending

/-- The steps that take in a text. -/
def hears (text : Text) : List Event := (Utf8.encode text).map .receive

/-- Without steps nothing happens. -/
@[simp] theorem perform_nil (e : Emulator R) : e.perform [] = e := rfl

/-- The first step comes before the others. -/
theorem perform_cons (event : Event) (rest : List Event) (e : Emulator R) :
    e.perform (event :: rest) = (e.perform [event]).perform rest := rfl

/-- One step is taken, if it can be. -/
theorem perform_singleton (event : Event) (e : Emulator R) :
    e.perform [event] = (e.step? event).getD e := rfl

/-! ## What the parts of a step leave alone -/

/-- Writing leaves the bus alone. -/
@[simp] theorem bus_write (path : Path) (data : Bytes) (e : Emulator R) :
    (e.write path data).bus = e.bus := by
  rw [write]
  split <;> rfl

/-- It leaves the sender alone. -/
@[simp] theorem sender_write (path : Path) (data : Bytes) (e : Emulator R) :
    (e.write path data).sender = e.sender := by
  rw [write]
  split <;> rfl

/-- A signal leaves the bus alone. -/
@[simp] theorem bus_notify (e : Emulator R) : e.notify.bus = e.bus := by
  rw [notify]
  split <;> rfl

/-- A signal is for a sender that sleeps, and so has no record to make. -/
@[simp] theorem pending_notify (e : Emulator R) : e.notify.pending = e.pending := by
  rw [notify]
  split
  · rename_i hs
    rw [pending, pending, hs]
    rfl
  · rfl

/-- So does the demand to stop. -/
@[simp] theorem bus_requestShutdown (e : Emulator R) : e.requestShutdown.bus = e.bus :=
  bus_notify _

/-- It leaves the record to be made. -/
@[simp] theorem pending_requestShutdown (e : Emulator R) :
    e.requestShutdown.pending = e.pending := pending_notify _

/-- A sample leaves the sender alone. -/
@[simp] theorem sender_observe (sample : Option Sample) (e : Emulator R) :
    (e.observe sample).sender = e.sender := by
  cases sample <;> rfl

/-- A frame is carried out on the bus. -/
theorem bus_carryOut (frame : Bytes) (e : Emulator R) :
    (e.carryOut frame).bus = (e.bus.dispatch frame).1 := by
  simp only [carryOut]
  split <;> split <;> simp

/-- It leaves the record to be made. -/
theorem pending_carryOut (frame : Bytes) (e : Emulator R) :
    (e.carryOut frame).pending = e.pending := by
  have hwrite : ∀ (data : Bytes) (e : Emulator R), (e.write .receiver data).pending = e.pending :=
    fun data e => congrArg Sender.pending (sender_write .receiver data e)
  simp only [carryOut]
  split <;> split
  · rw [pending_notify, hwrite]
    rfl
  · rw [hwrite]
    rfl
  · exact (pending_notify _).trans (hwrite _ _)
  · exact hwrite _ _

/-! ## Which steps can be taken -/

/-- The steps of an emulator, each with the place that its path has to be at. -/
inductive Step (e : Emulator R) : Event → Emulator R → Prop where
  | receive (b : UInt8) (hr : e.receiver = .listening) : Step e (.receive b) (e.receive b)
  | fetchAnswer {addresses : List Nat} (hr : e.receiver = .answering addresses) :
      Step e .fetchAnswer (e.fetchAnswer addresses)
  | sendAnswer (timestamp : Timestamp) {addresses : List Nat} {sample : Option Sample}
      (hr : e.receiver = .sampled addresses sample) :
      Step e (.sendAnswer timestamp) (e.sendAnswer timestamp addresses sample)
  | lose (failure : Failure) (hr : e.receiver = .listening) :
      Step e (.lose failure) (e.lose failure)
  | stopListening (hr : e.receiver = .listening) (hd : e.shutdown = true) :
      Step e .stopListening { e with receiver := .stopped none }
  | check (now : Nat) (hs : e.sender = .checking) : Step e (.check now) (e.check now)
  | wake {wakeAt : Option Nat} {signaled : Bool} (hs : e.sender = .parked wakeAt signaled) :
      Step e .wake { e with sender := .checking }
  | fetchDue (hs : e.sender = .fetching) : Step e .fetchDue e.fetchDue
  | sendDue (now : Nat) (timestamp : Timestamp) {sample : Option Sample}
      (hs : e.sender = .sampled sample) :
      Step e (.sendDue now timestamp) (e.sendDue now timestamp sample)
  | record {time : Nat} {addresses : List Nat} (hs : e.sender = .recording time addresses) :
      Step e .record (e.record time addresses)
  /-- The emulator may be told to stop at any time. -/
  | requestShutdown : Step e .requestShutdown e.requestShutdown

/-- The steps that can be taken are these. -/
theorem step?_eq_some_iff : e.step? event = some after ↔ e.Step event after := by
  constructor
  · intro h
    unfold step? at h
    split at h
    -- The steps of the receiver.
    · rename_i hr
      obtain rfl := Option.some.inj h
      exact .receive _ hr
    · rename_i hr
      obtain rfl := Option.some.inj h
      exact .fetchAnswer hr
    · rename_i hr
      obtain rfl := Option.some.inj h
      exact .sendAnswer _ hr
    · rename_i hr
      obtain rfl := Option.some.inj h
      exact .lose _ hr
    · rename_i hr
      split at h
      · rename_i hd
        obtain rfl := Option.some.inj h
        exact .stopListening hr hd
      · exact absurd h (by simp)
    -- The steps of the sender.
    · rename_i hs
      obtain rfl := Option.some.inj h
      exact .check _ hs
    · rename_i hs
      obtain rfl := Option.some.inj h
      exact .wake hs
    · rename_i hs
      obtain rfl := Option.some.inj h
      exact .fetchDue hs
    · rename_i hs
      obtain rfl := Option.some.inj h
      exact .sendDue _ _ hs
    · rename_i hs
      obtain rfl := Option.some.inj h
      exact .record hs
    · obtain rfl := Option.some.inj h
      exact .requestShutdown
    · exact absurd h (by simp)
  · intro h
    cases h <;> simp [step?, *]

/-! ## Every step -/

/-- What a step may do to the bus, and to the record that has to be made. -/
inductive Change (e : Emulator R) : Event → Bus R → Option (Nat × List Nat) → Prop where
  /-- The step has to do with neither, or it cannot be taken. -/
  | unrelated {event : Event} (h : event = .record → e.pending = none) :
      Change e event e.bus e.pending
  /-- The receiver carries out a frame. -/
  | dispatched {b : UInt8} (frame : Bytes) :
      Change e (.receive b) (e.bus.dispatch frame).1 e.pending
  /-- The receiver takes in a sample for the measurements that were asked for. -/
  | answered {timestamp : Timestamp} (sample : Sample) :
      Change e (.sendAnswer timestamp) (e.bus.observe sample) e.pending
  /-- The sender takes in a sample, if there is one, and sends what is due. -/
  | sent {now : Nat} {timestamp : Timestamp} {sample : Option Sample}
      (hs : e.sender = .sampled sample) :
      Change e (.sendDue now timestamp) (e.observe sample).bus
        (some (now, (e.observe sample).bus.due now))
  /-- The sender makes its record. -/
  | recorded {time : Nat} {addresses : List Nat} (hp : e.pending = some (time, addresses)) :
      Change e .record (e.bus.markSent time addresses) none

/-- A step that leaves the bus and the pending record alone. -/
theorem change_of_eq (hb : after.bus = e.bus) (hp : after.pending = e.pending)
    (hn : event ≠ .record) : e.Change event after.bus after.pending := by
  rw [hb, hp]
  exact .unrelated fun h => absurd h hn

/-- What a byte changes on the bus. -/
theorem change_receive (b : UInt8) (e : Emulator R) :
    e.Change (.receive b) (e.receive b).bus (e.receive b).pending := by
  simp only [receive]
  split
  · rename_i frame hframe
    rw [bus_carryOut, pending_carryOut]
    exact .dispatched frame
  · exact .unrelated (by simp)

/-- A look at the schedules changes nothing on the bus. -/
theorem change_check (now : Nat) (hs : e.sender = .checking) :
    e.Change (.check now) (e.check now).bus (e.check now).pending := by
  have hnone : e.pending = none := by rw [pending, hs]; rfl
  -- The sender stops, sleeps, or goes on to fetch a sample.
  have hsame : (e.check now).bus = e.bus ∧ (e.check now).pending = none := by
    rw [check]
    split
    · exact ⟨rfl, rfl⟩
    · split
      · exact ⟨rfl, rfl⟩
      · split <;> exact ⟨rfl, rfl⟩
  exact change_of_eq hsame.1 (hsame.2.trans hnone.symm) (by simp)

/-- What an answer changes on the bus. -/
theorem change_sendAnswer (timestamp : Timestamp) (addresses : List Nat) (sample : Option Sample)
    (e : Emulator R) : e.Change (.sendAnswer timestamp)
      (e.sendAnswer timestamp addresses sample).bus
      (e.sendAnswer timestamp addresses sample).pending := by
  have hpending : (e.sendAnswer timestamp addresses sample).pending = e.pending := by
    rw [pending, pending, sendAnswer, sender_write]
    exact congrArg Sender.pending (sender_observe sample e)
  rw [sendAnswer, bus_write, ← sendAnswer, hpending]
  cases sample with
  | none => exact .unrelated (by simp)
  | some sample => exact .answered sample

/-- What the sender changes when it sends, and the record that it has to make then. -/
theorem change_sendDue (now : Nat) (timestamp : Timestamp) {sample : Option Sample}
    (hs : e.sender = .sampled sample) : e.Change (.sendDue now timestamp)
      (e.sendDue now timestamp sample).bus (e.sendDue now timestamp sample).pending := by
  rw [pending, sendDue, bus_write, sender_write]
  exact .sent hs

/-- A step that can be taken is one of these changes. -/
theorem change_of_step (h : e.Step event after) : e.Change event after.bus after.pending := by
  cases h with
  | receive b => exact change_receive b e
  | fetchAnswer => exact change_of_eq rfl rfl (by simp)
  | sendAnswer timestamp => exact change_sendAnswer timestamp _ _ e
  | lose =>
    exact change_of_eq (bus_requestShutdown _) (pending_requestShutdown _) (by simp)
  | stopListening => exact change_of_eq rfl rfl (by simp)
  | check now hs => exact change_check now hs
  | wake hs => exact change_of_eq rfl (by rw [pending, pending, hs]; rfl) (by simp)
  | fetchDue hs => exact change_of_eq rfl (by rw [pending, pending, hs]; rfl) (by simp)
  | sendDue now timestamp hs => exact change_sendDue now timestamp hs
  | record hs => exact .recorded (by rw [pending, hs]; rfl)
  | requestShutdown =>
    exact change_of_eq (bus_requestShutdown _) (pending_requestShutdown _) (by simp)

/-- A record that has to be made can be made. -/
theorem step?_record (e : Emulator R) : e.step? .record =
    e.pending.map fun record => e.record record.1 record.2 := by
  cases hs : e.sender <;> simp [step?, pending, Sender.pending, hs]

/-- Every step, taken or left out, is one of these changes. -/
theorem change_perform (event : Event) (e : Emulator R) :
    e.Change event (e.perform [event]).bus (e.perform [event]).pending := by
  rw [perform_singleton]
  cases h : e.step? event with
  | some after => exact change_of_step (step?_eq_some_iff.1 h)
  | none =>
    refine .unrelated fun hrecord => ?_
    rw [hrecord, step?_record, Option.map_eq_none_iff] at h
    exact h

/-! ## Several steps -/

/-- What happens to the bus of an emulator is a run of operations. -/
theorem exists_run_perform (events : List Event) (e : Emulator R) :
    ∃ operations, (e.perform events).bus = e.bus.run operations := by
  induction events generalizing e with
  | nil => exact ⟨[], rfl⟩
  | cons event rest ih =>
    obtain ⟨operations, hrest⟩ := ih (e.perform [event])
    -- A step is at most one operation.
    obtain ⟨first, hfirst⟩ : ∃ first, (e.perform [event]).bus = e.bus.run first := by
      have hchange := change_perform event e
      generalize (e.perform [event]).bus = bus, (e.perform [event]).pending = pending at hchange
      cases hchange with
      | unrelated => exact ⟨[], rfl⟩
      | dispatched frame => exact ⟨[.dispatch frame], rfl⟩
      | answered sample => exact ⟨[.observe sample], rfl⟩
      | @sent _ _ sample hs =>
        cases sample with
        | none => exact ⟨[], rfl⟩
        | some sample => exact ⟨[.observe sample], rfl⟩
      | recorded hp => exact ⟨[.markSent _ _], rfl⟩
    exact ⟨first ++ operations, by rw [perform_cons, hrest, hfirst, Bus.run_append]⟩

/-- What every operation keeps of a bus, an emulator keeps in every run. -/
theorem invariant_perform {Q : Bus R → Prop} (h : Bus.Invariant Q) (events : List Event)
    (hq : Q e.bus) : Q (e.perform events).bus := by
  obtain ⟨operations, hrun⟩ := exists_run_perform events e
  rw [hrun]
  exact h.run operations hq

/-- A record stays pending until it is made. -/
theorem pending_perform {record : Nat × List Nat} {events : List Event}
    (hp : e.pending = some record) (hn : Event.record ∉ events) :
    (e.perform events).pending = some record := by
  induction events generalizing e with
  | nil => exact hp
  | cons event rest ih =>
    rw [List.mem_cons, not_or] at hn
    rw [perform_cons]
    refine ih ?_ hn.2
    have hchange := change_perform event e
    generalize (e.perform [event]).bus = bus, (e.perform [event]).pending = pending at hchange
    cases hchange with
    | unrelated => exact hp
    | dispatched => exact hp
    | answered => exact hp
    | sent hs =>
      -- A sender that has a record to make does not send.
      rw [Emulator.pending, hs] at hp
      exact absurd hp (by simp [Sender.pending])
    | recorded => exact absurd rfl hn.1

end Emulator

end WeatherBus
