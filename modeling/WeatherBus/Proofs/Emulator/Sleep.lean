import WeatherBus.Proofs.Emulator.Step
import WeatherBus.Proofs.Signal

/-! # What the sender may sleep through

The sender sleeps with the schedules as they were when it looked at them. Meanwhile the receiver
carries out commands, and the emulator may be told to stop. None of this is slept through: as long
as the sender sleeps and no signal has come, it sleeps exactly until the next message is due.

* **`Schedule.nextDue_eq_of_lt`** — when a message is due does not depend on when one asks, unless
  it is due at once;
* **`Emulator.Attentive`** — a sender that sleeps without a signal misses nothing;
* **`Emulator.attentive_of_step`** — every step keeps it so;
* **`Emulator.nextDue_eq_of_parked`** — in every run of every kind of instrument. -/

namespace WeatherBus

open scoped List

/-! ## When the next message is due -/

/-- A message that is due later, seen from now, is due at that time seen from any other time. -/
theorem Schedule.nextDue_eq_of_lt {s : Schedule} {now : Nat}
    (h : ∀ due, s.nextDue now = some due → now < due) (time : Nat) :
    s.nextDue time = s.nextDue now := by
  by_cases hc : s.mode = .continuous ∧ s.interval ≠ 0
  · cases hl : s.lastSent with
    | some last => rw [nextDue, nextDue, if_pos hc, if_pos hc, hl]
    | none =>
      -- The first message is due at once.
      have hnow : s.nextDue now = some now := by rw [nextDue, if_pos hc, hl]
      exact absurd (h now hnow) (Nat.lt_irrefl now)
  · rw [nextDue, nextDue, if_neg hc, if_neg hc]

namespace Bus

variable {R : Type} {bus other : Bus R} {now due : Nat}

/-- When the next message is due depends on the schedules only, in any order. -/
theorem nextDue_eq_min? (now : Nat) (bus : Bus R) : bus.nextDue now =
    ((bus.toList.map Device.schedule).filterMap (Schedule.nextDue now)).min? := by
  rw [nextDue, List.filterMap_map]
  rfl

/-- The same schedules, in any order, are due at the same time. -/
theorem nextDue_eq_of_perm
    (h : bus.toList.map Device.schedule ~ other.toList.map Device.schedule) (now : Nat) :
    bus.nextDue now = other.nextDue now := by
  have hdue := h.filterMap (Schedule.nextDue now)
  rw [nextDue_eq_min?, nextDue_eq_min?]
  refine Option.ext fun due => ?_
  rw [List.min?_eq_some_iff, List.min?_eq_some_iff, hdue.mem_iff]
  simp only [hdue.mem_iff]

/-- A bus on which nothing is due yet is due at the same time seen from any other time. -/
theorem nextDue_eq_of_lt (h : ∀ due, bus.nextDue now = some due → now < due) (time : Nat) :
    bus.nextDue time = bus.nextDue now := by
  refine congrArg List.min? (List.filterMap_congr fun d hd => ?_)
  refine Schedule.nextDue_eq_of_lt (fun due hdue => ?_) time
  obtain ⟨t, ht, hle⟩ := nextDue_le_of_mem hd hdue
  exact Nat.lt_of_lt_of_le (h t ht) hle

/-- A sample has no influence on the schedules. -/
theorem nextDue_observe {C : Type} [Instrument R C] (sample : Sample) (bus : Bus R) (now : Nat) :
    (bus.observe sample).nextDue now = bus.nextDue now := by
  refine nextDue_eq_of_perm ?_ now
  have hsame : (bus.observe sample).toList.map Device.schedule = bus.toList.map Device.schedule :=
    map_toList_map fun _ => rfl
  rw [hsame]

/-- Nor has a frame that does not ask for the sender. -/
theorem nextDue_dispatch {C : Type} [Instrument R C] [Signaling R] {frame : Bytes}
    (h : (bus.dispatch frame).2.wake = false) (now : Nat) :
    (bus.dispatch frame).1.nextDue now = bus.nextDue now :=
  nextDue_eq_of_perm (schedules_dispatch_perm h) now

end Bus

namespace Emulator

variable {R C : Type} [Instrument R C] {e after : Emulator R} {event : Event}

/-! ## Senders that miss nothing -/

/-- As long as the sender sleeps without a signal, the emulator has not been told to stop, and the
sender sleeps until the next message is due, whenever one asks. -/
def Attentive (e : Emulator R) : Prop :=
  ∀ wakeAt, e.sender = .parked wakeAt false →
    e.shutdown = false ∧ ∀ now, e.bus.nextDue now = wakeAt

/-- A sender that does not sleep, or is going to wake up. -/
theorem attentive_of_awake (h : ∀ wakeAt, e.sender ≠ .parked wakeAt false) : e.Attentive :=
  fun wakeAt hs => absurd hs (h wakeAt)

/-- A step that has nothing to do with the sender and with what it has looked at. -/
theorem Attentive.of_eq (h : e.Attentive) (hs : after.sender = e.sender)
    (hd : after.shutdown = e.shutdown) (hb : ∀ now, after.bus.nextDue now = e.bus.nextDue now) :
    after.Attentive := by
  intro wakeAt hparked
  obtain ⟨hrunning, hdue⟩ := h wakeAt (hs.symm.trans hparked)
  exact ⟨hd.trans hrunning, fun now => (hb now).trans (hdue now)⟩

/-! ## The parts of a step -/

/-- Writing stops no path. -/
@[simp] theorem shutdown_write (path : Path) (data : Bytes) (e : Emulator R) :
    (e.write path data).shutdown = e.shutdown := by
  rw [write]
  split <;> rfl

/-- A sample stops no path. -/
@[simp] theorem shutdown_observe (sample : Option Sample) (e : Emulator R) :
    (e.observe sample).shutdown = e.shutdown := by
  cases sample <;> rfl

/-- No sample changes when the next message is due. -/
theorem nextDue_bus_observe (sample : Option Sample) (e : Emulator R) (now : Nat) :
    (e.observe sample).bus.nextDue now = e.bus.nextDue now := by
  cases sample with
  | none => rfl
  | some sample => exact Bus.nextDue_observe sample e.bus now

/-- Behind a signal the sender does not sleep, or is going to wake up. -/
theorem sender_notify_ne (e : Emulator R) (wakeAt : Option Nat) :
    e.notify.sender ≠ .parked wakeAt false := by
  rw [notify]
  split
  · exact fun h => absurd (Sender.parked.inj h).2 (by decide)
  · rename_i hs
    exact hs wakeAt false

/-- The demand to stop wakes the sender. -/
theorem attentive_requestShutdown (e : Emulator R) : e.requestShutdown.Attentive :=
  attentive_of_awake (sender_notify_ne _)

/-- A frame leaves the schedules alone, or it signals the sender. -/
theorem Attentive.carryOut [Signaling R] (h : e.Attentive) (frame : Bytes) :
    (e.carryOut frame).Attentive := by
  cases hwake : (e.bus.dispatch frame).2.wake with
  | true =>
    -- Behind the signal only the receiver moves on.
    refine attentive_of_awake fun wakeAt => ?_
    simp only [Emulator.carryOut, hwake, if_true]
    split <;> exact sender_notify_ne _ wakeAt
  | false =>
    refine h.of_eq ?_ ?_ fun now => ?_
    · simp only [Emulator.carryOut, hwake, Bool.false_eq_true, if_false]
      split <;> exact sender_write _ _ _
    · simp only [Emulator.carryOut, hwake, Bool.false_eq_true, if_false]
      split <;> exact shutdown_write _ _ _
    · rw [bus_carryOut]
      exact Bus.nextDue_dispatch hwake now

/-- A byte leaves the sender attentive. -/
theorem Attentive.receive [Signaling R] (h : e.Attentive) (b : UInt8) :
    (e.receive b).Attentive := by
  simp only [Emulator.receive]
  have hread : Attentive { e with assembler := (e.assembler.push e.limit b).1 } :=
    h.of_eq rfl rfl fun _ => rfl
  split
  · exact hread.carryOut _
  · exact hread

/-- So does an answer. -/
theorem Attentive.sendAnswer (h : e.Attentive) (timestamp : Timestamp) (addresses : List Nat)
    (sample : Option Sample) : (e.sendAnswer timestamp addresses sample).Attentive := by
  refine h.of_eq ?_ ?_ fun now => ?_
  · rw [Emulator.sendAnswer, sender_write]
    exact sender_observe sample e
  · rw [Emulator.sendAnswer, shutdown_write]
    exact shutdown_observe sample e
  · rw [Emulator.sendAnswer, bus_write]
    exact nextDue_bus_observe sample e now

/-- The sender goes to sleep only if nothing is due yet, and then for as long as that is so. -/
theorem attentive_check (now : Nat) (e : Emulator R) : (e.check now).Attentive := by
  rw [check]
  cases hshutdown : e.shutdown with
  | true => exact attentive_of_awake fun _ => by simp
  | false =>
    rw [if_neg Bool.false_ne_true]
    cases hdue : e.bus.nextDue now with
    | none =>
      intro wakeAt hs
      obtain rfl := (Sender.parked.inj hs).1
      refine ⟨rfl, fun time => (Bus.nextDue_eq_of_lt ?_ time).trans hdue⟩
      simp [hdue]
    | some due =>
      by_cases hle : due ≤ now
      · exact attentive_of_awake fun _ => by simp [hle]
      · simp only [if_neg hle]
        intro wakeAt hs
        obtain rfl := (Sender.parked.inj hs).1
        refine ⟨rfl, fun time => (Bus.nextDue_eq_of_lt ?_ time).trans hdue⟩
        intro due' hdue'
        obtain rfl := Option.some.inj (hdue.symm.trans hdue')
        exact Nat.lt_of_not_le hle

/-! ## Every step -/

/-- Every step of either path keeps the sender attentive. -/
theorem attentive_of_step [Signaling R] (h : e.Attentive) (hstep : e.Step event after) :
    after.Attentive := by
  cases hstep with
  | receive b => exact h.receive b
  | fetchAnswer => exact h.of_eq rfl rfl fun _ => rfl
  | sendAnswer timestamp => exact h.sendAnswer timestamp _ _
  | lose => exact attentive_requestShutdown _
  | stopListening => exact h.of_eq rfl rfl fun _ => rfl
  | check now => exact attentive_check now e
  -- The sender is awake in between.
  | wake => exact attentive_of_awake fun _ => by simp
  | fetchDue => exact attentive_of_awake fun _ => by simp [fetchDue]
  | sendDue => exact attentive_of_awake fun _ => by simp [sendDue]
  | record => exact attentive_of_awake fun _ => by simp [record]
  | requestShutdown => exact attentive_requestShutdown e

/-- At the start the sender is attentive. -/
theorem attentive_start (limit : Nat) (feed : Feed) (bus : Bus R) :
    (start limit feed bus).Attentive :=
  attentive_of_awake fun _ => by simp [start]

/-- It stays so with all steps. -/
theorem attentive_perform [Signaling R] (h : e.Attentive) (events : List Event) :
    (e.perform events).Attentive := by
  induction events generalizing e with
  | nil => exact h
  | cons event rest ih =>
    rw [perform_cons, perform_singleton]
    refine ih ?_
    cases hstep : e.step? event with
    | none => exact h
    | some after => exact attentive_of_step h (step?_eq_some_iff.1 hstep)

end Emulator

open Cli

/-- In every run of every kind of instrument, whatever the receiver carries out meanwhile: as long
as the sender sleeps and no signal has come, the emulator has not been told to stop, and the sender
sleeps exactly until the next message is due, so no device is due earlier. Without a time to wake
up at, no device is ever due. -/
theorem Emulator.nextDue_eq_of_parked (kind : InstrumentKind) (limit : Nat) (feed : Feed)
    (bus : Bus kind.Registers) (events : List Emulator.Event) (wakeAt : Option Nat) :
    let e := (Emulator.start limit feed bus).perform events
    e.sender = .parked wakeAt false →
      e.shutdown = false ∧ (∀ now, e.bus.nextDue now = wakeAt) ∧
      ∀ d ∈ e.bus.toList, ∀ now due, d.schedule.nextDue now = some due →
        ∃ t, wakeAt = some t ∧ t ≤ due := by
  intro e hs
  obtain ⟨hrunning, hdue⟩ := attentive_perform (attentive_start limit feed bus) events wakeAt hs
  refine ⟨hrunning, hdue, fun d hd now due hnext => ?_⟩
  obtain ⟨t, ht, hle⟩ := Bus.nextDue_le_of_mem hd hnext
  exact ⟨t, (hdue now).symm.trans ht, hle⟩

/-- Two barometers of which the first one has sent and the sender sleeps. It sleeps on while the
second one is asked for its measurement and answers. -/
theorem Emulator.nextDue_eq_of_parked_answered :
    let events := hears "01:R\r".toList ++
      [.check 5, .fetchDue, .sendDue 5 {}, .record, .check 6] ++
      hears "02:P\r".toList ++ [.fetchAnswer, .sendAnswer {}]
    ∃ bus, InstrumentKind.busBarometer.Starts bus ∧
      let e := (Emulator.start 100 (.once []) bus).perform events
      e.sender = .parked (some 1005) false ∧ e.written.length = 2 ∧ e.shutdown = false ∧
        ∀ now, e.bus.nextDue now = some 1005 := by
  intro events
  refine ⟨_, ⟨2, rfl⟩, ?_⟩
  intro e
  have hs : e.sender = .parked (some 1005) false := by decide +kernel
  obtain ⟨hrunning, hdue, -⟩ :=
    Emulator.nextDue_eq_of_parked .busBarometer 100 (.once []) _ events _ hs
  exact ⟨hs, by decide +kernel, hrunning, hdue⟩

end WeatherBus
