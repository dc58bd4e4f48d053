import WeatherBus.Proofs.Bus.Record
import WeatherBus.Proofs.Emulator.Projection

/-! # Emulators with tags

An emulator whose devices have tags takes the same steps as the one without them.

* **`Emulator.forget`** — take the tags away; **`Emulator.forget_perform`** — when this is done does
  not matter;
* **`Emulator.rendered`** — the tags of the devices whose messages the sender sends in a step;
* **`Emulator.inOrder_perform`** — the bus stays in order;
* **`Emulator.ofOrigin?_perform`** — what becomes of a device in a step. -/

namespace WeatherBus

namespace Emulator

/-! ## Tags do not matter -/

section Forget

variable {R C : Type} [Instrument R C]

/-- An emulator without tags. -/
def forget (e : Emulator (Tracked R)) : Emulator R where
  limit := e.limit
  bus := e.bus.forget
  feed := e.feed
  assembler := e.assembler
  receiver := e.receiver
  sender := e.sender
  shutdown := e.shutdown
  written := e.written

/-- An emulator is started with tags or without. -/
theorem forget_start (limit : Nat) (feed : Feed) (bus : Bus R) :
    (start limit feed bus.track).forget = start limit feed bus := by
  rw [forget, start, Bus.forget_track]
  rfl

/-- Tags do not matter for a run. -/
theorem forget_perform (events : List Event) (e : Emulator (Tracked R)) :
    (e.perform events).forget = e.forget.perform events :=
  (perform_project Bus.projection_registers events e).symm

end Forget

/-! ## Devices with tags -/

section Devices

variable {R C : Type} [Instrument R C]

/-- The tags of the devices whose messages the sender sends in a step. -/
def rendered (event : Event) (e : Emulator (Tracked R)) : List Nat :=
  match event, e.sender with
  | .sendDue now _, .sampled sample =>
    (e.observe sample).bus.originsAt ((e.observe sample).bus.due now)
  | _, _ => []

/-- The tags of the devices whose messages the sender sends in several steps. -/
def renderedIn : List Event → Emulator (Tracked R) → List Nat
  | [], _ => []
  | event :: rest, e => e.rendered event ++ renderedIn rest (e.perform [event])

/-- The messages of two parts come one after the other. -/
theorem renderedIn_append (a b : List Event) (e : Emulator (Tracked R)) :
    e.renderedIn (a ++ b) = e.renderedIn a ++ (e.perform a).renderedIn b := by
  induction a generalizing e with
  | nil => rfl
  | cons event rest ih =>
    rw [List.cons_append, renderedIn, renderedIn, ih, List.append_assoc, ← perform_cons]

/-- A sender that has a record to make sends nothing before. -/
theorem rendered_of_pending {record : Nat × List Nat} {e : Emulator (Tracked R)}
    (hp : e.pending = some record) (event : Event) : e.rendered event = [] := by
  unfold rendered
  split
  · rename_i hs
    rw [pending, hs] at hp
    exact absurd hp (by simp [Sender.pending])
  · rfl

/-- As long as a record has to be made, no other messages are sent. -/
theorem renderedIn_of_pending {record : Nat × List Nat} {events : List Event}
    {e : Emulator (Tracked R)} (hp : e.pending = some record) (hn : Event.record ∉ events) :
    e.renderedIn events = [] := by
  induction events generalizing e with
  | nil => rfl
  | cons event rest ih =>
    rw [List.mem_cons, not_or] at hn
    have hone : Event.record ∉ [event] := by simpa using hn.1
    rw [renderedIn, rendered_of_pending hp, ih (pending_perform hp hone) hn.2, List.nil_append]

variable {e : Emulator (Tracked R)} {o : Nat} {d : Device (Tracked R)}

/-- A record reaches a device if the device is at one of its addresses. -/
theorem ofOrigin?_perform_record (h : e.bus.InOrder) {time : Nat} {addresses : List Nat}
    (hp : e.pending = some (time, addresses)) (o : Nat) :
    (e.perform [.record]).bus.ofOrigin? o = (e.bus.ofOrigin? o).map fun d =>
      if d.address ∈ addresses then d.mapSchedule (·.markSent time) else d := by
  rw [perform_singleton, step?_record, hp]
  exact Bus.ofOrigin?_markSent h time addresses o

variable [Conducted R]

/-- The bus of an emulator stays in order. -/
theorem inOrder_perform (h : e.bus.InOrder) (events : List Event) :
    (e.perform events).bus.InOrder := invariant_perform Bus.invariant_inOrder events h

/-- A step without a record leaves each device on the bus, and changes its schedule in mode and
interval only. -/
theorem ofOrigin?_perform (h : e.bus.InOrder) (hd : e.bus.ofOrigin? o = some d) {event : Event}
    (hn : event = .record → e.pending = none) :
    ∃ d', (e.perform [event]).bus.ofOrigin? o = some d' ∧ d.schedule.Follows d'.schedule := by
  have hchange := change_perform event e
  generalize (e.perform [event]).bus = bus, (e.perform [event]).pending = pending at hchange ⊢
  cases hchange with
  | unrelated => exact ⟨d, hd, .refl _⟩
  | dispatched frame => exact Bus.ofOrigin?_dispatch h hd frame
  | answered sample => exact ⟨_, Bus.ofOrigin?_observe h hd sample, .refl _⟩
  | @sent _ _ sample hs =>
    cases sample with
    | none => exact ⟨d, hd, .refl _⟩
    | some sample => exact ⟨_, Bus.ofOrigin?_observe h hd sample, .refl _⟩
  | recorded hp =>
    rw [hn rfl] at hp
    exact absurd hp (by simp)

/-- Several steps without a record. -/
theorem ofOrigin?_perform_of_notMem (h : e.bus.InOrder) (hd : e.bus.ofOrigin? o = some d)
    {events : List Event} (hn : Event.record ∉ events) :
    ∃ d', (e.perform events).bus.ofOrigin? o = some d' ∧ d.schedule.Follows d'.schedule := by
  induction events generalizing e d with
  | nil => exact ⟨d, hd, .refl _⟩
  | cons event rest ih =>
    rw [List.mem_cons, not_or] at hn
    obtain ⟨d', hd', hs⟩ := ofOrigin?_perform h hd fun hrecord => absurd hrecord.symm hn.1
    obtain ⟨d'', hd'', hs'⟩ := ih (inOrder_perform h [event]) hd' hn.2
    exact ⟨d'', hd'', hs.trans hs'⟩

end Devices

end Emulator

end WeatherBus
