import WeatherBus.Proofs.Bus.Record
import WeatherBus.Proofs.Kinds

/-! # Changes of a schedule are announced

A frame that changes the schedule of a device asks for the sender, whatever else comes of it: the
device may refuse the command after a part of it was carried out, and other devices may have their
turns before it or after it.

* **`Bus.KeptSilently`** — what no command changes of a device without asking for the sender;
* **`Bus.KeptSilently.dispatch_perm`** — a frame that does not ask for the sender leaves it on the
  bus as often as before;
* **`Bus.schedules_dispatch_perm`**, **`Bus.ofOrigin?_dispatch_or_wake`** — this goes for the
  schedules, of all devices together and of each one;
* **`Bus.wake_of_schedule_ne`** — in every run, for every frame and kind of instrument. -/

namespace WeatherBus

open scoped List

namespace Bus

section Silence

variable {R C : Type} [Instrument R C] {bus : Bus R} {request : Request C} {d : Device R}

/-! ## Which answers ask for the sender -/

/-- Two answers wake the sender if one of them does. -/
theorem wake_append (a b : Answer) : (a ++ b).wake = (a.wake || b.wake) := rfl

/-- An answer wakes the sender if its outcome does. -/
theorem wake_answer (outcome : Outcome) : (answer request d outcome).wake = outcome.wake := by
  rw [answer]
  cases outcome.reply <;> rfl

/-- A refusal wakes the sender if it is told to. -/
theorem wake_refusal (wake : Bool) (fault : Fault) : (refusal request d wake fault).wake = wake :=
  rfl

/-! ## What is left alone otherwise -/

/-- What no command changes of a device without asking for the sender, and what does not depend on
the address. -/
structure KeptSilently {α : Type} (g : Device R → α) : Prop where
  apply : ∀ (request : Request C) (d : Device R) {outcome : Outcome},
    (Instrument.apply request d).2 = .ok outcome → outcome.wake = false →
      g (Instrument.apply request d).1 = g d
  move : ∀ (d : Device R) (a : Nat), g { d with address := a } = g d

namespace KeptSilently

variable {α : Type} {g : Device R → α}

/-- The turn of a device. -/
theorem dispatchTo_perm (hg : KeptSilently g) {a : Nat}
    (h : (bus.dispatchTo request a).2.wake = false) :
    (bus.dispatchTo request a).1.toList.map g ~ bus.toList.map g := by
  have hturn := turn_dispatchTo request a bus
  generalize bus.dispatchTo request a = result at hturn h
  -- A command that was carried out has left it alone, with the device at its old address.
  have hreplaced : ∀ {d changed : Device R} {outcome : Outcome}, bus.get? a = some d →
      Instrument.apply request d = (changed, .ok outcome) → outcome.wake = false →
        (bus.replace a changed).toList.map g = bus.toList.map g := by
    intro d changed outcome hd ha hw
    refine map_toList_modify fun he => ?_
    obtain rfl := Option.some.inj (hd.symm.trans he)
    have hsame := hg.apply request d (by rw [ha]) hw
    rwa [ha] at hsame
  cases hturn with
  | absent => exact .refl _
  | forbidden => exact .refl _
  | refused => exact absurd h (by rw [wake_refusal]; decide)
  | stayed hd hp ha =>
    rw [wake_answer] at h
    rw [hreplaced hd ha h]
  | moved hd hp ha hm hr =>
    rw [wake_answer] at h
    have hperm := map_reassign_perm g hg.move hr
    rwa [hreplaced hd ha h] at hperm
  | stuck hd hp ha =>
    rw [wake_refusal] at h
    rw [hreplaced hd ha h]

/-- The turns of several devices. If one of them asks for the sender, the frame does. -/
theorem dispatchAll_perm (hg : KeptSilently g) {addresses : List Nat}
    (h : (bus.dispatchAll request addresses).2.wake = false) :
    (bus.dispatchAll request addresses).1.toList.map g ~ bus.toList.map g := by
  induction addresses generalizing bus with
  | nil => exact .refl _
  | cons a rest ih =>
    rw [snd_dispatchAll_cons, wake_append, Bool.or_eq_false_iff] at h
    rw [fst_dispatchAll_cons]
    exact (ih h.2).trans (hg.dispatchTo_perm h.1)

/-- A frame that does not ask for the sender leaves it on the bus as often as before. -/
theorem dispatch_perm (hg : KeptSilently g) {frame : Bytes}
    (h : (bus.dispatch frame).2.wake = false) :
    (bus.dispatch frame).1.toList.map g ~ bus.toList.map g := by
  rcases dispatch_eq_self_or_dispatchAll frame bus with hself | ⟨request, addresses, -, -, hall⟩
  · rw [hself]
  · rw [hall] at h ⊢
    exact hg.dispatchAll_perm h

end KeptSilently

variable [Signaling R]

/-- Without a call for the sender no schedule changes. -/
theorem keptSilently_schedule : KeptSilently (Device.schedule (R := R)) where
  apply request d _ := (Signaling.signals request d).schedule_eq
  move _ _ := rfl

/-- A frame that does not ask for the sender changes no schedule. -/
theorem schedules_dispatch_perm {frame : Bytes} (h : (bus.dispatch frame).2.wake = false) :
    (bus.dispatch frame).1.toList.map Device.schedule ~ bus.toList.map Device.schedule :=
  keptSilently_schedule.dispatch_perm h

end Silence

/-! ## Device by device -/

section Devices

variable {R C : Type} [Instrument R C] {bus : Bus (Tracked R)} {o : Nat} {d : Device (Tracked R)}

/-- With tags, commands ask for the sender likewise. -/
instance [Signaling R] : Signaling (Tracked R) where
  signals request d := ⟨(Signaling.signals request d.forget).schedule_eq⟩

/-- Nor does any change hands. -/
theorem keptSilently_origin_schedule [Signaling R] :
    KeptSilently fun d : Device (Tracked R) => (d.origin, d.schedule) where
  apply request d _ ho hw := by
    rw [origin_apply, (Signaling.signals request d).schedule_eq ho hw]
  move _ _ := rfl

/-- After a frame, each device is on the bus with its schedule as before, or the frame asks for the
sender. -/
theorem ofOrigin?_dispatch_or_wake [Conducted R] [Signaling R] (h : bus.InOrder)
    (hd : bus.ofOrigin? o = some d) (frame : Bytes) :
    ∃ e, (bus.dispatch frame).1.ofOrigin? o = some e ∧
      (e.schedule = d.schedule ∨ (bus.dispatch frame).2.wake = true) := by
  obtain ⟨e, he, -⟩ := ofOrigin?_dispatch h hd frame
  refine ⟨e, he, ?_⟩
  cases hwake : (bus.dispatch frame).2.wake with
  | true => exact .inr rfl
  | false =>
    left
    have hafter : (bus.dispatch frame).1.InOrder := invariant_inOrder.dispatch frame h
    obtain ⟨hmem, ho⟩ := (Bus.ofOrigin?_eq_some_iff hafter.nodup).1 he
    -- The tag was on the bus before with the schedule that is on it now.
    have hbefore := ((keptSilently_origin_schedule.dispatch_perm hwake).mem_iff
      (a := (e.origin, e.schedule))).1 (List.mem_map_of_mem hmem)
    obtain ⟨d', hd', hsame⟩ := List.mem_map.1 hbefore
    obtain ⟨horigin, hschedule⟩ := Prod.mk.inj hsame
    have hfound := (Bus.ofOrigin?_eq_some_iff h.nodup).2 ⟨hd', horigin.trans ho⟩
    obtain rfl := Option.some.inj (hfound.symm.trans hd)
    exact hschedule.symm

end Devices

end Bus

open Cli

/-- In every run of every kind of instrument, a frame that changes mode, interval or last message of
a device asks for the sender. Each device that was there at the start is there before the frame and
behind it, perhaps at another address. -/
theorem Bus.wake_of_schedule_ne (kind : InstrumentKind) (start : Bus kind.Registers)
    (h : kind.Starts start) (operations : List Bus.Operation) (frame : Bytes) :
    let bus := start.track.run operations
    let after := (bus.dispatch frame).1
    bus.forget = start.run operations ∧
      (after.forget, (bus.dispatch frame).2) = (start.run operations).dispatch frame ∧
      ∀ o ∈ start.addresses, ∃ d e, bus.ofOrigin? o = some d ∧ after.ofOrigin? o = some e ∧
        (e.schedule ≠ d.schedule → ((start.run operations).dispatch frame).2.wake = true) := by
  intro bus after
  have hforget : bus.forget = start.run operations := by rw [forget_run, forget_track]
  have hdispatch : (after.forget, (bus.dispatch frame).2) =
      (start.run operations).dispatch frame := by rw [← hforget, forget_dispatch]
  refine ⟨hforget, hdispatch, fun o ho => ?_⟩
  have horder : bus.InOrder := invariant_inOrder.run operations h.wellPlaced.inOrder_track
  -- No tag has been lost.
  have hthere : o ∈ bus.origins := by
    have hperm := (invariant_origins_perm start.track.origins).run operations (.refl _)
    rw [hperm.mem_iff, origins_track]
    exact ho
  obtain ⟨d, hd⟩ : ∃ d, bus.ofOrigin? o = some d := by
    rw [← Option.ne_none_iff_exists', ne_eq, ofOrigin?_eq_none_iff, not_not]
    exact hthere
  obtain ⟨e, he, hkept⟩ := ofOrigin?_dispatch_or_wake horder hd frame
  refine ⟨d, e, hd, he, fun hne => ?_⟩
  rw [← hdispatch]
  exact hkept.resolve_left hne

/-- Two barometers that both refuse a format that does not exist, after they have taken over the
interval from the same frame. -/
theorem Bus.wake_of_schedule_ne_barometers :
    let frame := Utf8.encode "A,99,2".toList
    ∃ start, InstrumentKind.busBarometer.Starts start ∧
      (start.dispatch frame).2.faults.length = 2 ∧
      (start.track.ofOrigin? 2).map Device.schedule =
        some { mode := .stopped, interval := 1000, lastSent := none } ∧
      ((start.track.dispatch frame).1.ofOrigin? 2).map Device.schedule =
        some { mode := .continuous, interval := 2000, lastSent := none } ∧
      (start.dispatch frame).2.wake = true := by
  intro frame
  have hstarts : InstrumentKind.busBarometer.Starts _ := ⟨2, rfl⟩
  obtain ⟨d, e, hd, he, hwake⟩ :=
    (Bus.wake_of_schedule_ne _ _ hstarts [] frame).2.2 2 (by decide)
  refine ⟨_, hstarts, by decide +kernel, ?_⟩
  have hbefore : (Option.some d).map Device.schedule =
      some { mode := .stopped, interval := 1000, lastSent := none } := by
    rw [← hd]
    decide +kernel
  have hafter : (Option.some e).map Device.schedule =
      some { mode := .continuous, interval := 2000, lastSent := none } := by
    rw [← he]
    decide +kernel
  refine ⟨by rw [← hbefore, ← hd]; rfl, by rw [← hafter, ← he]; rfl, hwake fun hsame => ?_⟩
  rw [Option.map_some, hsame, ← Option.map_some (f := Device.schedule), hbefore] at hafter
  exact absurd hafter (by decide)

end WeatherBus
