import Mathlib.Data.List.Infix
import WeatherBus.Proofs.Emulator.Recording

/-! # A device that is started again

A device that is put into the continuous mode forgets its last message, so that the next one is due
at once. If the sender has sent a message of the device before, and has not recorded it yet, the
record comes after the restart.

* **`Emulator.Restarts`** — a step puts a device into the continuous mode;
* **`Emulator.Unsent`** — no message is on record for a device until one has been sent;
* **`Emulator.unsent_iff`** — when this is so: no record reaches the address of the device before;
* **`Emulator.unsent_iff_of_stays`** — a device that stays at its address is reached by such a
  record only if it has to be made already;
* **`Emulator.restart_unsent_iff`** — both, for all kinds of instruments and all runs. -/

namespace WeatherBus

namespace Emulator

variable {R C : Type} [Instrument R C] {e : Emulator (Tracked R)} {o a : Nat} {event : Event}
  {later : List Event} {d : Device (Tracked R)}

/-- A step puts a device into the continuous mode that has not been in it before. -/
def Restarts (event : Event) (e : Emulator (Tracked R)) (o : Nat) : Prop :=
  ∃ mode, e.bus.modeOf? o = some mode ∧ mode ≠ .continuous ∧
    (e.perform [event]).bus.modeOf? o = some .continuous

/-- During some steps no message is on record for a device until the sender has sent one. -/
def Unsent (later : List Event) (e : Emulator (Tracked R)) (o : Nat) : Prop :=
  ∀ front, front <+: later → o ∉ e.renderedIn front →
    ∃ d, (e.perform front).bus.ofOrigin? o = some d ∧ d.schedule.lastSent = none

/-- A step that makes no record leaves the pending one, or the sender has just sent. -/
theorem pending_of_perform_singleton {time : Nat} {addresses : List Nat}
    (hp : (e.perform [event]).pending = some (time, addresses)) :
    e.pending = some (time, addresses) ∨
      e.rendered event = (e.perform [event]).bus.originsAt addresses := by
  have hchange := change_perform event e
  rw [hp] at hchange
  generalize hb : (e.perform [event]).bus = bus at hchange ⊢
  generalize hr : some (time, addresses) = record at hchange
  cases hchange with
  | unrelated => exact .inl rfl
  | dispatched => exact .inl rfl
  | answered => exact .inl rfl
  | sent hs =>
    obtain ⟨rfl, rfl⟩ := Prod.mk.inj (Option.some.inj hr)
    right
    simp only [rendered, hs]
  | recorded => exact absurd hr (by simp)

section Devices

variable [Conducted R]

/-- A device that has just been put into the continuous mode has no message on record. -/
theorem lastSent_of_restarts (h : e.bus.InOrder) (hr : e.Restarts event o) :
    ∃ d, (e.perform [event]).bus.ofOrigin? o = some d ∧ d.schedule.mode = .continuous ∧
      d.schedule.lastSent = none := by
  obtain ⟨mode, hbefore, hmode, hafter⟩ := hr
  obtain ⟨d, hd, rfl⟩ := Option.map_eq_some_iff.1 hbefore
  obtain ⟨d', hd', hmode'⟩ := Option.map_eq_some_iff.1 hafter
  -- A record changes no mode, so the step makes none.
  have hn : event = .record → e.pending = none := by
    rintro rfl
    cases hp : e.pending with
    | none => rfl
    | some record =>
      exfalso
      rw [ofOrigin?_perform_record h hp, hd, Option.map_some] at hd'
      rw [← Option.some.inj hd'] at hmode'
      split at hmode' <;> exact hmode hmode'
  obtain ⟨d'', hd'', hfollows⟩ := ofOrigin?_perform h hd hn
  obtain rfl := Option.some.inj (hd'.symm.trans hd'')
  exact ⟨d', hd', hmode', hfollows.forgotten hmode hmode'⟩

/-- No message is on record for a device until one has been sent, if and only if no record is made
before for the address at which the device is then. -/
theorem unsent_iff (h : e.bus.InOrder) (hd : e.bus.ofOrigin? o = some d)
    (hnone : d.schedule.lastSent = none) : e.Unsent later o ↔
      ∀ front time addresses, front ++ [.record] <+: later → o ∉ e.renderedIn front →
        (e.perform front).pending = some (time, addresses) →
          o ∉ (e.perform front).bus.originsAt addresses := by
  constructor
  · intro hunsent front time addresses hprefix ho hp hreached
    have horder := inOrder_perform h front
    obtain ⟨d₁, hd₁, hmem⟩ := horder.mem_originsAt_iff.1 hreached
    have ho' : o ∉ e.renderedIn (front ++ [.record]) := by
      rw [renderedIn_append, List.mem_append, not_or]
      exact ⟨ho, by simp [renderedIn, rendered_of_pending hp]⟩
    obtain ⟨d₂, hd₂, hlast⟩ := hunsent _ hprefix ho'
    rw [perform_append, ofOrigin?_perform_record horder hp, hd₁, Option.map_some,
      if_pos hmem] at hd₂
    rw [← Option.some.inj hd₂] at hlast
    exact absurd hlast (by simp [Device.mapSchedule, Schedule.markSent])
  · intro hmissed front
    induction front using List.reverseRecOn with
    | nil => exact fun _ _ => ⟨d, hd, hnone⟩
    | append_singleton front event ih =>
      intro hprefix ho
      rw [renderedIn_append, List.mem_append, not_or] at ho
      have horder := inOrder_perform h front
      obtain ⟨d₁, hd₁, hlast⟩ := ih ((List.prefix_append _ _).trans hprefix) ho.1
      rw [perform_append]
      -- Only a record could put a message on record.
      by_cases hn : event = .record → (e.perform front).pending = none
      · obtain ⟨d₂, hd₂, hfollows⟩ := ofOrigin?_perform horder hd₁ hn
        exact ⟨d₂, hd₂, hfollows.lastSent_eq_none hlast⟩
      · obtain ⟨rfl, hp⟩ := Classical.not_imp.1 hn
        obtain ⟨⟨time, addresses⟩, hp⟩ := Option.ne_none_iff_exists'.1 hp
        have hnot := hmissed front time addresses hprefix ho.1 hp
        have haddress : d₁.address ∉ addresses := fun hmem =>
          hnot (horder.mem_originsAt_iff.2 ⟨d₁, hd₁, hmem⟩)
        refine ⟨d₁, ?_, hlast⟩
        rw [ofOrigin?_perform_record horder hp, hd₁, Option.map_some, if_neg haddress]

/-- If a device stays at its address and sends nothing, a record for this address is one that had to
be made already. -/
theorem pending_of_perform (h : e.bus.InOrder)
    (hstay : ∀ front, front <+: later → (e.perform front).bus.addressOf? o = some a)
    (ho : o ∉ e.renderedIn later) {time : Nat} {addresses : List Nat}
    (hp : (e.perform later).pending = some (time, addresses)) (ha : a ∈ addresses) :
    e.pending = some (time, addresses) := by
  induction later generalizing e with
  | nil => exact hp
  | cons event rest ih =>
    rw [renderedIn, List.mem_append, not_or] at ho
    have horder := inOrder_perform h [event]
    have hfirst := ih horder (fun front hfront => by
      rw [← perform_cons]
      exact hstay (event :: front) (List.cons_prefix_cons.2 ⟨rfl, hfront⟩)) ho.2 hp
    rcases pending_of_perform_singleton hfirst with hsame | hsent
    · exact hsame
    · -- The sender has just sent from this address, so the message of the device.
      exfalso
      have haddress := hstay [event] (List.cons_prefix_cons.2 ⟨rfl, List.nil_prefix⟩)
      rw [hsent] at ho
      exact ho.1 (horder.mem_originsAt_iff_addressOf?.2 ⟨a, haddress, ha⟩)

/-- For a device that stays at its address, no message is on record until one has been sent, unless
the sender has to make a record for this address already, and makes it. -/
theorem unsent_iff_of_stays (h : e.bus.InOrder) (hd : e.bus.ofOrigin? o = some d)
    (hnone : d.schedule.lastSent = none)
    (hstay : ∀ front, front <+: later → (e.perform front).bus.addressOf? o = some a) :
    e.Unsent later o ↔ ¬ ∃ time addresses, e.pending = some (time, addresses) ∧ a ∈ addresses ∧
      .record ∈ later := by
  rw [unsent_iff h hd hnone]
  constructor
  · rintro hmissed ⟨time, addresses, hp, ha, hrecord⟩
    -- Before the first record is made, the sender sends nothing.
    obtain ⟨front, back, rfl, hfront⟩ := List.eq_append_cons_of_mem hrecord
    have hprefix : front ++ [.record] <+: front ++ .record :: back := ⟨back, by simp⟩
    refine hmissed front time addresses hprefix ?_ (pending_perform hp hfront) ?_
    · rw [renderedIn_of_pending hp hfront]
      exact List.not_mem_nil
    · exact (inOrder_perform h front).mem_originsAt_iff_addressOf?.2
        ⟨a, hstay front (List.prefix_append _ _), ha⟩
  · -- Going back from the record, it has been pending since the restart.
    intro hnone front time addresses hprefix ho hp hreached
    have hfront : front <+: later := (List.prefix_append _ _).trans hprefix
    obtain ⟨a', haddress, ha⟩ :=
      (inOrder_perform h front).mem_originsAt_iff_addressOf?.1 hreached
    rw [hstay front hfront] at haddress
    obtain rfl := Option.some.inj haddress
    refine hnone ⟨time, addresses, ?_, ha, hprefix.subset (by simp)⟩
    exact pending_of_perform h (fun p hp => hstay p (hp.trans hfront)) ho hp ha

end Devices

end Emulator

open Cli

/-- For every kind of instrument, every state that an emulator can reach, and all steps from there
on: a device that is put into the continuous mode has no message on record, so that the next one is
due at once. This stays so until the sender has sent a message of the device, if and only if no
record is made before for the address at which the device is then. If the device stays at its
address, such a record is one that the sender had to make already when the device was started. -/
theorem Emulator.restart_unsent_iff (kind : InstrumentKind) (start : Bus kind.Registers)
    (h : kind.Starts start) (limit : Nat) (feed : Feed) (events later : List Event)
    (event : Event) (o : Nat) :
    let e := (Emulator.start limit feed start.track).perform events
    let restarted := e.perform [event]
    e.forget = (Emulator.start limit feed start).perform events ∧
      (e.Restarts event o →
        (∃ d, restarted.bus.ofOrigin? o = some d ∧ d.schedule.lastSent = none ∧
          (d.schedule.interval ≠ 0 → ∀ now, d.schedule.isDue now = true)) ∧
        (restarted.Unsent later o ↔
          ∀ front time addresses, front ++ [.record] <+: later → o ∉ restarted.renderedIn front →
            (restarted.perform front).pending = some (time, addresses) →
              o ∉ (restarted.perform front).bus.originsAt addresses) ∧
        ∀ a, (∀ front, front <+: later → (restarted.perform front).bus.addressOf? o = some a) →
          (restarted.Unsent later o ↔ ¬ ∃ time addresses,
            restarted.pending = some (time, addresses) ∧ a ∈ addresses ∧ .record ∈ later)) := by
  intro e restarted
  have horder : e.bus.InOrder := inOrder_perform h.wellPlaced.inOrder_track events
  have horder' : restarted.bus.InOrder := inOrder_perform horder [event]
  refine ⟨by rw [forget_perform, forget_start], fun hr => ?_⟩
  obtain ⟨d, hd, hmode, hnone⟩ := lastSent_of_restarts horder hr
  refine ⟨⟨d, hd, hnone, fun hi => ?_⟩, unsent_iff horder' hd hnone, fun a hstay => ?_⟩
  · exact Schedule.isDue_of_lastSent_eq_none hmode hi hnone
  · exact unsent_iff_of_stays horder' hd hnone hstay

/-- A barometer whose message has been recorded before it is stopped and started again. No message
is on record when the sender looks at the schedules next. -/
theorem Emulator.restart_unsent_after_record :
    let events := hears "R\r".toList ++ [.check 0, .fetchDue, .sendDue 0 {}, .record] ++
      hears "S\rR".toList
    ∃ start, InstrumentKind.busBarometer.Starts start ∧
      let e := (Emulator.start 100 (.once []) start.track).perform events
      e.Restarts (.receive 0x0D) 0 ∧
        (e.perform [.receive 0x0D]).Unsent [.check 5, .fetchDue] 0 := by
  intro events
  have hstarts : InstrumentKind.busBarometer.Starts _ := ⟨1, rfl⟩
  refine ⟨_, hstarts, ?_⟩
  intro e
  have hr : e.Restarts (.receive 0x0D) 0 :=
    ⟨.stopped, by decide +kernel, by decide, by decide +kernel⟩
  refine ⟨hr, ?_⟩
  have hrestart := (Emulator.restart_unsent_iff _ _ hstarts 100 (.once []) events
    [.check 5, .fetchDue] (.receive 0x0D) 0).2 hr
  have hpending : (e.perform [.receive 0x0D]).pending = none := by decide +kernel
  refine (hrestart.2.2 0 ?_).2 ?_
  · have hall : ∀ front ∈ [Event.check 5, .fetchDue].inits,
        ((e.perform [.receive 0x0D]).perform front).bus.addressOf? 0 = some 0 := by decide +kernel
    exact fun front hfront => hall front ((List.mem_inits _ _).2 hfront)
  · rintro ⟨time, addresses, hp, -⟩
    exact absurd (hpending.symm.trans hp) (by simp)

/-- A barometer that is stopped and started again between sending and recording. Then the message
from before the restart is on record, and the next one is not due at once. -/
theorem Emulator.restart_recorded_late :
    let events := hears "R\r".toList ++ [.check 0, .fetchDue, .sendDue 0 {}] ++
      hears "S\rR".toList
    ∃ start, InstrumentKind.busBarometer.Starts start ∧
      let e := (Emulator.start 100 (.once []) start.track).perform events
      e.Restarts (.receive 0x0D) 0 ∧ ¬ (e.perform [.receive 0x0D]).Unsent [.record] 0 := by
  intro events
  refine ⟨_, ⟨1, rfl⟩, ?_⟩
  intro e
  refine ⟨⟨.stopped, by decide +kernel, by decide, by decide +kernel⟩, fun hunsent => ?_⟩
  obtain ⟨d, hd, hlast⟩ := hunsent [.record] (List.prefix_refl _) (by decide +kernel)
  have hlate : (((e.perform [.receive 0x0D]).perform [.record]).bus.ofOrigin? 0).map
      (·.schedule.lastSent) = some (some 0) := by decide +kernel
  rw [hd, Option.map_some, hlast] at hlate
  exact absurd hlate (by decide)

end WeatherBus
