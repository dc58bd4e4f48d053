import WeatherBus.Proofs.Emulator.Tracking
import WeatherBus.Proofs.Kinds

/-! # What a cycle of the sender records

The sender sends the messages that are due, lets go of the bus, and then records them. In between
the receiver may move devices, but the record goes to the addresses from which the messages were
sent.

* **`Emulator.RecordsSent`** — the devices that are recorded are those whose messages were sent;
* **`Emulator.recordsSent_iff`** — when this is so: the devices at these addresses are still those
  whose messages were sent;
* **`Emulator.recordsSent_of_unmoved`** — it is so when no device has been moved in between;
* **`Emulator.cycle_recordsSent_iff`** — both, for all kinds of instruments and all runs. -/

namespace WeatherBus

namespace Emulator

variable {R C : Type} [Instrument R C] {e : Emulator (Tracked R)} {o now : Nat}
  {timestamp : Timestamp} {sample : Option Sample} {between : List Event}

/-! ## The states of a cycle -/

/-- A device stays in the continuous mode during some steps. -/
def RunsThroughout (events : List Event) (e : Emulator (Tracked R)) (o : Nat) : Prop :=
  ∀ front, front <+: events → (e.perform front).bus.modeOf? o = some .continuous

/-- The record of a cycle is right. `rendered` are the devices whose messages were sent at a time,
`runs` says which devices have not been taken out of the continuous mode since. -/
structure RecordsSent (time : Nat) (rendered : List Nat) (runs : Nat → Prop)
    (before after : Bus (Tracked R)) : Prop where
  /-- Nothing is recorded for another device. -/
  others : ∀ {o}, o ∉ rendered → after.ofOrigin? o = before.ofOrigin? o
  /-- The message of a device that still sends on its own is recorded. -/
  sent : ∀ {o}, o ∈ rendered → runs o →
    ∃ d, after.ofOrigin? o = some d ∧ d.schedule.lastSent = some time

/-- The step in which the sender sends what is due. -/
theorem perform_sendDue (hs : e.sender = .sampled sample) :
    e.perform [.sendDue now timestamp] = e.sendDue now timestamp sample := by
  rw [perform_singleton]
  simp [step?, hs]

/-- What is sent are the messages of the devices that are due. -/
theorem rendered_sendDue (hs : e.sender = .sampled sample) :
    e.rendered (.sendDue now timestamp) = (e.perform [.sendDue now timestamp]).bus.originsAt
      ((e.perform [.sendDue now timestamp]).bus.due now) := by
  rw [perform_sendDue hs, sendDue, bus_write]
  simp only [rendered, hs]

/-- The record that has to be made is for the addresses of the devices that are due. -/
theorem pending_sendDue (hs : e.sender = .sampled sample) :
    (e.perform [.sendDue now timestamp]).pending =
      some (now, (e.perform [.sendDue now timestamp]).bus.due now) := by
  rw [perform_sendDue hs, sendDue, bus_write, pending, sender_write]
  rfl

/-! ## The record -/

section Record

variable [Conducted R]

/-- A device whose message was sent has not got it recorded by other steps. -/
theorem lastSent_ne_of_mem_rendered (h : e.bus.InOrder) (hs : e.sender = .sampled sample)
    (hn : Event.record ∉ between) (ho : o ∈ e.rendered (.sendDue now timestamp)) :
    ∃ d, ((e.perform [.sendDue now timestamp]).perform between).bus.ofOrigin? o = some d ∧
      d.schedule.lastSent ≠ some now := by
  have hsent := inOrder_perform h [.sendDue now timestamp]
  rw [rendered_sendDue hs, hsent.mem_originsAt_iff] at ho
  obtain ⟨d, hd, hdue⟩ := ho
  rw [hsent.mem_due_iff hd] at hdue
  obtain ⟨d', hd', hfollows⟩ := ofOrigin?_perform_of_notMem hsent hd hn
  exact ⟨d', hd', hfollows.lastSent_ne (Schedule.lastSent_ne_of_isDue hdue)⟩

/-- The record of a cycle is right if and only if all devices whose messages were sent, and that
still send on their own, have stayed at the addresses of the record, and no other device has come to
one of them. It does not matter if the same time has been recorded for that one already. -/
theorem recordsSent_iff (h : e.bus.InOrder) (hs : e.sender = .sampled sample)
    (hn : Event.record ∉ between) :
    let sent := e.perform [.sendDue now timestamp]
    let recording := sent.perform between
    let due := sent.bus.due now
    RecordsSent now (e.rendered (.sendDue now timestamp)) (sent.RunsThroughout between)
        recording.bus (recording.perform [.record]).bus ↔
      (∀ o d, o ∉ e.rendered (.sendDue now timestamp) → recording.bus.ofOrigin? o = some d →
        d.address ∈ due → d.schedule.lastSent = some now) ∧
      ∀ o ∈ e.rendered (.sendDue now timestamp), sent.RunsThroughout between o →
        o ∈ recording.bus.originsAt due := by
  intro sent recording due
  have horder : recording.bus.InOrder := inOrder_perform (inOrder_perform h _) between
  have hpending : recording.pending = some (now, due) := pending_perform (pending_sendDue hs) hn
  have hrecord := ofOrigin?_perform_record horder hpending
  constructor
  · intro hright
    refine ⟨fun o d ho hd hmem => ?_, fun o ho hruns => ?_⟩
    · -- The record has changed nothing of the device, so it was there before.
      have hsame := hright.others ho
      rw [hrecord, hd, Option.map_some, if_pos hmem] at hsame
      rw [← Option.some.inj hsame]
      rfl
    · -- The message has not been recorded by another step, so by this one.
      obtain ⟨d, hd, hne⟩ := lastSent_ne_of_mem_rendered h hs hn ho
      obtain ⟨d', hd', hlast⟩ := hright.sent ho hruns
      rw [horder.mem_originsAt_iff]
      refine ⟨d, hd, ?_⟩
      by_contra hmem
      rw [hrecord, hd, Option.map_some, if_neg hmem] at hd'
      rw [← Option.some.inj hd'] at hlast
      exact hne hlast
  · rintro ⟨hothers, hsent⟩
    constructor
    · -- A device that the record reaches nevertheless has the same time on record already.
      intro o ho
      rw [hrecord]
      cases hd : recording.bus.ofOrigin? o with
      | none => rfl
      | some d =>
        rw [Option.map_some]
        split
        · rename_i hmem
          have hlast := hothers o d ho hd hmem
          rw [Device.mapSchedule, Schedule.markSent, ← hlast]
        · rfl
    · intro o ho hruns
      obtain ⟨d, hd, hmem⟩ := horder.mem_originsAt_iff.1 (hsent o ho hruns)
      refine ⟨d.mapSchedule (·.markSent now), ?_, rfl⟩
      rw [hrecord, hd, Option.map_some, if_pos hmem]

/-- The record of a cycle is right if no device has been moved since the messages were sent. -/
theorem recordsSent_of_unmoved (h : e.bus.InOrder) (hs : e.sender = .sampled sample)
    (hn : Event.record ∉ between)
    (hstay : ∀ o, ((e.perform [.sendDue now timestamp]).perform between).bus.addressOf? o =
      (e.perform [.sendDue now timestamp]).bus.addressOf? o) :
    RecordsSent now (e.rendered (.sendDue now timestamp))
      ((e.perform [.sendDue now timestamp]).RunsThroughout between)
      ((e.perform [.sendDue now timestamp]).perform between).bus
      (((e.perform [.sendDue now timestamp]).perform between).perform [.record]).bus := by
  have hsent := inOrder_perform h [.sendDue now timestamp]
  have horder := inOrder_perform hsent between
  -- The devices at the addresses of the record are the same as before.
  have hsame : ∀ o, o ∈ ((e.perform [.sendDue now timestamp]).perform between).bus.originsAt
      ((e.perform [.sendDue now timestamp]).bus.due now) ↔
        o ∈ e.rendered (.sendDue now timestamp) := by
    intro o
    rw [rendered_sendDue hs, horder.mem_originsAt_iff_addressOf?,
      hsent.mem_originsAt_iff_addressOf?, hstay]
  refine (recordsSent_iff h hs hn).2 ⟨fun o d ho hd hmem => ?_, fun o ho _ => (hsame o).2 ho⟩
  exact absurd ((hsame o).1 (horder.mem_originsAt_iff.2 ⟨d, hd, hmem⟩)) ho

end Record

end Emulator

open Cli

/-- For every kind of instrument, every state that an emulator can reach, and all steps between
sending and recording: the record of a cycle is right if and only if all devices whose messages were
sent, and that still send on their own, have stayed at the addresses of the record, and no other
device has come to one of them. So it is right if no device has been moved in between. -/
theorem Emulator.cycle_recordsSent_iff (kind : InstrumentKind) (start : Bus kind.Registers)
    (h : kind.Starts start) (limit : Nat) (feed : Feed) (events between : List Event)
    (hn : Event.record ∉ between) (now : Nat) (timestamp : Timestamp) (sample : Option Sample) :
    let e := (Emulator.start limit feed start.track).perform events
    let sent := e.perform [.sendDue now timestamp]
    let recording := sent.perform between
    let due := sent.bus.due now
    let rendered := e.rendered (.sendDue now timestamp)
    let right := RecordsSent now rendered (sent.RunsThroughout between) recording.bus
      (recording.perform [.record]).bus
    e.forget = (Emulator.start limit feed start).perform events ∧
      (e.sender = .sampled sample →
        (right ↔ (∀ o d, o ∉ rendered → recording.bus.ofOrigin? o = some d →
            d.address ∈ due → d.schedule.lastSent = some now) ∧
          ∀ o ∈ rendered, sent.RunsThroughout between o → o ∈ recording.bus.originsAt due) ∧
        ((∀ o, recording.bus.addressOf? o = sent.bus.addressOf? o) → right)) := by
  intro e sent recording due rendered right
  have horder : e.bus.InOrder := inOrder_perform h.wellPlaced.inOrder_track events
  refine ⟨?_, fun hs => ⟨recordsSent_iff horder hs hn, recordsSent_of_unmoved horder hs hn⟩⟩
  rw [forget_perform, forget_start]

/-- Two barometers of which the first one sends, and the second one starts to before the message is
recorded. Nothing moves, so the record is right. -/
theorem Emulator.cycle_recordsSent_started :
    let events := hears "01:R\r".toList ++ [.check 0, .fetchDue]
    let between := hears "02:R\r".toList
    ∃ start, InstrumentKind.busBarometer.Starts start ∧
      let e := (Emulator.start 100 (.once []) start.track).perform events
      let sent := e.perform [.sendDue 0 {}]
      let recording := sent.perform between
      e.sender = .sampled none ∧ e.rendered (.sendDue 0 {}) = [1] ∧
        RecordsSent 0 (e.rendered (.sendDue 0 {})) (sent.RunsThroughout between) recording.bus
          (recording.perform [.record]).bus := by
  intro events between
  have hstarts : InstrumentKind.busBarometer.Starts _ := ⟨2, rfl⟩
  refine ⟨_, hstarts, ?_⟩
  intro e sent recording
  have hs : e.sender = .sampled none := by decide +kernel
  refine ⟨hs, by decide +kernel, ?_⟩
  have hcycle := Emulator.cycle_recordsSent_iff _ _ hstarts 100 (.once []) events between
    (by decide +kernel) 0 {} none
  refine (hcycle.2 hs).2 fun o => ?_
  have htags : recording.bus.origins = [1, 2] ∧ sent.bus.origins = [1, 2] := by decide +kernel
  by_cases ho : o = 1 ∨ o = 2
  · rcases ho with rfl | rfl <;> decide +kernel
  · -- There is no such device.
    have hbefore : sent.bus.ofOrigin? o = none := by
      rw [Bus.ofOrigin?_eq_none_iff, htags.2]
      simpa using ho
    have hafter : recording.bus.ofOrigin? o = none := by
      rw [Bus.ofOrigin?_eq_none_iff, htags.1]
      simpa using ho
    rw [Bus.addressOf?, Bus.addressOf?, hbefore, hafter]

/-- Two barometers of which the first one sends. Before its message is recorded it moves away, and
the second one takes its address. Then the message is recorded for the second one, which has sent
nothing. -/
theorem Emulator.cycle_records_moved :
    let events := hears "01:R\r".toList ++ [.check 0, .fetchDue]
    let between := hears "01:N,5\r02:N,1\r".toList
    ∃ start, InstrumentKind.busBarometer.Starts start ∧
      let e := (Emulator.start 100 (.once []) start.track).perform events
      let sent := e.perform [.sendDue 0 {}]
      let recording := sent.perform between
      e.sender = .sampled none ∧
        ¬ RecordsSent 0 (e.rendered (.sendDue 0 {})) (sent.RunsThroughout between) recording.bus
          (recording.perform [.record]).bus := by
  intro events between
  refine ⟨_, ⟨2, rfl⟩, ?_⟩
  intro e sent recording
  refine ⟨by decide +kernel, fun hright => ?_⟩
  have hsame := hright.others (o := 2) (by decide +kernel)
  have hlast : ((recording.perform [.record]).bus.ofOrigin? 2).map (·.schedule.lastSent) =
      (recording.bus.ofOrigin? 2).map (·.schedule.lastSent) := by rw [hsame]
  exact absurd hlast (by decide +kernel)

end WeatherBus
