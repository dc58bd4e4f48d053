import WeatherBus.Bus.Exchange
import WeatherBus.Proofs.Bus.Fate
import WeatherBus.Proofs.Instrument.Timing

/-! # Frames, samples and ticks

A bus that is left to itself sends by ticks. Whether a tick sends the message of a device depends on
nothing but its schedule, so it is enough to follow one schedule through frames, samples and ticks.

* **`Bus.Occasion`** — a frame, a sample or a tick; `Bus.undergoAll` is the bus after several;
* **`Bus.tick_cases`** — what a tick does; **`Bus.WellPlaced.due_tick`** — nothing is due after it;
* **`Bus.transmission?`**, **`Bus.transmissions`** — the times at which the message of the device
  with a tag is sent; **`Bus.InOrder.data_tick`** — the bytes of a tick are these messages;
* **`Schedule.Undergoes`** — what an occasion makes of a schedule; `Bus.InOrder.undergoes`. -/

namespace WeatherBus

namespace Bus

/-! ## Occasions -/

/-- What happens on a bus, one after the other. -/
inductive Occasion where
  | dispatch (frame : Bytes)
  | observe (sample : Sample)
  /-- Send what is due at a time. -/
  | tick (timestamp : Timestamp) (now : Nat) (line : Option Text)

section Undergo

variable {R C : Type} [Instrument R C] {bus : Bus R} {timestamp : Timestamp} {now : Nat}
  {line : Option Text}

/-- The bus after an occasion. -/
def undergo (occasion : Occasion) (bus : Bus R) : Bus R :=
  match occasion with
  | .dispatch frame => (bus.dispatch frame).1
  | .observe sample => bus.observe sample
  | .tick timestamp now line => (bus.tick timestamp now line).1

/-- The bus after several occasions. -/
def undergoAll (occasions : List Occasion) (bus : Bus R) : Bus R :=
  occasions.foldl (fun bus occasion => bus.undergo occasion) bus

/-- Without an occasion nothing changes. -/
@[simp] theorem undergoAll_nil (bus : Bus R) : bus.undergoAll [] = bus := rfl

/-- The first occasion comes before the others. -/
@[simp] theorem undergoAll_cons (occasion : Occasion) (rest : List Occasion) (bus : Bus R) :
    bus.undergoAll (occasion :: rest) = (bus.undergo occasion).undergoAll rest := rfl

/-- Some occasions come behind others. -/
theorem undergoAll_append (a b : List Occasion) (bus : Bus R) :
    bus.undergoAll (a ++ b) = (bus.undergoAll a).undergoAll b := List.foldl_append

/-! ## Ticks -/

/-- What is due depends on addresses and schedules only. -/
theorem due_eq (now : Nat) (bus : Bus R) : bus.due now =
    ((bus.toList.map fun d => (d.address, d.schedule)).filter fun entry =>
      entry.2.isDue now).map Prod.fst := by
  rw [due, List.filter_map, List.map_map]
  rfl

/-- A sample makes no device due. -/
theorem due_observe (sample : Sample) (now : Nat) (bus : Bus R) :
    (bus.observe sample).due now = bus.due now := by
  have hsame : (bus.observe sample).toList.map (fun d => (d.address, d.schedule)) =
      bus.toList.map fun d => (d.address, d.schedule) := map_toList_map fun _ => rfl
  rw [due_eq, due_eq, hsame]

/-- A line is a sample, or nothing. -/
theorem refresh_cases (line : Option Text) (bus : Bus R) :
    bus.refresh line = bus ∨ ∃ sample, bus.refresh line = bus.observe sample := by
  unfold refresh
  split
  · unfold observeLine
    split
    · exact .inr ⟨_, rfl⟩
    · exact .inl rfl
  · exact .inl rfl

/-- Neither does a line. -/
theorem due_refresh (line : Option Text) (now : Nat) (bus : Bus R) :
    (bus.refresh line).due now = bus.due now := by
  rcases refresh_cases line bus with hself | ⟨sample, hsample⟩
  · rw [hself]
  · rw [hsample, due_observe]

/-- Unless the bus is due, no device is. -/
theorem due_eq_nil (h : (bus.nextDue now).any (· ≤ now) ≠ true) : bus.due now = [] := by
  rw [List.eq_nil_iff_forall_not_mem]
  intro a ha
  obtain ⟨d, hd, -⟩ := List.mem_map.1 ha
  obtain ⟨hmem, hdue⟩ := List.mem_filter.1 hd
  rw [Schedule.isDue] at hdue
  split at hdue
  · rename_i due hnext
    obtain ⟨t, ht, hle⟩ := nextDue_le_of_mem hmem hnext
    have hnow : due ≤ now := by simpa using hdue
    exact h (by simp [ht, hle.trans hnow])
  · exact absurd hdue Bool.false_ne_true

/-- A tick sends what is due, and it records what it sends. If nothing is due, it leaves the line
alone. -/
theorem tick_cases (timestamp : Timestamp) (now : Nat) (line : Option Text) (bus : Bus R) :
    (bus.tick timestamp now line).2.1 = bus.due now ∧
      ((bus.tick timestamp now line).1 = (bus.refresh line).markSent now (bus.due now) ∨
        (bus.tick timestamp now line).1 = bus ∧ bus.due now = []) := by
  unfold tick
  split
  · simp only [due_refresh]
    exact ⟨trivial, .inl trivial⟩
  · rename_i hnothing
    simp only [due_eq_nil hnothing]
    exact ⟨trivial, .inr ⟨trivial, trivial⟩⟩

/-- A tick sends to the addresses that are due. -/
theorem addresses_tick (timestamp : Timestamp) (now : Nat) (line : Option Text) (bus : Bus R) :
    (bus.tick timestamp now line).2.1 = bus.due now := (tick_cases timestamp now line bus).1

/-- A line keeps the bus in order. -/
theorem WellPlaced.refresh (hp : bus.WellPlaced) (line : Option Text) :
    (bus.refresh line).WellPlaced := by
  rcases refresh_cases line bus with hself | ⟨sample, hsample⟩
  · rwa [hself]
  · rw [hsample]
    exact hp.map fun _ => rfl

/-- Right after a tick nothing is due at its time. -/
theorem WellPlaced.due_tick (hp : bus.WellPlaced) (timestamp : Timestamp) (now : Nat)
    (line : Option Text) : (bus.tick timestamp now line).1.due now = [] := by
  rcases (tick_cases timestamp now line bus).2 with hmarked | ⟨hself, hnothing⟩
  · rw [hmarked, List.eq_nil_iff_forall_not_mem]
    intro a ha
    obtain ⟨e, he, -⟩ := List.mem_map.1 ha
    obtain ⟨hmem, hdue⟩ := List.mem_filter.1 he
    obtain ⟨k, hk⟩ := mem_toList_iff.1 hmem
    rw [get?_markSent] at hk
    obtain ⟨d, hd, rfl⟩ := Option.map_eq_some_iff.1 hk
    by_cases hsent : k ∈ bus.due now
    · -- It has just sent, and its interval is not zero.
      rw [if_pos hsent] at hdue
      exact Schedule.lastSent_ne_of_isDue hdue rfl
    · -- It has not sent, so it was not due before either.
      rw [if_neg hsent] at hdue
      refine hsent ?_
      rw [← due_refresh line now bus]
      exact List.mem_map.2 ⟨d, List.mem_filter.2 ⟨mem_toList_iff.2 ⟨k, hd⟩, hdue⟩,
        (hp.refresh line).address_eq hd⟩
  · rw [hself, hnothing]

/-- The measurements of the devices that are due are their messages, in the order of their
addresses. -/
theorem WellPlaced.measurements_due (hp : bus.WellPlaced) (timestamp : Timestamp) (now : Nat) :
    bus.measurements timestamp (bus.due now) =
      (bus.toList.filter fun d => d.schedule.isDue now).flatMap
        (Instrument.measurement timestamp) := by
  rw [measurements, due, List.flatMap_map]
  refine List.flatMap_congr fun d hd => ?_
  rw [hp.get?_eq_some_iff.2 ⟨List.mem_of_mem_filter hd, rfl⟩]

/-- A tick sends the messages of the devices that are due, with the values of the line. -/
theorem WellPlaced.data_tick (hp : bus.WellPlaced) (timestamp : Timestamp) (now : Nat)
    (line : Option Text) : (bus.tick timestamp now line).2.2 =
      ((bus.refresh line).toList.filter fun d => d.schedule.isDue now).flatMap
        (Instrument.measurement timestamp) := by
  rw [← (hp.refresh line).measurements_due]
  unfold tick
  split
  · rfl
  · next hnothing =>
    rw [due_refresh, due_eq_nil hnothing]
    rfl

/-- Every occasion consists of operations. -/
theorem exists_run_undergo (occasion : Occasion) (bus : Bus R) :
    ∃ operations, bus.undergo occasion = bus.run operations := by
  cases occasion with
  | dispatch frame => exact ⟨[.dispatch frame], rfl⟩
  | observe sample => exact ⟨[.observe sample], rfl⟩
  | tick timestamp now line =>
    rcases (tick_cases timestamp now line bus).2 with hmarked | ⟨hself, -⟩
    · rcases refresh_cases line bus with hrefresh | ⟨sample, hsample⟩
      · refine ⟨[.markSent now (bus.due now)], ?_⟩
        rw [undergo, hmarked, hrefresh]
        rfl
      · refine ⟨[.observe sample, .markSent now (bus.due now)], ?_⟩
        rw [undergo, hmarked, hsample]
        rfl
    · exact ⟨[], hself⟩

/-- What every operation keeps holds after all occasions. -/
theorem Invariant.undergoAll {Q : Bus R → Prop} (h : Invariant Q) (occasions : List Occasion)
    (hq : Q bus) : Q (bus.undergoAll occasions) := by
  induction occasions generalizing bus with
  | nil => exact hq
  | cons occasion rest ih =>
    obtain ⟨operations, hrun⟩ := exists_run_undergo occasion bus
    rw [undergoAll_cons, hrun]
    exact ih (h.run operations hq)

end Undergo

/-! ## The schedule of a device -/

end Bus

namespace Schedule

/-- What an occasion makes of a schedule, with the time at which the message of the device is sent,
if it is. -/
inductive Undergoes (s : Schedule) : Option Nat → Schedule → Prop where
  | adjusted {t : Schedule} (h : s.Adjusts t) : Undergoes s none t
  | sent {now : Nat} (h : s.isDue now = true) : Undergoes s (some now) (s.markSent now)

end Schedule

namespace Bus

section Tracked

variable {R C : Type} [Instrument R C] {bus : Bus (Tracked R)} {o : Nat}
  {d : Device (Tracked R)}

/-- The time at which an occasion sends the message of the device with a tag, if it does. -/
def transmission? (o : Nat) (occasion : Occasion) (bus : Bus (Tracked R)) : Option Nat :=
  match occasion with
  | .tick timestamp now line =>
    if o ∈ bus.originsAt (bus.tick timestamp now line).2.1 then some now else none
  | .dispatch _ => none
  | .observe _ => none

/-- The times at which some occasions send the message of the device with a tag, one after the
other. -/
def transmissions (o : Nat) : List Occasion → Bus (Tracked R) → List Nat
  | [], _ => []
  | occasion :: rest, bus =>
    (bus.transmission? o occasion).toList ++ (bus.undergo occasion).transmissions o rest

/-- The times of two parts come one after the other. -/
theorem transmissions_append (o : Nat) (a b : List Occasion) (bus : Bus (Tracked R)) :
    bus.transmissions o (a ++ b) =
      bus.transmissions o a ++ (bus.undergoAll a).transmissions o b := by
  induction a generalizing bus with
  | nil => rfl
  | cons occasion rest ih =>
    rw [List.cons_append, transmissions, transmissions, ih, undergoAll_cons, List.append_assoc]

/-- The time of the last occasion comes last. -/
theorem transmissions_concat (o : Nat) (occasions : List Occasion) (occasion : Occasion)
    (bus : Bus (Tracked R)) : bus.transmissions o (occasions ++ [occasion]) =
      bus.transmissions o occasions ++
        ((bus.undergoAll occasions).transmission? o occasion).toList := by
  rw [transmissions_append]
  exact congrArg _ (List.append_nil _)

/-- A tick sends the message of the device with a tag if its schedule says so. -/
theorem InOrder.transmission?_tick (h : bus.InOrder) (hd : bus.ofOrigin? o = some d)
    (timestamp : Timestamp) (now : Nat) (line : Option Text) :
    bus.transmission? o (.tick timestamp now line) =
      if d.schedule.isDue now then some now else none := by
  have hmem : o ∈ bus.originsAt (bus.tick timestamp now line).2.1 ↔
      d.schedule.isDue now = true := by
    rw [addresses_tick, h.mem_originsAt_iff, ← h.mem_due_iff hd]
    constructor
    · rintro ⟨e, he, hdue⟩
      rwa [Option.some.inj (hd.symm.trans he)]
    · exact fun hdue => ⟨d, hd, hdue⟩
  rw [transmission?]
  exact if_congr hmem rfl rfl

/-- The bytes of a tick are the messages of the devices with the tags that it sends, in the order of
their addresses, and nothing else. -/
theorem InOrder.data_tick (h : bus.InOrder) (timestamp : Timestamp) (now : Nat)
    (line : Option Text) : (bus.tick timestamp now line).2.2 =
      ((bus.refresh line).toList.filter fun d =>
        (bus.transmission? d.origin (.tick timestamp now line)).isSome).flatMap
          (Instrument.measurement timestamp) := by
  rw [h.toWellPlaced.data_tick]
  refine congrArg (List.flatMap _) (List.filter_congr fun e he => ?_)
  -- The line changes neither the tag nor the schedule of the device.
  obtain ⟨d, hd, hschedule⟩ : ∃ d, bus.ofOrigin? e.origin = some d ∧ e.schedule = d.schedule := by
    obtain ⟨a, ha⟩ := mem_toList_iff.1 he
    rcases refresh_cases line bus with hself | ⟨sample, hsample⟩
    · rw [hself] at ha
      rw [← h.address_eq ha] at ha
      exact ⟨e, h.ofOrigin?_eq_some_iff.2 ⟨ha, rfl⟩, rfl⟩
    · rw [hsample, observe, get?_map] at ha
      obtain ⟨d, hd, rfl⟩ := Option.map_eq_some_iff.1 ha
      rw [← h.address_eq hd] at hd
      exact ⟨d, h.ofOrigin?_eq_some_iff.2 ⟨hd, rfl⟩, rfl⟩
  rw [h.transmission?_tick hd, hschedule]
  cases d.schedule.isDue now with
  | true => rfl
  | false => rfl

variable [Conducted R]

/-- All occasions keep the bus in order. -/
theorem InOrder.undergoAll (h : bus.InOrder) (occasions : List Occasion) :
    (bus.undergoAll occasions).InOrder := invariant_inOrder.undergoAll occasions h

/-- A line leaves address and schedule of the device with a tag alone. -/
theorem InOrder.ofOrigin?_refresh (h : bus.InOrder) (hd : bus.ofOrigin? o = some d)
    (line : Option Text) : (bus.refresh line).InOrder ∧
      ∃ e, (bus.refresh line).ofOrigin? o = some e ∧ e.address = d.address ∧
        e.schedule = d.schedule := by
  rcases refresh_cases line bus with hself | ⟨sample, hsample⟩
  · rw [hself]
    exact ⟨h, d, hd, rfl, rfl⟩
  · rw [hsample]
    exact ⟨invariant_inOrder.observe sample h, _, ofOrigin?_observe h hd sample, rfl, rfl⟩

/-- A tick records the time in the schedule of the device with a tag if the device is due. -/
theorem InOrder.ofOrigin?_tick (h : bus.InOrder) (hd : bus.ofOrigin? o = some d)
    (timestamp : Timestamp) (now : Nat) (line : Option Text) :
    ∃ e, (bus.tick timestamp now line).1.ofOrigin? o = some e ∧
      e.schedule = if d.schedule.isDue now then d.schedule.markSent now else d.schedule := by
  rcases (tick_cases timestamp now line bus).2 with hmarked | ⟨hself, hnothing⟩
  · obtain ⟨hafter, e, he, haddress, hschedule⟩ := h.ofOrigin?_refresh hd line
    have hrecorded := ofOrigin?_markSent hafter now (bus.due now) o
    rw [he, Option.map_some, haddress] at hrecorded
    rw [hmarked]
    refine ⟨_, hrecorded, ?_⟩
    simp only [h.mem_due_iff hd]
    split
    · rw [← hschedule]
      rfl
    · exact hschedule
  · have hnot : d.schedule.isDue now ≠ true := by
      rw [Ne, ← h.mem_due_iff hd, hnothing]
      exact List.not_mem_nil
    rw [hself, if_neg hnot]
    exact ⟨d, hd, rfl⟩

variable [Timed R]

/-- A frame changes the schedule of the device with a tag once at most. -/
theorem InOrder.adjusts_dispatch (h : bus.InOrder) (hd : bus.ofOrigin? o = some d)
    (frame : Bytes) :
    ∃ e, (bus.dispatch frame).1.ofOrigin? o = some e ∧ d.schedule.Adjusts e.schedule := by
  by_cases hout : ∃ request : Request C, bus.CarriesOut o frame request
  · obtain ⟨request, hout⟩ := hout
    obtain ⟨now, e, -, -, he, hafter⟩ := h.carried_of_carriesOut hd hout
    refine ⟨e, hafter, ?_⟩
    have hschedule : e.forget.schedule = (Instrument.apply request d.forget).1.schedule :=
      he.map_eq fun _ _ => rfl
    show d.forget.schedule.Adjusts e.forget.schedule
    rw [hschedule]
    exact Timed.adjusts request d.forget
  · exact ⟨d, h.ofOrigin?_dispatch_of_not hd (not_exists.1 hout), .refl _⟩

/-- What an occasion makes of the schedule of the device with a tag. -/
theorem InOrder.undergoes (h : bus.InOrder) (hd : bus.ofOrigin? o = some d)
    (occasion : Occasion) : ∃ e, (bus.undergo occasion).ofOrigin? o = some e ∧
      d.schedule.Undergoes (bus.transmission? o occasion) e.schedule := by
  cases occasion with
  | dispatch frame =>
    obtain ⟨e, he, hadjusts⟩ := h.adjusts_dispatch hd frame
    exact ⟨e, he, .adjusted hadjusts⟩
  | observe sample => exact ⟨_, ofOrigin?_observe h hd sample, .adjusted (.refl _)⟩
  | tick timestamp now line =>
    obtain ⟨e, he, hschedule⟩ := h.ofOrigin?_tick hd timestamp now line
    refine ⟨e, he, ?_⟩
    rw [h.transmission?_tick hd, hschedule]
    by_cases hdue : d.schedule.isDue now = true
    · rw [if_pos hdue, if_pos hdue]
      exact .sent hdue
    · rw [if_neg hdue, if_neg hdue]
      exact .adjusted (.refl _)

end Tracked

end Bus

end WeatherBus
