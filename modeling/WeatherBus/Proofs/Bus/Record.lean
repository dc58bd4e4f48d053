import WeatherBus.Proofs.Bus.Tracking

/-! # Recording messages

The record that messages were sent goes to addresses, but it is meant for devices. The tags tell
which devices it reaches.

* **`Bus.InOrder`** — a bus with tags that are all different, on which every device is at its own
  address;
* **`Bus.originsAt`** — the tags of the devices at some addresses; **`Bus.addressOf?`**,
  **`Bus.modeOf?`** — address and mode of the device with a tag;
* **`Bus.ofOrigin?_dispatch`**, **`Bus.ofOrigin?_observe`**, **`Bus.ofOrigin?_markSent`** — what
  becomes of the device with a tag. -/

namespace WeatherBus

open scoped List

namespace Schedule

variable {s t : Schedule} {now : Nat}

/-- A device that is due at a time has not sent at this time. -/
theorem lastSent_ne_of_isDue (h : s.isDue now = true) : s.lastSent ≠ some now := by
  intro hlast
  rw [isDue, nextDue] at h
  by_cases hm : s.mode = .continuous ∧ s.interval ≠ 0
  · rw [if_pos hm, hlast] at h
    have hle : now + s.interval ≤ now := by simpa using h
    have hpos := hm.2
    omega
  · rw [if_neg hm] at h
    exact absurd h (by simp)

/-- Changes of interval and mode record nothing. -/
theorem Follows.lastSent_ne (h : s.Follows t) (hs : s.lastSent ≠ some now) :
    t.lastSent ≠ some now := by
  rcases h.kept_or_forgotten with hkept | hnone
  · rwa [hkept]
  · rw [hnone]
    exact (Option.some_ne_none now).symm

/-- What is forgotten stays so under changes of interval and mode. -/
theorem Follows.lastSent_eq_none (h : s.Follows t) (hs : s.lastSent = none) :
    t.lastSent = none := by
  rcases h.kept_or_forgotten with hkept | hnone
  · rw [hkept, hs]
  · exact hnone

end Schedule

namespace Bus

/-! ## What is due -/

section Due

variable {R : Type} {bus : Bus R} {now due : Nat}

/-- No device is due earlier than the bus. -/
theorem nextDue_le_of_mem {d : Device R} (hd : d ∈ bus.toList)
    (h : d.schedule.nextDue now = some due) : ∃ t, bus.nextDue now = some t ∧ t ≤ due := by
  have hmem : due ∈ bus.toList.filterMap fun d => d.schedule.nextDue now :=
    List.mem_filterMap.2 ⟨d, hd, h⟩
  cases ht : bus.nextDue now with
  | none => exact absurd hmem (by rw [List.min?_eq_none_iff.1 ht]; exact List.not_mem_nil)
  | some t => exact ⟨t, rfl, (List.min?_eq_some_iff.1 ht).2 due hmem⟩

end Due

/-! ## Buses in order -/

section InOrder

variable {R : Type} {bus : Bus (Tracked R)} {plain : Bus R} {o : Nat} {d : Device (Tracked R)}
  {addresses : List Nat}

/-- Every device is at its own address, and no two have the same tag. -/
structure InOrder (bus : Bus (Tracked R)) : Prop extends WellPlaced bus where
  nodup : bus.origins.Nodup

/-- Devices with the addresses as tags are in order. -/
theorem WellPlaced.inOrder_track (hp : plain.WellPlaced) : plain.track.InOrder where
  toWellPlaced := hp.track
  nodup := by
    rw [origins_track]
    exact plain.nodup_addresses

/-- The device with a tag is found at its address. -/
theorem InOrder.ofOrigin?_eq_some_iff (h : bus.InOrder) :
    bus.ofOrigin? o = some d ↔ bus.get? d.address = some d ∧ d.origin = o := by
  rw [Bus.ofOrigin?_eq_some_iff h.nodup, h.toWellPlaced.get?_eq_some_iff]
  simp

/-- A tag that is not found is none of the bus. -/
theorem ofOrigin?_eq_none_iff : bus.ofOrigin? o = none ↔ o ∉ bus.origins := by
  simp [ofOrigin?, origins]

/-- The address of the device with a tag. -/
def addressOf? (o : Nat) (bus : Bus (Tracked R)) : Option Nat :=
  (bus.ofOrigin? o).map Device.address

/-- The mode of the device with a tag. -/
def modeOf? (o : Nat) (bus : Bus (Tracked R)) : Option OutputMode :=
  (bus.ofOrigin? o).map fun d => d.schedule.mode

/-- The tags of the devices at some addresses. -/
def originsAt (addresses : List Nat) (bus : Bus (Tracked R)) : List Nat :=
  addresses.filterMap fun a => (bus.get? a).map Device.origin

/-- The tags at some addresses are those of the devices there. -/
theorem InOrder.mem_originsAt_iff (h : bus.InOrder) :
    o ∈ bus.originsAt addresses ↔ ∃ d, bus.ofOrigin? o = some d ∧ d.address ∈ addresses := by
  simp only [originsAt, List.mem_filterMap, Option.map_eq_some_iff]
  constructor
  · rintro ⟨a, ha, d, hd, ho⟩
    obtain rfl := h.address_eq hd
    exact ⟨d, h.ofOrigin?_eq_some_iff.2 ⟨hd, ho⟩, ha⟩
  · rintro ⟨d, hd, ha⟩
    obtain ⟨hd, ho⟩ := h.ofOrigin?_eq_some_iff.1 hd
    exact ⟨d.address, ha, d, hd, ho⟩

/-- They are found by the addresses of their devices, too. -/
theorem InOrder.mem_originsAt_iff_addressOf? (h : bus.InOrder) :
    o ∈ bus.originsAt addresses ↔ ∃ a, bus.addressOf? o = some a ∧ a ∈ addresses := by
  rw [h.mem_originsAt_iff, addressOf?]
  simp only [Option.map_eq_some_iff]
  constructor
  · rintro ⟨d, hd, ha⟩
    exact ⟨d.address, ⟨d, hd, rfl⟩, ha⟩
  · rintro ⟨a, ⟨d, hd, rfl⟩, ha⟩
    exact ⟨d, hd, ha⟩

/-- The devices that are due are those whose schedules say so. -/
theorem InOrder.mem_due_iff {C : Type} [Instrument R C] (h : bus.InOrder) {now : Nat}
    (hd : bus.ofOrigin? o = some d) : d.address ∈ bus.due now ↔ d.schedule.isDue now = true := by
  have hget := (h.ofOrigin?_eq_some_iff.1 hd).1
  rw [due, List.mem_map]
  constructor
  · rintro ⟨e, he, haddress⟩
    obtain ⟨he, hdue⟩ := List.mem_filter.1 he
    have hsame := h.toWellPlaced.get?_eq_some_iff.2 ⟨he, haddress⟩
    rw [hget] at hsame
    rwa [Option.some.inj hsame]
  · intro hdue
    have hmem := (h.toWellPlaced.get?_eq_some_iff.1 hget).1
    exact ⟨d, List.mem_filter.2 ⟨hmem, hdue⟩, rfl⟩

/-- The messages of the devices at some addresses are those of the devices with these tags. -/
theorem InOrder.measurements_eq {C : Type} [Instrument R C] (h : bus.InOrder)
    (timestamp : Timestamp) (addresses : List Nat) : bus.measurements timestamp addresses =
      (bus.originsAt addresses).flatMap fun o =>
        match bus.ofOrigin? o with
        | some d => Instrument.measurement timestamp d
        | none => [] := by
  induction addresses with
  | nil => rfl
  | cons a rest ih =>
    cases hd : bus.get? a with
    | none =>
      have hskip : bus.originsAt (a :: rest) = bus.originsAt rest := by simp [originsAt, hd]
      rw [hskip, ← ih]
      simp [measurements, hd]
    | some d =>
      -- The device at the address is the one with the tag that is found there.
      obtain rfl := h.address_eq hd
      have hfound : bus.ofOrigin? d.origin = some d := h.ofOrigin?_eq_some_iff.2 ⟨hd, rfl⟩
      have hnext : bus.originsAt (d.address :: rest) = d.origin :: bus.originsAt rest := by
        simp [originsAt, hd]
      rw [hnext, List.flatMap_cons, ← ih, hfound]
      simp [measurements, hd]

/-! ## Records -/

/-- A record keeps the order. -/
theorem InOrder.markSent (h : bus.InOrder) (time a : Nat) :
    (bus.modify a (Device.mapSchedule (·.markSent time))).InOrder where
  toWellPlaced := h.toWellPlaced.modify fun _ => rfl
  nodup := by
    have hsame : (bus.modify a (Device.mapSchedule (·.markSent time))).origins = bus.origins :=
      map_toList_modify fun _ => rfl
    rw [hsame]
    exact h.nodup

/-- A record keeps the bus in order. -/
theorem InOrder.markSentAll (h : bus.InOrder) (time : Nat) (addresses : List Nat) :
    (bus.markSent time addresses).InOrder := by
  induction addresses generalizing bus with
  | nil => exact h
  | cons a rest ih => exact ih (h.markSent time a)

/-- A record reaches the devices at its addresses. -/
theorem get?_markSent (time k : Nat) (addresses : List Nat) (bus : Bus R) :
    (bus.markSent time addresses).get? k = (bus.get? k).map fun d =>
      if k ∈ addresses then d.mapSchedule (·.markSent time) else d := by
  induction addresses generalizing bus with
  | nil => simp [markSent]
  | cons a rest ih =>
    rw [markSent, List.foldl_cons, ← markSent, ih, get?_modify]
    by_cases hk : k = a
    · subst hk
      rw [if_pos rfl, Option.map_map]
      congr 1
      funext d
      -- Whether the address comes again does not matter.
      by_cases hrest : k ∈ rest <;> simp [hrest, Device.mapSchedule, Schedule.markSent]
    · rw [if_neg hk]
      simp [hk]

/-- It leaves the tags alone. -/
theorem origins_markSent (time : Nat) (addresses : List Nat) (bus : Bus (Tracked R)) :
    (bus.markSent time addresses).origins = bus.origins :=
  map_toList_markSent (fun _ _ => rfl) time addresses bus

/-- A record reaches a device if the device is at one of its addresses. -/
theorem ofOrigin?_markSent (h : bus.InOrder) (time : Nat) (addresses : List Nat) (o : Nat) :
    (bus.markSent time addresses).ofOrigin? o = (bus.ofOrigin? o).map fun d =>
      if d.address ∈ addresses then d.mapSchedule (·.markSent time) else d := by
  have hafter : (bus.markSent time addresses).InOrder := h.markSentAll time addresses
  cases hd : bus.ofOrigin? o with
  | none =>
    -- A record adds no device.
    rw [ofOrigin?_eq_none_iff] at hd
    rw [Option.map_none, ofOrigin?_eq_none_iff, origins_markSent]
    exact hd
  | some d =>
    obtain ⟨hget, ho⟩ := h.ofOrigin?_eq_some_iff.1 hd
    have hmarked := get?_markSent time d.address addresses bus
    rw [hget, Option.map_some] at hmarked
    rw [Option.map_some]
    by_cases hmem : d.address ∈ addresses
    · rw [if_pos hmem] at hmarked ⊢
      exact hafter.ofOrigin?_eq_some_iff.2 ⟨hmarked, ho⟩
    · rw [if_neg hmem] at hmarked ⊢
      exact hafter.ofOrigin?_eq_some_iff.2 ⟨hmarked, ho⟩

end InOrder

/-! ## Frames and samples -/

section Runs

variable {R C : Type} [Instrument R C] {bus : Bus (Tracked R)} {o : Nat} {d : Device (Tracked R)}

/-- No tag is lost or doubled. -/
theorem invariant_origins_perm (l : List Nat) :
    Invariant fun bus : Bus (Tracked R) => bus.origins ~ l :=
  invariant_map_perm (fun _ _ => rfl) (fun _ _ => rfl) (fun _ _ => rfl) (fun _ _ => rfl) l

variable [Conducted R]

/-- The tags stay different. -/
theorem invariant_inOrder : Invariant (InOrder (R := R)) where
  replace request hd h :=
    ⟨invariant_wellPlaced.replace request hd h.toWellPlaced,
      ((invariant_origins_perm _).replace request hd (.refl _)).nodup_iff.2 h.nodup⟩
  move hr h :=
    ⟨h.toWellPlaced.reassign hr,
      ((invariant_origins_perm _).move hr (.refl _)).nodup_iff.2 h.nodup⟩
  observe sample h :=
    ⟨invariant_wellPlaced.observe sample h.toWellPlaced,
      ((invariant_origins_perm _).observe sample (.refl _)).nodup_iff.2 h.nodup⟩
  markSent time a h := h.markSent time a

/-- A frame leaves each device on the bus, and changes its schedule in mode and interval only. -/
theorem ofOrigin?_dispatch (h : bus.InOrder) (hd : bus.ofOrigin? o = some d) (frame : Bytes) :
    ∃ e, (bus.dispatch frame).1.ofOrigin? o = some e ∧ d.schedule.Follows e.schedule := by
  have hafter : (bus.dispatch frame).1.InOrder := invariant_inOrder.dispatch frame h
  -- Each device comes from one that was there before.
  have hfrom : DeviceDispatchInvariant bus.maxAddress fun e : Device (Tracked R) =>
      ∃ d ∈ bus.toList, d.origin = e.origin ∧ d.schedule.Follows e.schedule :=
    { apply := fun {e} request ⟨d, hmem, ho, hs⟩ =>
        ⟨d, hmem, ho, hs.trans (Conducted.conduct request e).retains.schedule⟩
      move := fun _ hp => hp }
  have hall := hfrom.dispatchInvariant.dispatch frame ⟨h.toWellPlaced, rfl, fun {k e} he =>
    ⟨e, mem_toList_iff.2 ⟨k, he⟩, rfl, .refl _⟩⟩
  obtain ⟨hmem, ho⟩ := (Bus.ofOrigin?_eq_some_iff h.nodup).1 hd
  have hthere : o ∈ (bus.dispatch frame).1.origins := by
    have hperm := (invariant_origins_perm bus.origins).dispatch frame (.refl _)
    rw [hperm.mem_iff, ← ho]
    exact List.mem_map_of_mem hmem
  obtain ⟨e, he, heo⟩ := List.mem_map.1 hthere
  obtain ⟨k, hk⟩ := mem_toList_iff.1 he
  obtain ⟨d', hmem', ho', hs⟩ := hall.2.2 hk
  have hsame : d' = d := List.inj_on_of_nodup_map h.nodup hmem' hmem (by rw [ho', heo, ho])
  exact ⟨e, (Bus.ofOrigin?_eq_some_iff hafter.nodup).2 ⟨he, heo⟩, hsame ▸ hs⟩

/-- A sample changes no schedule. -/
theorem ofOrigin?_observe (h : bus.InOrder) (hd : bus.ofOrigin? o = some d) (sample : Sample) :
    (bus.observe sample).ofOrigin? o = some (d.mapRegisters (Instrument.observe sample)) := by
  have hafter : (bus.observe sample).InOrder := invariant_inOrder.observe sample h
  obtain ⟨hget, ho⟩ := h.ofOrigin?_eq_some_iff.1 hd
  refine hafter.ofOrigin?_eq_some_iff.2 ⟨?_, ho⟩
  have haddress : (d.mapRegisters (Instrument.observe sample)).address = d.address := rfl
  rw [haddress, observe, get?_map, hget, Option.map_some]

end Runs

end Bus

end WeatherBus
