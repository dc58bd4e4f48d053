import Mathlib.Data.List.TakeWhile
import WeatherBus.Proofs.Bus.Record
import WeatherBus.Proofs.Refusal

/-! # What a frame does to one device

The devices that a frame is for have their turns one after the other. Until its own turn comes, and
after it, a device is left alone, so all that a frame does to it is done in its turn.

* **`Bus.ahead`** — the bus on which the device at an address has its turn; `Bus.get?_ahead` says
  that the device is as before;
* **`Bus.get?_dispatchAll_of_mem`**, **`Bus.mem_turns_iff`** — the turn of a device among those of
  the others;
* **`Bus.Carried`** — what becomes of a device that carries out a request;
* **`Bus.CarriesOut`** — whether the device with a tag carries out a request of a frame;
* **`Bus.Obeys`**, **`Bus.ObeysIn`** — whether it carries out a command of a sort, with one
  operation or in the course of several;
* **`Bus.Lasting`** — what only commands change; a run without such commands keeps it. -/

namespace WeatherBus

namespace Bus

/-! ## The turn of one device -/

section Turn

variable {R C : Type} [Instrument R C] {request : Request C} {bus : Bus R} {a k : Nat}
  {d : Device R} {ans : Answer} {addresses earlier later : List Nat}

/-- The turns of several devices come one after the other. -/
theorem fst_dispatchAll_append (request : Request C) (earlier later : List Nat) (bus : Bus R) :
    (bus.dispatchAll request (earlier ++ later)).1 =
      ((bus.dispatchAll request earlier).1.dispatchAll request later).1 := by
  induction earlier generalizing bus with
  | nil => rfl
  | cons b rest ih => rw [List.cons_append, fst_dispatchAll_cons, fst_dispatchAll_cons, ih]

/-- So do their contributions. -/
theorem turns_append (request : Request C) (earlier later : List Nat) (bus : Bus R) :
    bus.turns request (earlier ++ later) =
      bus.turns request earlier ++ (bus.dispatchAll request earlier).1.turns request later := by
  induction earlier generalizing bus with
  | nil => rfl
  | cons b rest ih =>
    rw [List.cons_append, turns, turns, fst_dispatchAll_cons, ih, List.cons_append]

/-- The bus on which the device at an address has its turn: those ahead of it have had theirs. -/
def ahead (request : Request C) (address : Nat) (addresses : List Nat) (bus : Bus R) : Bus R :=
  (bus.dispatchAll request (addresses.takeWhile (· ≠ address))).1

/-- Ahead of the turn of a device are the turns of those before it. -/
theorem ahead_append (h : a ∉ earlier) : bus.ahead request a (earlier ++ a :: later) =
    (bus.dispatchAll request earlier).1 := by
  have hall : ∀ b ∈ earlier, (decide (b ≠ a)) = true := fun b hb =>
    decide_eq_true fun hba => h (hba ▸ hb)
  have hfront : (earlier ++ a :: later).takeWhile (· ≠ a) = earlier := by
    rw [List.takeWhile_append_of_pos hall, List.takeWhile_cons_of_neg (by simp), List.append_nil]
  rw [ahead, hfront]

/-- What every frame keeps holds when it is the turn of a device. -/
theorem DispatchInvariant.ahead {Q : Bus R → Prop} (h : DispatchInvariant Q)
    (request : Request C) (a : Nat) (addresses : List Nat) (hq : Q bus) :
    Q (bus.ahead request a addresses) := h.dispatchAll request _ hq

/-- The addresses behind the turn of a device. -/
theorem exists_behind (ha : a ∈ addresses) (hn : addresses.Nodup) : ∃ earlier later,
    addresses = earlier ++ a :: later ∧ a ∉ earlier ∧ a ∉ later ∧ List.Disjoint earlier later := by
  obtain ⟨earlier, later, rfl⟩ := List.append_of_mem ha
  obtain ⟨-, hbehind, hdisjoint⟩ := List.nodup_append'.1 hn
  exact ⟨earlier, later, rfl, fun h => hdisjoint h List.mem_cons_self,
    (List.nodup_cons.1 hbehind).1, (List.disjoint_cons_right.1 hdisjoint).2⟩

/-- Every device for which a frame is has exactly one turn. -/
theorem mem_turns_iff (hn : addresses.Nodup) : (a, ans) ∈ bus.turns request addresses ↔
    a ∈ addresses ∧ ans = ((bus.ahead request a addresses).dispatchTo request a).2 := by
  constructor
  · intro h
    have ha : a ∈ addresses := by
      have hfst := List.mem_map_of_mem (f := Prod.fst) h
      rwa [map_fst_turns] at hfst
    refine ⟨ha, ?_⟩
    obtain ⟨earlier, later, rfl, hearlier, hlater, -⟩ := exists_behind ha hn
    rw [turns_append, List.mem_append, turns, List.mem_cons] at h
    rw [ahead_append hearlier]
    -- Those in front and behind have other addresses.
    have hother : ∀ {l : List Nat} {b : Bus R}, a ∉ l → (a, ans) ∉ b.turns request l := by
      intro l b hl hmem
      have hfst := List.mem_map_of_mem (f := Prod.fst) hmem
      rw [map_fst_turns] at hfst
      exact hl hfst
    rcases h with hfront | hself | hbehind
    · exact absurd hfront (hother hearlier)
    · exact (Prod.mk.inj hself).2
    · exact absurd hbehind (hother hlater)
  · rintro ⟨ha, rfl⟩
    obtain ⟨earlier, later, rfl, hearlier, -⟩ := exists_behind ha hn
    rw [turns_append, ahead_append hearlier, turns]
    exact List.mem_append_right _ List.mem_cons_self

/-- What becomes of a device that carries out a request. -/
inductive Carried (request : Request C) (bus : Bus R) (d : Device R) : Device R → Prop where
  /-- It refuses the request, and may have carried it out in part. -/
  | refused {changed : Device R} {fault : Fault}
      (ha : Instrument.apply request d = (changed, .error fault)) : Carried request bus d changed
  /-- It stays where it is. -/
  | stayed {changed : Device R} {outcome : Outcome}
      (ha : Instrument.apply request d = (changed, .ok outcome)) (hm : outcome.moveTo = none) :
      Carried request bus d changed
  /-- It is moved to a free address. -/
  | moved {changed : Device R} {outcome : Outcome} {new : Nat}
      (ha : Instrument.apply request d = (changed, .ok outcome)) (hm : outcome.moveTo = some new)
      (hfree : new = d.address ∨ bus.get? new = none) :
      Carried request bus d { changed with address := new }
  /-- It cannot be moved, because the address is too large or taken. -/
  | stuck {changed : Device R} {outcome : Outcome} {new : Nat}
      (ha : Instrument.apply request d = (changed, .ok outcome)) (hm : outcome.moveTo = some new)
      (htaken : bus.maxAddress < new ∨ (new ≠ d.address ∧ bus.contains new = true)) :
      Carried request bus d changed

/-- What moves leave alone is as the command has left it. -/
theorem Carried.map_eq {α : Type} {f : Device R → α} {e : Device R} (h : Carried request bus d e)
    (hmove : ∀ (d : Device R) (a : Nat), f { d with address := a } = f d) :
    f e = f (Instrument.apply request d).1 := by
  cases h with
  | refused ha => rw [ha]
  | stayed ha hm => rw [ha]
  | moved ha hm =>
    rw [hmove, ha]
  | stuck ha hm => rw [ha]

/-- A device that refuses a request stays as it is when it does so. -/
theorem Carried.eq_of_error {e changed : Device R} {fault : Fault} (h : Carried request bus d e)
    (ha : Instrument.apply request d = (changed, .error fault)) : e = changed := by
  cases h with
  | refused ha' => exact (Prod.mk.inj (ha'.symm.trans ha)).1
  | stayed ha' => exact absurd (Prod.mk.inj (ha'.symm.trans ha)).2 (by simp)
  | moved ha' => exact absurd (Prod.mk.inj (ha'.symm.trans ha)).2 (by simp)
  | stuck ha' => exact absurd (Prod.mk.inj (ha'.symm.trans ha)).2 (by simp)

/-- A device that may not carry out a request leaves everything as it is. -/
theorem fst_dispatchTo_of_permit {fault : Fault} (hd : bus.get? a = some d)
    (hperm : bus.permit request d = .error fault) : (bus.dispatchTo request a).1 = bus := by
  simp only [dispatchTo, hd, hperm]

variable [Conducted R]

/-- Until its turn comes, a device is left alone. -/
theorem get?_ahead (hp : bus.WellPlaced) (hd : bus.get? a = some d) :
    (bus.ahead request a addresses).get? a = some d :=
  get?_dispatchAll_of_notMem hp (fun h => by simpa using List.mem_takeWhile_imp h) hd

/-- What is found when a device has had its turn stays, if its address has not its turn yet. -/
theorem get?_dispatchAll_of_mem (hp : bus.WellPlaced) (hn : addresses.Nodup) (ha : a ∈ addresses)
    (hthere : ∀ {b}, b ∈ addresses → bus.contains b = true)
    (hd : bus.get? a = some d) {e : Device R}
    (hfree : k = a ∨ (bus.ahead request a addresses).get? k = none)
    (he : ((bus.ahead request a addresses).dispatchTo request a).1.get? k = some e) :
    (bus.dispatchAll request addresses).1.get? k = some e := by
  obtain ⟨earlier, later, rfl, hearlier, hlater, hdisjoint⟩ := exists_behind ha hn
  rw [ahead_append hearlier] at hfree he
  rw [fst_dispatchAll_append, fst_dispatchAll_cons]
  have hahead := invariant_wellPlaced.dispatchAll request earlier hp
  refine get?_dispatchAll_of_notMem (invariant_wellPlaced.dispatchTo request a hahead) ?_ he
  rcases hfree with rfl | hfree
  · exact hlater
  · -- The addresses behind are all taken.
    intro hk
    obtain ⟨e, he⟩ := contains_iff.1 (hthere (List.mem_append_right _ (List.mem_cons_of_mem _ hk)))
    have hkept : (bus.dispatchAll request earlier).1.get? k = some e :=
      get?_dispatchAll_of_notMem hp (fun hfront => hdisjoint hfront hk) he
    rw [hfree] at hkept
    exact absurd hkept (by simp)

/-- In its turn a device that may carry out the request does so. It is found at its own address or
at one that was free. -/
theorem exists_carried (hp : bus.WellPlaced) (hd : bus.get? a = some d)
    (hperm : bus.permit request d = .ok ()) : ∃ e, Carried request bus d e ∧
      (bus.dispatchTo request a).1.get? e.address = some e ∧
      (e.address = a ∨ bus.get? e.address = none) := by
  have hturn := turn_dispatchTo request a bus
  generalize bus.dispatchTo request a = result at hturn
  have haddress : d.address = a := hp.address_eq hd
  have hreplaced (changed : Device R) : (bus.replace a changed).get? a = some changed := by
    rw [get?_replace, if_pos rfl, hd, Option.map_some]
  -- A command leaves the address alone; only the bus moves a device.
  have hkept : ∀ {d' changed : Device R} {outcome : Except Fault Outcome},
      bus.get? a = some d' → Instrument.apply request d' = (changed, outcome) →
        d' = d ∧ changed.address = a := by
    intro d' changed outcome hd' happly
    obtain rfl := Option.some.inj (hd'.symm.trans hd)
    have hretained := (Conducted.conduct request d').retains.address
    rw [happly] at hretained
    exact ⟨rfl, hretained.trans haddress⟩
  cases hturn with
  | absent hd' =>
    rw [hd] at hd'
    exact absurd hd' (by simp)
  | forbidden hd' hp' =>
    obtain rfl := Option.some.inj (hd'.symm.trans hd)
    rw [hperm] at hp'
    exact absurd hp' (by simp)
  | @refused d' changed fault hd' hp' happly =>
    obtain ⟨rfl, hsame⟩ := hkept hd' happly
    exact ⟨changed, .refused happly, by rw [hsame, hreplaced], .inl hsame⟩
  | @stayed d' changed outcome hd' hp' happly hm =>
    obtain ⟨rfl, hsame⟩ := hkept hd' happly
    exact ⟨changed, .stayed happly hm, by rw [hsame, hreplaced], .inl hsame⟩
  | @moved d' changed outcome new after hd' hp' happly hm hr =>
    obtain ⟨rfl, hsame⟩ := hkept hd' happly
    rw [hsame] at hr
    -- The new address is its own one or free, or the device could not have been moved.
    have hfree : new = a ∨ bus.get? new = none := by
      obtain ⟨-, -, -, ⟨heq, -⟩ | ⟨hne, hnone, -⟩⟩ := reassign_eq_ok_iff.1 hr
      · exact .inl heq.symm
      · right
        rwa [get?_replace, if_neg (Ne.symm hne)] at hnone
    refine ⟨{ changed with address := new }, .moved happly hm ?_, ?_, hfree⟩
    · rwa [haddress]
    · rw [get?_reassign hr (hreplaced changed) hsame, if_pos rfl]
  | @stuck d' changed outcome new fault hd' hp' happly hm hr =>
    obtain ⟨rfl, hsame⟩ := hkept hd' happly
    rw [hsame] at hr
    refine ⟨changed, .stuck happly hm ?_, by rw [hsame, hreplaced], .inl hsame⟩
    rw [haddress]
    rcases reassign_eq_error_iff.1 hr with ⟨hlt, -⟩ | ⟨-, hnone, -⟩ | ⟨-, -, hne, htaken, -⟩
    · exact .inl hlt
    · rw [contains, hreplaced] at hnone
      exact absurd hnone (by simp)
    · right
      rw [contains, get?_replace, if_neg (Ne.symm hne)] at htaken
      exact ⟨Ne.symm hne, htaken⟩

end Turn

/-! ## The device with a tag -/

section Tracked

variable {R C : Type} [Instrument R C] {bus : Bus (Tracked R)} {o : Nat}
  {d : Device (Tracked R)} {frame : Bytes} {request : Request C} {addresses : List Nat}

/-- The device with a tag carries out a request of a frame: the frame is for it, and when its turn
comes, it may. -/
def CarriesOut (o : Nat) (frame : Bytes) (request : Request C) (bus : Bus (Tracked R)) : Prop :=
  ∃ addresses d, Instrument.read R frame = .ok request ∧
    bus.resolve request.target = .ok addresses ∧ bus.ofOrigin? o = some d ∧
    d.address ∈ addresses ∧ (bus.ahead request d.address addresses).permit request d = .ok ()

/-- Whether the device with a tag carries out a frame can be computed. -/
theorem carriesOut_of_any (hread : Instrument.read R frame = .ok request)
    (hresolve : bus.resolve request.target = .ok addresses)
    (h : (bus.ofOrigin? o).any (fun d => addresses.contains d.address &&
      ((bus.ahead request d.address addresses).permit request d).isOk) = true) :
    bus.CarriesOut o frame request := by
  obtain ⟨d, hd, hboth⟩ := (Option.any_eq_true _ _).1 h
  rw [Bool.and_eq_true, List.contains_iff_mem] at hboth
  refine ⟨addresses, d, hread, hresolve, hd, hboth.1, ?_⟩
  cases hperm : (bus.ahead request d.address addresses).permit request d with
  | error fault =>
    rw [hperm] at hboth
    exact absurd hboth.2 (by simp [Except.isOk, Except.toBool])
  | ok _ => rfl

/-- With an operation the device with a tag carries out a command of a sort. -/
def Obeys (o : Nat) (P : C → Bool) (operation : Operation) (bus : Bus (Tracked R)) : Prop :=
  ∃ frame request, operation = .dispatch frame ∧ bus.CarriesOut o frame request ∧
    P request.command = true

/-- In the course of some operations the device with a tag carries out a command of a sort. -/
def ObeysIn (o : Nat) (P : C → Bool) : List Operation → Bus (Tracked R) → Prop
  | [], _ => False
  | operation :: rest, bus => bus.Obeys o P operation ∨ (bus.operate operation).ObeysIn o P rest

/-- A device obeys in one part of a run or in the other. -/
theorem obeysIn_append {P : C → Bool} (a b : List Operation) (bus : Bus (Tracked R)) :
    bus.ObeysIn o P (a ++ b) ↔ bus.ObeysIn o P a ∨ (bus.run a).ObeysIn o P b := by
  induction a generalizing bus with
  | nil => simp [ObeysIn]
  | cons operation rest ih =>
    rw [List.cons_append, ObeysIn, ObeysIn, ih, run_cons, or_assoc]

/-- What neither moves nor samples nor records change in a device. -/
structure Lasting {α : Type} (f : Device R → α) : Prop where
  move : ∀ (d : Device R) (a : Nat), f { d with address := a } = f d
  observe : ∀ (sample : Sample) (d : Device R),
    f (d.mapRegisters (Instrument.observe sample)) = f d
  markSent : ∀ (time : Nat) (d : Device R), f (d.mapSchedule (·.markSent time)) = f d

/-- What is carried out with tags is carried out without them. -/
theorem Carried.forget {now : Bus (Tracked R)} {e : Device (Tracked R)}
    (h : Carried request now d e) : Carried request now.forget d.forget e.forget := by
  have happly {changed : Device (Tracked R)} {result : Except Fault Outcome}
      (ha : Instrument.apply request d = (changed, result)) :
      Instrument.apply request d.forget = (changed.forget, result) := by
    rw [apply_tracked] at ha
    obtain ⟨rfl, rfl⟩ := Prod.mk.inj ha
    rfl
  have hget (a : Nat) : now.forget.get? a = (now.get? a).map Device.forget :=
    get?_project Tracked.registers a now
  have hcontains (a : Nat) : now.forget.contains a = now.contains a :=
    contains_project Tracked.registers a now
  cases h with
  | refused ha => exact .refused (happly ha)
  | stayed ha hm => exact .stayed (happly ha) hm
  | moved ha hm hfree =>
    refine .moved (happly ha) hm (hfree.imp_right fun hnone => ?_)
    rw [hget, hnone, Option.map_none]
  | stuck ha hm htaken =>
    refine .stuck (happly ha) hm (htaken.imp_right fun htaken => ?_)
    rwa [hcontains]

/-- A device keeps its tag. -/
theorem Carried.origin_eq {now : Bus (Tracked R)} {e : Device (Tracked R)}
    (h : Carried request now d e) : e.origin = d.origin :=
  h.map_eq fun _ _ => rfl

/-- What holds throughout a bus after a run holds of the device with a tag. -/
theorem Throughout.forget_ofOrigin? {start : Bus R} {operations : List Operation}
    {maxAddress : Nat} {P : Device R → Prop}
    (h : (start.run operations).Throughout maxAddress P)
    (hd : (start.track.run operations).ofOrigin? o = some d)
    (horder : (start.track.run operations).InOrder) : P d.forget := by
  have hget := (horder.ofOrigin?_eq_some_iff.1 hd).1
  have hsame : (start.run operations).get? d.address = some d.forget := by
    rw [← forget_track start, ← forget_run]
    exact (get?_project Tracked.registers _ _).trans (by rw [hget]; rfl)
  exact h.2.2 hsame

/-- At the start, the device with a tag is the one at this address. -/
theorem WellPlaced.ofOrigin?_track {start : Bus R} (hp : start.WellPlaced)
    (ho : o ∈ start.addresses) :
    ∃ d, start.get? o = some d ∧ start.track.ofOrigin? o = some (d.track o) := by
  obtain ⟨d, hd⟩ := mem_addresses_iff.1 ho
  refine ⟨d, hd, hp.inOrder_track.ofOrigin?_eq_some_iff.2 ⟨?_, rfl⟩⟩
  have haddress : (d.track o).address = o := hp.address_eq hd
  rw [haddress, get?_track, hd, Option.map_some]

/-- No run takes a tag away. -/
theorem exists_ofOrigin?_run {start : Bus R} (ho : o ∈ start.addresses)
    (operations : List Operation) : ∃ d, (start.track.run operations).ofOrigin? o = some d := by
  have hthere : o ∈ (start.track.run operations).origins := by
    have hperm := (invariant_origins_perm start.track.origins).run operations (.refl _)
    rwa [hperm.mem_iff, origins_track]
  exact Option.ne_none_iff_exists'.1 (mt ofOrigin?_eq_none_iff.1 (not_not.2 hthere))

variable [Conducted R]

/-! ## Its turn -/

/-- The device with a tag is left alone by a request that is not for it. -/
theorem InOrder.ofOrigin?_dispatchAll_of_notMem (h : bus.InOrder) (hd : bus.ofOrigin? o = some d)
    (ha : d.address ∉ addresses) :
    (bus.dispatchAll request addresses).1.ofOrigin? o = some d := by
  obtain ⟨hget, ho⟩ := h.ofOrigin?_eq_some_iff.1 hd
  have hafter : (bus.dispatchAll request addresses).1.InOrder :=
    invariant_inOrder.dispatchAll request addresses h
  exact hafter.ofOrigin?_eq_some_iff.2 ⟨get?_dispatchAll_of_notMem h.toWellPlaced ha hget, ho⟩

/-- The device with a tag is left alone by a request that it may not carry out when its turn
comes. -/
theorem InOrder.ofOrigin?_dispatchAll_of_error (h : bus.InOrder) (hd : bus.ofOrigin? o = some d)
    (hresolve : bus.resolve request.target = .ok addresses) (ha : d.address ∈ addresses)
    {fault : Fault}
    (hperm : (bus.ahead request d.address addresses).permit request d = .error fault) :
    (bus.dispatchAll request addresses).1.ofOrigin? o = some d := by
  obtain ⟨hget, ho⟩ := h.ofOrigin?_eq_some_iff.1 hd
  have hafter : (bus.dispatchAll request addresses).1.InOrder :=
    invariant_inOrder.dispatchAll request addresses h
  have hnow : (bus.ahead request d.address addresses).get? d.address = some d :=
    get?_ahead h.toWellPlaced hget
  refine hafter.ofOrigin?_eq_some_iff.2 ⟨?_, ho⟩
  refine get?_dispatchAll_of_mem h.toWellPlaced (nodup_of_resolve hresolve) ha
    (contains_of_resolve hresolve) hget (.inl rfl) ?_
  rw [fst_dispatchTo_of_permit hnow hperm, hnow]

/-- What becomes of the device with a tag when it carries out a request in its turn. -/
theorem InOrder.exists_carried (h : bus.InOrder) (hd : bus.ofOrigin? o = some d)
    (hresolve : bus.resolve request.target = .ok addresses) (ha : d.address ∈ addresses)
    (hperm : (bus.ahead request d.address addresses).permit request d = .ok ()) :
    ∃ e, Carried request (bus.ahead request d.address addresses) d e ∧
      (bus.dispatchAll request addresses).1.ofOrigin? o = some e := by
  obtain ⟨hget, ho⟩ := h.ofOrigin?_eq_some_iff.1 hd
  have hafter : (bus.dispatchAll request addresses).1.InOrder :=
    invariant_inOrder.dispatchAll request addresses h
  have hahead : (bus.ahead request d.address addresses).WellPlaced :=
    invariant_wellPlaced.toDispatchInvariant.ahead request _ _ h.toWellPlaced
  obtain ⟨e, he, hthere, hfree⟩ :=
    Bus.exists_carried hahead (get?_ahead h.toWellPlaced hget) hperm
  refine ⟨e, he, hafter.ofOrigin?_eq_some_iff.2 ⟨?_, he.origin_eq.trans ho⟩⟩
  exact get?_dispatchAll_of_mem h.toWellPlaced (nodup_of_resolve hresolve) ha
    (contains_of_resolve hresolve) hget hfree hthere

/-! ## Frames that it carries out -/

/-- What becomes of the device with a tag when it carries out a frame, on the bus `now` on which it
has its turn. The tags themselves do not matter. -/
theorem InOrder.carried_of_carriesOut (h : bus.InOrder) (hd : bus.ofOrigin? o = some d)
    (hout : bus.CarriesOut o frame request) : ∃ (now : Bus R) (e : Device (Tracked R)),
      now.maxAddress = bus.maxAddress ∧ now.permit request d.forget = .ok () ∧
      Carried request now d.forget e.forget ∧ (bus.dispatch frame).1.ofOrigin? o = some e := by
  obtain ⟨addresses, d', hread, hresolve, hd', ha, hperm⟩ := hout
  obtain rfl := Option.some.inj (hd.symm.trans hd')
  obtain ⟨e, he, hafter⟩ := h.exists_carried hd hresolve ha hperm
  have hall : (bus.dispatch frame).1 = (bus.dispatchAll request addresses).1 := by
    simp only [dispatch, Instrument.read, hread, hresolve]
  have hmax : (bus.ahead request d.address addresses).maxAddress = bus.maxAddress :=
    (invariant_maxAddress bus.maxAddress).toDispatchInvariant.ahead request _ _ rfl
  refine ⟨(bus.ahead request d.address addresses).forget, e, hmax, ?_, he.forget, ?_⟩
  · exact (permit_project projection_registers request d _).trans hperm
  · rw [hall, hafter]

/-- A frame of which the device with a tag carries out nothing leaves it alone. -/
theorem InOrder.ofOrigin?_dispatch_of_not (h : bus.InOrder) (hd : bus.ofOrigin? o = some d)
    (hnot : ∀ request : Request C, ¬ bus.CarriesOut o frame request) :
    (bus.dispatch frame).1.ofOrigin? o = some d := by
  rcases dispatch_eq_self_or_dispatchAll frame bus with
    hself | ⟨request, addresses, hread, hresolve, hall⟩
  · rw [hself, hd]
  · rw [hall]
    by_cases ha : d.address ∈ addresses
    · cases hperm : (bus.ahead request d.address addresses).permit request d with
      | error fault => exact h.ofOrigin?_dispatchAll_of_error hd hresolve ha hperm
      | ok _ => exact absurd ⟨addresses, d, hread, hresolve, hd, ha, hperm⟩ (hnot request)
    · exact h.ofOrigin?_dispatchAll_of_notMem hd ha

/-! ## Runs -/

namespace Lasting

variable {α : Type} {f : Device R → α} {P : C → Bool}

/-- An operation keeps what lasts, if only commands of a sort change it and the device with the tag
carries out none of them. -/
theorem operate (hf : Lasting f)
    (happly : ∀ (request : Request C) (d : Device R), P request.command = false →
      f (Instrument.apply request d).1 = f d) (h : bus.InOrder) (hd : bus.ofOrigin? o = some d)
    {operation : Operation} (hnot : ¬ bus.Obeys o P operation) :
    ∃ e, (bus.operate operation).ofOrigin? o = some e ∧ f e.forget = f d.forget := by
  cases operation with
  | observe sample => exact ⟨_, ofOrigin?_observe h hd sample, hf.observe sample d.forget⟩
  | markSent time addresses =>
    have hmarked := ofOrigin?_markSent h time addresses o
    rw [hd, Option.map_some] at hmarked
    refine ⟨_, hmarked, ?_⟩
    split
    · exact hf.markSent time d.forget
    · rfl
  | dispatch frame =>
    by_cases hout : ∃ request : Request C, bus.CarriesOut o frame request
    · obtain ⟨request, hout⟩ := hout
      obtain ⟨now, e, -, -, he, hafter⟩ := h.carried_of_carriesOut hd hout
      have hother : P request.command = false := by
        rw [← Bool.not_eq_true]
        exact fun hP => hnot ⟨frame, request, rfl, hout, hP⟩
      exact ⟨e, hafter, (he.map_eq hf.move).trans (happly request d.forget hother)⟩
    · exact ⟨d, h.ofOrigin?_dispatch_of_not hd (not_exists.1 hout), rfl⟩

/-- A run keeps what lasts, if the device with the tag carries out no command that changes it. -/
theorem run (hf : Lasting f)
    (happly : ∀ (request : Request C) (d : Device R), P request.command = false →
      f (Instrument.apply request d).1 = f d) (h : bus.InOrder) (hd : bus.ofOrigin? o = some d)
    {operations : List Operation} (hnot : ¬ bus.ObeysIn o P operations) :
    ∃ e, (bus.run operations).ofOrigin? o = some e ∧ f e.forget = f d.forget := by
  induction operations generalizing bus d with
  | nil => exact ⟨d, hd, rfl⟩
  | cons operation rest ih =>
    rw [ObeysIn, not_or] at hnot
    obtain ⟨e, he, hsame⟩ := hf.operate happly h hd hnot.1
    obtain ⟨e', he', hsame'⟩ := ih (invariant_inOrder.operate operation h) he hnot.2
    exact ⟨e', he', hsame'.trans hsame⟩

end Lasting

end Tracked

end Bus

end WeatherBus
