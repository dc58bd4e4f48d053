import WeatherBus.Proofs.Bus.Fate

/-! # Requests for all devices

A request that every device may carry out and that moves none of them is carried out by each device
on its own, as if there were no others.

* **`Bus.contributions`** — what each device answers to a frame; `Bus.reply_dispatch` and
  `Bus.measurements_dispatch` say that the answer to the frame is made of it;
* **`Bus.StaysPut`** — a request that moves no device; **`Bus.ownAnswer`** — what a device answers
  to it;
* **`Bus.get?_broadcast`**, **`Bus.mem_turns_broadcast`** — what becomes of a device when all have
  had their turn, and what it has answered. -/

namespace WeatherBus

namespace Bus

variable {R C : Type} [Instrument R C] {request : Request C} {bus : Bus R} {frame : Bytes}
  {a : Nat} {d : Device R} {ans : Answer}

/-! ## Contributions -/

/-- What the devices answer to a frame, each with the address at which it was asked. -/
def contributions (frame : Bytes) (bus : Bus R) : List (Nat × Answer) :=
  match Instrument.read R frame with
  | .error _ => []
  | .ok request =>
    match bus.resolve request.target with
    | .error _ => []
    | .ok addresses => bus.turns request addresses

/-- The contributions to a frame are the turns of the devices that it addresses. -/
theorem contributions_of_read {addresses : List Nat} (hread : Instrument.read R frame = .ok request)
    (hresolve : bus.resolve request.target = .ok addresses) :
    bus.contributions frame = bus.turns request addresses := by
  simp only [contributions, hread, hresolve]

/-- A frame is carried out by the devices that it addresses. -/
theorem dispatch_of_read {addresses : List Nat} (hread : Instrument.read R frame = .ok request)
    (hresolve : bus.resolve request.target = .ok addresses) :
    bus.dispatch frame = bus.dispatchAll request addresses := by
  simp only [dispatch, hread, hresolve]

/-- What is collected from the answers of the devices, part by part. -/
theorem collect_dispatch {β : Type} (part : Answer → List β) (hlost : ∀ f, part (.lost f) = [])
    (hnone : part .none = []) (happend : ∀ x y : Answer, part (x ++ y) = part x ++ part y)
    (frame : Bytes) (bus : Bus R) : part (bus.dispatch frame).2 =
      (bus.contributions frame).flatMap fun turn => part turn.2 := by
  rw [dispatch, contributions]
  cases Instrument.read R frame with
  | error fault => exact hlost fault
  | ok request =>
    cases hresolve : bus.resolve request.target with
    | error fault => simpa [hresolve] using hlost fault
    | ok addresses =>
      simp only [hresolve]
      rw [snd_dispatchAll]
      induction bus.turns request addresses with
      | nil => exact hnone
      | cons turn rest ih => rw [List.map_cons, List.foldr_cons, happend, ih, List.flatMap_cons]

/-- The bytes that are sent are those of the devices. -/
theorem reply_dispatch (frame : Bytes) (bus : Bus R) : (bus.dispatch frame).2.reply =
    (bus.contributions frame).flatMap fun turn => turn.2.reply :=
  collect_dispatch Answer.reply (fun _ => rfl) rfl (fun _ _ => rfl) frame bus

/-- The measurements that are asked for are those of the devices. -/
theorem measurements_dispatch (frame : Bytes) (bus : Bus R) : (bus.dispatch frame).2.measurements =
    (bus.contributions frame).flatMap fun turn => turn.2.measurements :=
  collect_dispatch Answer.measurements (fun _ => rfl) rfl (fun _ _ => rfl) frame bus

/-! ## Requests that move no device -/

/-- A request that every device may carry out, and that moves none. -/
structure StaysPut (request : Request C) : Prop where
  permit_eq : ∀ (bus : Bus R) (d : Device R), bus.permit request d = .ok ()
  moveTo_eq : ∀ {d changed : Device R} {outcome : Outcome},
    Instrument.apply request d = (changed, .ok outcome) → outcome.moveTo = none

/-- What a device answers to a request that does not move it. -/
def ownAnswer (request : Request C) (d : Device R) : Answer :=
  match Instrument.apply request d with
  | (changed, .error fault) => refusal request changed true fault
  | (changed, .ok outcome) => answer request changed outcome

/-- The turn of a device that stays. -/
theorem StaysPut.dispatchTo_eq (h : StaysPut (R := R) request) (hd : bus.get? a = some d) :
    bus.dispatchTo request a =
      (bus.replace a (Instrument.apply request d).1, ownAnswer request d) := by
  simp only [dispatchTo, hd, h.permit_eq, ownAnswer]
  cases happly : Instrument.apply request d with
  | mk changed result =>
    cases result with
    | error fault => rfl
    | ok outcome => simp only [settle, h.moveTo_eq happly]

/-- Devices that stay keep their addresses. -/
theorem StaysPut.addresses_dispatchAll (h : StaysPut (R := R) request) (addresses : List Nat)
    (bus : Bus R) : (bus.dispatchAll request addresses).1.addresses = bus.addresses := by
  induction addresses generalizing bus with
  | nil => rfl
  | cons b rest ih =>
    rw [fst_dispatchAll_cons, ih]
    cases hd : bus.get? b with
    | none => simp only [dispatchTo, hd]
    | some d => rw [h.dispatchTo_eq hd, addresses_replace]

variable [Conducted R]

/-- When all devices have had their turn, each is as it has left itself. -/
theorem StaysPut.get?_broadcast (h : StaysPut (R := R) request) (hp : bus.WellPlaced) (a : Nat) :
    (bus.dispatchAll request bus.addresses).1.get? a =
      (bus.get? a).map fun d => (Instrument.apply request d).1 := by
  cases hd : bus.get? a with
  | none =>
    -- No device has come to the bus.
    rw [Option.map_none, ← contains_eq_false_iff, ← Bool.not_eq_true, contains_iff,
      ← mem_addresses_iff, h.addresses_dispatchAll, mem_addresses_iff]
    rintro ⟨d, hsome⟩
    rw [hd] at hsome
    exact absurd hsome (by simp)
  | some d =>
    have ha : a ∈ bus.addresses := mem_addresses_iff.2 ⟨d, hd⟩
    have hnow : (bus.ahead request a bus.addresses).get? a = some d := get?_ahead hp hd
    refine get?_dispatchAll_of_mem hp bus.nodup_addresses ha
      (fun hb => contains_iff.2 (mem_addresses_iff.1 hb)) hd (.inl rfl) ?_
    rw [h.dispatchTo_eq hnow, get?_replace, if_pos rfl, hnow, Option.map_some]

/-- Every device has answered for itself. -/
theorem StaysPut.mem_turns_broadcast (h : StaysPut (R := R) request) (hp : bus.WellPlaced) :
    (a, ans) ∈ bus.turns request bus.addresses ↔
      ∃ d, bus.get? a = some d ∧ ans = ownAnswer request d := by
  rw [mem_turns_iff bus.nodup_addresses, mem_addresses_iff]
  constructor
  · rintro ⟨⟨d, hd⟩, rfl⟩
    exact ⟨d, hd, by rw [h.dispatchTo_eq (get?_ahead hp hd)]⟩
  · rintro ⟨d, hd, rfl⟩
    exact ⟨⟨d, hd⟩, by rw [h.dispatchTo_eq (get?_ahead hp hd)]⟩

end Bus

end WeatherBus
