import WeatherBus.Bus.Dispatch
import WeatherBus.Bus.Output
import WeatherBus.Proofs.Bus.Placement
import WeatherBus.Proofs.Instrument.Conduct

/-! # Runs of a bus

A frame is carried out on the devices it is for, one after the other. What can become of the bus
when it is the turn of one of them is said once, in `Bus.Turn`.

* **`Bus.turn_dispatchTo`** — a turn ends in one of six ways;
* **`Bus.turns`** — the answers of all devices, each with the address at which the device was asked;
  `Bus.snd_dispatchAll` says that their concatenation is the answer to the frame;
* **`Bus.run`** — frames, samples and records of messages, in any order; **`Bus.Invariant`** — what
  every operation keeps, and so every run (`Bus.Invariant.run`);
* **`Bus.DeviceInvariant`**, **`Bus.DeviceDispatchInvariant`** — what every operation, or every
  frame, keeps of each device, and so throughout a bus (**`Bus.Throughout`**);
* **`Bus.ReadInvariant`** — what is kept by the requests that are read from some frames, but not by
  all there are (`Bus.ReadInvariant.run`). -/

namespace WeatherBus

namespace Bus

variable {R C : Type} [Instrument R C]

/-! ## One turn -/

/-- How the turn of a device may end, with the bus and the answer that come out of it. -/
inductive Turn (request : Request C) (address : Nat) (bus : Bus R) : Bus R × Answer → Prop where
  /-- There is no device at the address. -/
  | absent (hd : bus.get? address = none) : Turn request address bus (bus, .none)
  /-- The device may not carry out the request. -/
  | forbidden {d : Device R} {fault : Fault} (hd : bus.get? address = some d)
      (hp : bus.permit request d = .error fault) :
      Turn request address bus (bus, refusal request d true fault)
  /-- The device refuses the request, and may have carried it out in part. -/
  | refused {d changed : Device R} {fault : Fault} (hd : bus.get? address = some d)
      (hp : bus.permit request d = .ok ())
      (ha : Instrument.apply request d = (changed, .error fault)) :
      Turn request address bus (bus.replace address changed, refusal request changed true fault)
  /-- The device carries out the request and stays where it is. -/
  | stayed {d changed : Device R} {outcome : Outcome} (hd : bus.get? address = some d)
      (hp : bus.permit request d = .ok ())
      (ha : Instrument.apply request d = (changed, .ok outcome)) (hm : outcome.moveTo = none) :
      Turn request address bus (bus.replace address changed, answer request changed outcome)
  /-- The device carries out the request and is moved. -/
  | moved {d changed : Device R} {outcome : Outcome} {new : Nat} {after : Bus R}
      (hd : bus.get? address = some d) (hp : bus.permit request d = .ok ())
      (ha : Instrument.apply request d = (changed, .ok outcome))
      (hm : outcome.moveTo = some new)
      (hr : (bus.replace address changed).reassign changed.address new = .ok after) :
      Turn request address bus (after, answer request { changed with address := new } outcome)
  /-- The device carries out the request, but it cannot be moved. -/
  | stuck {d changed : Device R} {outcome : Outcome} {new : Nat} {fault : Fault}
      (hd : bus.get? address = some d) (hp : bus.permit request d = .ok ())
      (ha : Instrument.apply request d = (changed, .ok outcome))
      (hm : outcome.moveTo = some new)
      (hr : (bus.replace address changed).reassign changed.address new = .error fault) :
      Turn request address bus
        (bus.replace address changed, refusal request changed outcome.wake fault)

/-- Every turn ends in one of these ways. -/
theorem turn_dispatchTo (request : Request C) (address : Nat) (bus : Bus R) :
    Turn request address bus (bus.dispatchTo request address) := by
  rw [dispatchTo]
  split
  · rename_i hd
    exact .absent hd
  · rename_i d hd
    split
    · rename_i fault hp
      exact .forbidden hd hp
    · rename_i hp
      split
      · rename_i changed fault ha
        exact .refused hd hp ha
      · rename_i changed outcome ha
        -- The move comes last, when the device has changed already.
        rw [settle]
        split
        · rename_i hm
          exact .stayed hd hp ha hm
        · rename_i new hm
          split
          · rename_i after hr
            exact .moved hd hp ha hm hr
          · rename_i fault hr
            exact .stuck hd hp ha hm hr

/-! ## All turns of a frame -/

/-- The answers of the devices, each with the address at which the device was asked. -/
def turns (request : Request C) : List Nat → Bus R → List (Nat × Answer)
  | [], _ => []
  | address :: rest, bus =>
    (address, (bus.dispatchTo request address).2) ::
      turns request rest (bus.dispatchTo request address).1

/-- A request for no device changes nothing. -/
@[simp] theorem dispatchAll_nil (request : Request C) (bus : Bus R) :
    bus.dispatchAll request [] = (bus, .none) := rfl

/-- The others carry out a request behind the first device. -/
theorem fst_dispatchAll_cons (request : Request C) (address : Nat) (rest : List Nat)
    (bus : Bus R) : (bus.dispatchAll request (address :: rest)).1 =
      ((bus.dispatchTo request address).1.dispatchAll request rest).1 := rfl

/-- The answer of the first device comes first. -/
theorem snd_dispatchAll_cons (request : Request C) (address : Nat) (rest : List Nat)
    (bus : Bus R) : (bus.dispatchAll request (address :: rest)).2 =
      (bus.dispatchTo request address).2 ++
        ((bus.dispatchTo request address).1.dispatchAll request rest).2 := rfl

/-- The answer to a frame is the concatenation of the answers of the devices. -/
theorem snd_dispatchAll (request : Request C) (addresses : List Nat) (bus : Bus R) :
    (bus.dispatchAll request addresses).2 =
      ((bus.turns request addresses).map Prod.snd).foldr (· ++ ·) .none := by
  induction addresses generalizing bus with
  | nil => rfl
  | cons address rest ih => rw [snd_dispatchAll_cons, ih, turns, List.map_cons, List.foldr_cons]

/-- Every address has its turn, in the order of the addresses. -/
theorem map_fst_turns (request : Request C) (addresses : List Nat) (bus : Bus R) :
    (bus.turns request addresses).map Prod.fst = addresses := by
  induction addresses generalizing bus with
  | nil => rfl
  | cons address rest ih => rw [turns, List.map_cons, ih]

/-- The faults of a frame are those of the devices. -/
theorem faults_dispatchAll (request : Request C) (addresses : List Nat) (bus : Bus R) :
    (bus.dispatchAll request addresses).2.faults =
      (bus.turns request addresses).flatMap fun turn => turn.2.faults := by
  rw [snd_dispatchAll]
  induction bus.turns request addresses with
  | nil => rfl
  | cons turn rest ih =>
    rw [List.flatMap_cons, ← ih]
    rfl

/-- The bus after a frame is either the one before, or that after the turns of some devices. -/
theorem dispatch_eq_self_or_dispatchAll (frame : Bytes) (bus : Bus R) :
    (bus.dispatch frame).1 = bus ∨ ∃ (request : Request C) (addresses : List Nat),
      Instrument.read R frame = .ok request ∧ bus.resolve request.target = .ok addresses ∧
        bus.dispatch frame = bus.dispatchAll request addresses := by
  rw [dispatch]
  split
  · exact .inl rfl
  · rename_i request hread
    split
    · exact .inl rfl
    · rename_i addresses hresolve
      exact .inr ⟨request, addresses, hread, hresolve, rfl⟩

/-! ## Runs -/

/-- What can be done with a bus. -/
inductive Operation where
  /-- Carry out a frame. -/
  | dispatch (frame : Bytes)
  /-- Take in a sample. -/
  | observe (sample : Sample)
  /-- Record a message sent at a time for the devices at some addresses. -/
  | markSent (time : Nat) (addresses : List Nat)

/-- The bus after an operation. -/
def operate (operation : Operation) (bus : Bus R) : Bus R :=
  match operation with
  | .dispatch frame => (bus.dispatch frame).1
  | .observe sample => bus.observe sample
  | .markSent time addresses => bus.markSent time addresses

/-- The bus after several operations. -/
def run (operations : List Operation) (bus : Bus R) : Bus R :=
  operations.foldl (fun bus operation => bus.operate operation) bus

/-- Without operations nothing changes. -/
@[simp] theorem run_nil (bus : Bus R) : bus.run [] = bus := rfl

/-- The first operation is carried out before the others. -/
@[simp] theorem run_cons (operation : Operation) (rest : List Operation) (bus : Bus R) :
    bus.run (operation :: rest) = (bus.operate operation).run rest := rfl

/-- Some operations come behind others. -/
theorem run_append (a b : List Operation) (bus : Bus R) : bus.run (a ++ b) = (bus.run a).run b :=
  List.foldl_append

/-! ## Invariants -/

/-- What a request keeps: a device that carries it out keeps it, and so does one that is moved. -/
structure RequestInvariant (request : Request C) (Q : Bus R → Prop) : Prop where
  replace : ∀ {bus : Bus R} {a : Nat} {d : Device R},
    bus.get? a = some d → Q bus → Q (bus.replace a (Instrument.apply request d).1)
  move : ∀ {bus after : Bus R} {old new : Nat}, bus.reassign old new = .ok after → Q bus → Q after

/-- What every frame keeps: it is kept when a device carries out a request, and when one is
moved. -/
structure DispatchInvariant (Q : Bus R → Prop) : Prop where
  replace : ∀ {bus : Bus R} {a : Nat} {d : Device R} (request : Request C),
    bus.get? a = some d → Q bus → Q (bus.replace a (Instrument.apply request d).1)
  move : ∀ {bus after : Bus R} {old new : Nat}, bus.reassign old new = .ok after → Q bus → Q after

/-- What every operation keeps. -/
structure Invariant (Q : Bus R → Prop) : Prop extends DispatchInvariant Q where
  observe : ∀ {bus : Bus R} (sample : Sample), Q bus → Q (bus.observe sample)
  markSent : ∀ {bus : Bus R} (time a : Nat), Q bus →
    Q (bus.modify a (Device.mapSchedule (·.markSent time)))

namespace RequestInvariant

variable {Q : Bus R → Prop} {request : Request C}

/-- A turn keeps what the request keeps. -/
theorem dispatchTo (h : RequestInvariant request Q) (address : Nat) {bus : Bus R} (hq : Q bus) :
    Q (bus.dispatchTo request address).1 := by
  have hturn := turn_dispatchTo request address bus
  generalize bus.dispatchTo request address = result at hturn
  cases hturn with
  | absent => exact hq
  | forbidden => exact hq
  | refused hd hp ha => simpa [ha] using h.replace hd hq
  | stayed hd hp ha => simpa [ha] using h.replace hd hq
  | moved hd hp ha hm hr =>
    -- First the device is changed, then the changed one is moved.
    have hchanged := h.replace hd hq
    rw [ha] at hchanged
    exact h.move hr hchanged
  | stuck hd hp ha => simpa [ha] using h.replace hd hq

/-- So do several turns. -/
theorem dispatchAll (h : RequestInvariant request Q) (addresses : List Nat) {bus : Bus R}
    (hq : Q bus) : Q (bus.dispatchAll request addresses).1 := by
  induction addresses generalizing bus with
  | nil => exact hq
  | cons address rest ih => exact ih (h.dispatchTo address hq)

/-- A frame keeps what every request keeps that can be read from it. -/
theorem dispatch {frame : Bytes}
    (h : ∀ {request : Request C}, Instrument.read R frame = .ok request →
      RequestInvariant request Q) {bus : Bus R} (hq : Q bus) : Q (bus.dispatch frame).1 := by
  rcases dispatch_eq_self_or_dispatchAll frame bus with hself | ⟨request, addresses, hread, -, hall⟩
  · rwa [hself]
  · rw [hall]
    exact (h hread).dispatchAll addresses hq

end RequestInvariant

namespace DispatchInvariant

variable {Q : Bus R → Prop}

/-- What every frame keeps, every request keeps. -/
theorem requestInvariant (h : DispatchInvariant Q) (request : Request C) :
    RequestInvariant request Q := ⟨h.replace request, h.move⟩

/-- A turn keeps what every frame keeps. -/
theorem dispatchTo (h : DispatchInvariant Q) (request : Request C) (address : Nat) {bus : Bus R}
    (hq : Q bus) : Q (bus.dispatchTo request address).1 :=
  (h.requestInvariant request).dispatchTo address hq

/-- So do several turns. -/
theorem dispatchAll (h : DispatchInvariant Q) (request : Request C) (addresses : List Nat)
    {bus : Bus R} (hq : Q bus) : Q (bus.dispatchAll request addresses).1 :=
  (h.requestInvariant request).dispatchAll addresses hq

/-- And so does a whole frame. -/
theorem dispatch (h : DispatchInvariant Q) (frame : Bytes) {bus : Bus R} (hq : Q bus) :
    Q (bus.dispatch frame).1 := RequestInvariant.dispatch (fun _ => h.requestInvariant _) hq

end DispatchInvariant

/-- A record keeps what it keeps for each of its devices. -/
theorem markSent_induction {Q : Bus R → Prop} {time : Nat}
    (h : ∀ {bus : Bus R} (a : Nat), Q bus →
      Q (bus.modify a (Device.mapSchedule (·.markSent time))))
    (addresses : List Nat) {bus : Bus R} (hq : Q bus) : Q (bus.markSent time addresses) := by
  induction addresses generalizing bus with
  | nil => exact hq
  | cons a rest ih => exact ih (h a hq)

/-- What every operation of a run keeps holds at the end of the run. -/
theorem run_induction {Q : Bus R → Prop} {operations : List Operation}
    (h : ∀ operation ∈ operations, ∀ {bus : Bus R}, Q bus → Q (bus.operate operation))
    {bus : Bus R} (hq : Q bus) : Q (bus.run operations) := by
  induction operations generalizing bus with
  | nil => exact hq
  | cons operation rest ih =>
    rw [List.forall_mem_cons] at h
    exact ih h.2 (h.1 hq)

namespace Invariant

variable {Q : Bus R → Prop}

/-- Records keep what one record keeps. -/
theorem markSentAll (h : Invariant Q) (time : Nat) (addresses : List Nat) {bus : Bus R}
    (hq : Q bus) : Q (bus.markSent time addresses) :=
  markSent_induction (h.markSent time) addresses hq

/-- Every operation keeps an invariant. -/
theorem operate (h : Invariant Q) (operation : Operation) {bus : Bus R} (hq : Q bus) :
    Q (bus.operate operation) := by
  cases operation with
  | dispatch frame => exact h.dispatch frame hq
  | observe sample => exact h.observe sample hq
  | markSent time addresses => exact h.markSentAll time addresses hq

/-- What every operation keeps holds at the end of every run. -/
theorem run (h : Invariant Q) (operations : List Operation) {bus : Bus R} (hq : Q bus) :
    Q (bus.run operations) := run_induction (fun operation _ _ => h.operate operation) hq

end Invariant

/-- A record does not matter for what it leaves alone. -/
theorem map_toList_markSent {α : Type} {g : Device R → α}
    (hg : ∀ (time : Nat) (d : Device R), g (d.mapSchedule (·.markSent time)) = g d) (time : Nat)
    (addresses : List Nat) (bus : Bus R) :
    (bus.markSent time addresses).toList.map g = bus.toList.map g := by
  induction addresses generalizing bus with
  | nil => rfl
  | cons a rest ih => exact (ih _).trans (map_toList_modify fun _ => hg time _)

/-! ## What every run keeps -/

/-- The largest address never changes. -/
theorem invariant_maxAddress (maxAddress : Nat) :
    Invariant fun bus : Bus R => bus.maxAddress = maxAddress where
  replace _ _ h := h
  move hr h := (maxAddress_reassign hr).trans h
  observe _ h := h
  markSent _ _ h := h

/-- Neither does the number of devices. -/
theorem invariant_size (size : Nat) : Invariant fun bus : Bus R => bus.size = size where
  replace _ _ h := (List.length_map _).trans h
  move {bus after old new} hr h := by
    have hperm := (map_reassign_perm (fun _ => ()) (fun _ _ => rfl) hr).length_eq
    rw [toList, toList, List.length_map, List.length_map, List.length_map, List.length_map]
      at hperm
    exact hperm.trans h
  observe _ h := (List.length_map _).trans h
  markSent _ _ h := (List.length_map _).trans h

/-- A bus is in order, and all devices on it have a property. -/
def Throughout (maxAddress : Nat) (P : Device R → Prop) (bus : Bus R) : Prop :=
  bus.WellPlaced ∧ bus.maxAddress = maxAddress ∧ ∀ {a d}, bus.get? a = some d → P d

namespace Throughout

variable {maxAddress a : Nat} {P Q : Device R → Prop} {bus : Bus R}

/-- A property of all devices may be replaced by a weaker one. -/
theorem imp (hq : bus.Throughout maxAddress P) (h : ∀ {d : Device R}, P d → Q d) :
    bus.Throughout maxAddress Q := ⟨hq.1, hq.2.1, fun hd => h (hq.2.2 hd)⟩

/-- It stays a property of all when a device is moved, if it does not depend on the address. -/
theorem move {after : Bus R} {old new : Nat} (hq : bus.Throughout maxAddress P)
    (hr : bus.reassign old new = .ok after)
    (h : ∀ {d : Device R} {a : Nat}, a ≤ maxAddress → P d → P { d with address := a }) :
    after.Throughout maxAddress P := by
  refine ⟨hq.1.reassign hr, (maxAddress_reassign hr).trans hq.2.1, fun {k e} he => ?_⟩
  obtain ⟨hle, d, hd, -⟩ := reassign_eq_ok_iff.1 hr
  rw [get?_reassign hr hd (hq.1.address_eq hd)] at he
  split at he
  · -- The device that has been moved.
    obtain rfl := Option.some.inj he
    exact h (hq.2.1 ▸ hle) (hq.2.2 hd)
  · split at he
    · exact absurd he (by simp)
    · exact hq.2.2 he

/-- It stays so when a sample is taken in, if every device keeps it. -/
theorem observe {sample : Sample} (hq : bus.Throughout maxAddress P)
    (h : ∀ {d : Device R}, P d → P (d.mapRegisters (Instrument.observe sample))) :
    (bus.observe sample).Throughout maxAddress P := by
  refine ⟨hq.1.map fun _ => rfl, hq.2.1, fun {k e} he => ?_⟩
  rw [Bus.observe, get?_map] at he
  obtain ⟨d, hd, rfl⟩ := Option.map_eq_some_iff.1 he
  exact h (hq.2.2 hd)

/-- It stays so when a message is recorded, if the device keeps it. -/
theorem markSent {time : Nat} (hq : bus.Throughout maxAddress P)
    (h : ∀ {d : Device R}, P d → P (d.mapSchedule (·.markSent time))) (a : Nat) :
    (bus.modify a (Device.mapSchedule (·.markSent time))).Throughout maxAddress P := by
  refine ⟨hq.1.modify fun _ => rfl, hq.2.1, fun {k e} he => ?_⟩
  rw [get?_modify] at he
  split at he
  · obtain ⟨d, hd, rfl⟩ := Option.map_eq_some_iff.1 he
    exact h (hq.2.2 hd)
  · exact hq.2.2 he

end Throughout

variable [Conducted R]

/-- The bus stays in order. -/
theorem invariant_wellPlaced : Invariant (WellPlaced (R := R)) where
  replace request hd hp := hp.modify fun he => by
    obtain rfl := Option.some.inj (hd.symm.trans he)
    exact (Conducted.conduct request _).retains.address
  move hr hp := hp.reassign hr
  observe _ hp := hp.map fun _ => rfl
  markSent _ _ hp := hp.modify fun _ => rfl

variable {maxAddress : Nat} {P : Device R → Prop}

/-- It stays so when a device carries out a request, if this device keeps it. -/
theorem Throughout.apply {request : Request C} {bus : Bus R} {a : Nat} {d : Device R}
    (hq : bus.Throughout maxAddress P)
    (hd : bus.get? a = some d) (h : P (Instrument.apply request d).1) :
    (bus.replace a (Instrument.apply request d).1).Throughout maxAddress P := by
  refine ⟨invariant_wellPlaced.replace request hd hq.1, hq.2.1, fun {k e} he => ?_⟩
  rw [get?_replace] at he
  split at he
  · obtain ⟨d', -, rfl⟩ := Option.map_eq_some_iff.1 he
    exact h
  · exact hq.2.2 he

/-- What every frame keeps of a device. `maxAddress` is the largest address it can be moved to. -/
structure DeviceDispatchInvariant (maxAddress : Nat) (P : Device R → Prop) : Prop where
  apply : ∀ {d : Device R} (request : Request C), P d → P (Instrument.apply request d).1
  move : ∀ {d : Device R} {a : Nat}, a ≤ maxAddress → P d → P { d with address := a }

/-- What every operation keeps of a device. -/
structure DeviceInvariant (maxAddress : Nat) (P : Device R → Prop) : Prop
    extends DeviceDispatchInvariant maxAddress P where
  observe : ∀ {d : Device R} (sample : Sample), P d →
    P (d.mapRegisters (Instrument.observe sample))
  markSent : ∀ {d : Device R} (time : Nat), P d → P (d.mapSchedule (·.markSent time))

/-- What every frame keeps of a device, it keeps of all devices on a bus that is in order. -/
theorem DeviceDispatchInvariant.dispatchInvariant (h : DeviceDispatchInvariant maxAddress P) :
    DispatchInvariant fun bus : Bus R => bus.Throughout maxAddress P where
  replace request hd hq := hq.apply hd (h.apply request (hq.2.2 hd))
  move hr hq := hq.move hr h.move

/-- What every operation keeps of a device, it keeps of all devices on a bus that is in order. -/
theorem DeviceInvariant.invariant (h : DeviceInvariant maxAddress P) :
    Invariant fun bus : Bus R => bus.Throughout maxAddress P where
  toDispatchInvariant := h.toDeviceDispatchInvariant.dispatchInvariant
  observe sample hq := hq.observe (h.observe sample)
  markSent time a hq := hq.markSent (h.markSent time) a

/-- What the requests that are read from some frames, samples and records keep of a device. -/
structure ReadInvariant (allowed : Bytes → Prop) (maxAddress : Nat) (P : Device R → Prop) :
    Prop where
  apply : ∀ {frame : Bytes} {request : Request C} {d : Device R}, allowed frame →
    Instrument.read R frame = .ok request → P d → P (Instrument.apply request d).1
  move : ∀ {d : Device R} {a : Nat}, a ≤ maxAddress → P d → P { d with address := a }
  observe : ∀ {d : Device R} (sample : Sample), P d →
    P (d.mapRegisters (Instrument.observe sample))
  markSent : ∀ {d : Device R} (time : Nat), P d → P (d.mapSchedule (·.markSent time))

/-- What is kept of every device holds throughout every run on such frames. -/
theorem ReadInvariant.run {allowed : Bytes → Prop} (h : ReadInvariant allowed maxAddress P)
    {operations : List Operation} (hframes : ∀ frame, .dispatch frame ∈ operations → allowed frame)
    {bus : Bus R} (hq : bus.Throughout maxAddress P) :
    (bus.run operations).Throughout maxAddress P := by
  -- The induction has to know that an operation is one of the list: only then is its frame allowed.
  refine run_induction (Q := fun bus => bus.Throughout maxAddress P) (fun operation hmem => ?_) hq
  intro bus hq
  cases operation with
  | dispatch frame =>
    have hallowed := hframes frame hmem
    refine RequestInvariant.dispatch (Q := fun bus => bus.Throughout maxAddress P)
      (fun hread => ⟨fun hd hq => ?_, fun hr hq => hq.move hr h.move⟩) hq
    exact hq.apply hd (h.apply hallowed hread (hq.2.2 hd))
  | observe sample => exact hq.observe (h.observe sample)
  | markSent time addresses =>
    exact markSent_induction (fun a hq => hq.markSent (h.markSent time) a) addresses hq

end Bus

end WeatherBus
