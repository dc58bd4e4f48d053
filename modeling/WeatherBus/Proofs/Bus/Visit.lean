import WeatherBus.Proofs.Bus.Tracking
import WeatherBus.Proofs.Kinds

/-! # Requests for all devices, visit by visit

A request for all devices works off the addresses that are taken when it comes. Meanwhile devices
may be moved, so it has to be shown that the addresses still lead to the devices that were there:
a device leaves its address in its own turn only, and no device can be moved to an address that is
taken.

* **`Bus.visit`** — what is done with a device in its turn; `Bus.dispatchTo_eq_visit` says that this
  is what happens at the address of the device;
* **`Bus.get?_dispatchTo_of_keyed`** — the turn of one device leaves the others alone;
* **`Bus.visited`** — the devices that are found when the turns of some addresses come;
* **`Bus.visits_each_once`** — a request for all devices visits each device once, in the order of
  the addresses before the request. -/

namespace WeatherBus

namespace Bus

/-! ## Devices at their own addresses -/

section Keyed

variable {R : Type} {bus : Bus R} {a : Nat} {d : Device R}

/-- A device that keeps its address can be put in the place of another state of it. -/
theorem Keyed.replace (hk : bus.Keyed) (h : d.address = a) : (bus.replace a d).Keyed := by
  constructor
  intro b e he
  rw [get?_replace] at he
  split at he
  · rename_i hb
    obtain ⟨_, _, rfl⟩ := Option.map_eq_some_iff.1 he
    rw [hb, h]
  · exact hk.address_eq he

/-- A device of the bus is found at its own address. -/
theorem Keyed.get?_address (hk : bus.Keyed) (hd : d ∈ bus.toList) :
    bus.get? d.address = some d := by
  obtain ⟨a, ha⟩ := mem_toList_iff.1 hd
  rwa [hk.address_eq ha]

/-- The devices are listed by their own addresses. -/
theorem Keyed.map_address (hk : bus.Keyed) : bus.toList.map Device.address = bus.addresses := by
  rw [toList, addresses, List.map_map]
  refine List.map_congr_left ?_
  rintro ⟨a, d⟩ hd
  exact hk.address_eq (mem_devices_iff.1 hd)

/-- Tags do not matter for where a device is found. -/
theorem Keyed.track (hk : bus.Keyed) : bus.track.Keyed := by
  constructor
  intro a d hd
  rw [get?_track] at hd
  obtain ⟨e, he, rfl⟩ := Option.map_eq_some_iff.1 hd
  exact hk.address_eq he

end Keyed

/-! ## Visits -/

section Visit

variable {R C : Type} [Instrument R C] {request : Request C} {bus : Bus R} {a b : Nat}
  {d : Device R}

/-- What is done with a device in its turn: it is checked, carries out the request, and is moved if
it asks for it. -/
def visit (request : Request C) (device : Device R) (bus : Bus R) : Bus R × Answer :=
  match bus.permit request device with
  | .error fault => (bus, refusal request device true fault)
  | .ok () =>
    match Instrument.apply request device with
    | (changed, .error fault) =>
      (bus.replace device.address changed, refusal request changed true fault)
    | (changed, .ok outcome) =>
      settle request changed outcome (bus.replace device.address changed)

/-- Visit some devices, one after the other. -/
def visitAll (request : Request C) : List (Device R) → Bus R → Bus R × Answer
  | [], bus => (bus, .none)
  | device :: rest, bus =>
    let (bus, first) := visit request device bus
    let (bus, others) := visitAll request rest bus
    (bus, first ++ others)

/-- The devices that are found when the turns of some addresses come, each as it is then. -/
def visited (request : Request C) : List Nat → Bus R → List (Device R)
  | [], _ => []
  | address :: rest, bus =>
    (bus.get? address).toList ++ visited request rest (bus.dispatchTo request address).1

/-- The turn of an address is a visit of the device that is found there. -/
theorem dispatchTo_eq_visit (hk : bus.Keyed) (hd : bus.get? a = some d) :
    bus.dispatchTo request a = bus.visit request d := by
  obtain rfl : d.address = a := hk.address_eq hd
  simp only [dispatchTo, hd]
  rfl

-- Commands leave the addresses of devices alone.
variable (haddress : ∀ (request : Request C) (d : Device R),
  (Instrument.apply request d).1.address = d.address)

include haddress

/-- A turn keeps every device at its own address. -/
theorem Keyed.dispatchTo (hk : bus.Keyed) (request : Request C) (a : Nat) :
    (bus.dispatchTo request a).1.Keyed := by
  have hkept {d changed : Device R} {result : Except Fault Outcome} (hd : bus.get? a = some d)
      (ha : Instrument.apply request d = (changed, result)) : changed.address = a := by
    have hsame := haddress request d
    rw [ha] at hsame
    exact hsame.trans (hk.address_eq hd)
  have hturn := turn_dispatchTo request a bus
  generalize bus.dispatchTo request a = result at hturn
  cases hturn with
  | absent => exact hk
  | forbidden => exact hk
  | refused hd _ ha => exact hk.replace (hkept hd ha)
  | stayed hd _ ha => exact hk.replace (hkept hd ha)
  | moved hd _ ha _ hr => exact (hk.replace (hkept hd ha)).reassign hr
  | stuck hd _ ha => exact hk.replace (hkept hd ha)

/-- What another device finds at its address does not change by the turn of a device. -/
theorem get?_dispatchTo_of_keyed (hk : bus.Keyed) (hne : a ≠ b) (hd : bus.get? a = some d) :
    (bus.dispatchTo request b).1.get? a = some d := by
  have hturn := turn_dispatchTo request b bus
  generalize bus.dispatchTo request b = result at hturn
  have hreplaced : ∀ changed : Device R, (bus.replace b changed).get? a = some d := by
    intro changed
    rw [get?_replace, if_neg hne, hd]
  cases hturn with
  | absent => exact hd
  | forbidden => exact hd
  | refused => exact hreplaced _
  | stayed => exact hreplaced _
  | stuck => exact hreplaced _
  | @moved e changed outcome new after he hperm happly hm hr =>
    have hchanged : changed.address = b := by
      have hsame := haddress request e
      rw [happly] at hsame
      exact hsame.trans (hk.address_eq he)
    rw [hchanged] at hr
    obtain ⟨-, e', he', hwhere⟩ := reassign_eq_ok_iff.1 hr
    have hget : (bus.replace b changed).get? b = some changed := by
      rw [get?_replace, if_pos rfl, he, Option.map_some]
    -- The device moves neither from `a`, nor to `a`, since that address is taken.
    have hnew : a ≠ new := by
      rintro rfl
      rcases hwhere with ⟨hsame, -⟩ | ⟨-, hfree, -⟩
      · exact hne hsame.symm
      · rw [hreplaced] at hfree
        exact Option.some_ne_none _ hfree
    rw [get?_reassign hr hget hchanged, if_neg hnew, if_neg hne, hreplaced]

/-- A device is left alone by the turns of other addresses. -/
theorem get?_dispatchAll_of_keyed (hk : bus.Keyed) {addresses : List Nat} (ha : a ∉ addresses)
    (hd : bus.get? a = some d) : (bus.dispatchAll request addresses).1.get? a = some d := by
  induction addresses generalizing bus with
  | nil => exact hd
  | cons b rest ih =>
    rw [List.mem_cons, not_or] at ha
    rw [fst_dispatchAll_cons]
    exact ih (hk.dispatchTo haddress request b) ha.2 (get?_dispatchTo_of_keyed haddress hk ha.1 hd)

/-- The turns of the addresses of some devices are visits of these devices, and of no others. -/
theorem dispatchAll_eq_visitAll (request : Request C) (hk : bus.Keyed)
    {devices : List (Device R)} (hn : (devices.map Device.address).Nodup)
    (hthere : ∀ d ∈ devices, bus.get? d.address = some d) :
    bus.dispatchAll request (devices.map Device.address) = bus.visitAll request devices ∧
      bus.visited request (devices.map Device.address) = devices := by
  induction devices generalizing bus with
  | nil => exact ⟨rfl, rfl⟩
  | cons d rest ih =>
    rw [List.map_cons, List.nodup_cons] at hn
    have hd : bus.get? d.address = some d := hthere d List.mem_cons_self
    -- The devices behind are still there when this one has had its turn.
    obtain ⟨hvisits, hvisited⟩ := ih (hk.dispatchTo haddress request d.address) hn.2 fun e he =>
      get?_dispatchTo_of_keyed haddress hk
        (fun hsame => hn.1 (hsame ▸ List.mem_map_of_mem he)) (hthere e (List.mem_cons_of_mem _ he))
    constructor
    · rw [dispatchTo_eq_visit hk hd] at hvisits
      simp only [List.map_cons, dispatchAll, visitAll, dispatchTo_eq_visit hk hd, hvisits]
    · rw [List.map_cons, visited, hd, hvisited]
      rfl

end Visit

/-! ## Requests for all devices -/

section All

variable {R C : Type} [Instrument R C] {request : Request C} {bus : Bus R} {frame : Bytes}

/-- A request for all devices is carried out by each of them in a visit of its own. -/
structure VisitsEachOnce (request : Request C) (frame : Bytes) (bus : Bus R) : Prop where
  /-- The frame does what the visits do, in the order in which the devices were before it. -/
  dispatch_eq : bus.dispatch frame = bus.visitAll request bus.toList
  /-- This is the order of their addresses. -/
  ascending : (bus.toList.map Device.address).Pairwise (· < ·)
  /-- When some have been visited, the others are as they were, and where they were. -/
  untouched : ∀ {earlier later : List (Device R)} {d : Device R}, bus.toList = earlier ++ later →
    d ∈ later → (bus.visitAll request earlier).1.get? d.address = some d
  /-- In the turns, each device is found once, wherever it may have been moved by then: the devices
  with their tags are found in the order of the tags. -/
  once : (bus.track.visited request bus.track.addresses).map Device.origin = bus.addresses

/-- For every instrument whose commands leave the addresses of devices alone, and on every bus on
which each device is at its own address, a request for all devices visits each of them once, in the
order of the addresses before the request. It does not matter to which addresses devices are moved
meanwhile: none is skipped, and none is visited again. -/
theorem visits_each_once
    (haddress : ∀ (request : Request C) (d : Device R),
      (Instrument.apply request d).1.address = d.address)
    (hk : bus.Keyed) (hread : Instrument.read R frame = .ok request)
    (hall : request.target = .all) : bus.VisitsEachOnce request frame where
  dispatch_eq := by
    have hresolve : bus.resolve request.target = .ok bus.addresses := by
      rw [hall]
      rfl
    have hn : (bus.toList.map Device.address).Nodup := by
      rw [hk.map_address]
      exact bus.nodup_addresses
    simp only [dispatch, hread, hresolve]
    rw [← hk.map_address]
    exact (dispatchAll_eq_visitAll haddress request hk hn fun d hd => hk.get?_address hd).1
  ascending := by
    rw [hk.map_address]
    exact bus.ascending
  untouched {earlier later d} hl hd := by
    have hmem : d ∈ bus.toList := hl ▸ List.mem_append_right _ hd
    have hn := bus.nodup_addresses
    rw [← hk.map_address, hl, List.map_append, List.nodup_append'] at hn
    have hvisits := dispatchAll_eq_visitAll haddress request hk hn.1 fun e he =>
      hk.get?_address (hl ▸ List.mem_append_left _ he)
    rw [← hvisits.1]
    -- Its address is not one of those that have had their turn.
    exact get?_dispatchAll_of_keyed haddress hk
      (fun hfront => hn.2.2 hfront (List.mem_map_of_mem hd)) (hk.get?_address hmem)
  once := by
    have hn : (bus.track.toList.map Device.address).Nodup := by
      rw [hk.track.map_address]
      exact bus.track.nodup_addresses
    have hvisited := dispatchAll_eq_visitAll (fun request d => haddress request d.forget) request
      hk.track hn fun d hd => hk.track.get?_address hd
    rw [← hk.track.map_address, hvisited.2]
    exact origins_track bus

/-- Three barometers are all told to take an address behind the last one. The first is moved there,
and is not visited again; the others find the address taken. -/
theorem visits_each_once_moved :
    let frame := Utf8.encode "N,4".toList
    ∃ (bus : Bus BusBarometer) (request : Request BusBarometer.Command),
      Instrument.read BusBarometer frame = .ok request ∧ request.target = .all ∧
      bus.addresses = [1, 2, 3] ∧ bus.VisitsEachOnce request frame ∧
      (bus.dispatch frame).1.addresses = [2, 3, 4] ∧
      (bus.dispatch frame).2.faults = [.addressInUse 4, .addressInUse 4] := by
  intro frame
  have hbus : BusBarometer.bus 3 = .ok _ := rfl
  have hread : Instrument.read BusBarometer frame =
      .ok ⟨.all, .absent, .setAddress 4, "N,4".toList⟩ := by decide +kernel
  have hvisits := visits_each_once (fun request d => (Conducted.conduct request d).retains.address)
    (BusBarometer.wellPlaced_bus hbus).keyed hread rfl
  exact ⟨_, _, hread, rfl, rfl, hvisits, by decide, by decide⟩

end All

end Bus

end WeatherBus
