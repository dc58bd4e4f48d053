import WeatherBus.Device
import WeatherBus.Fault

/-! # Devices by their addresses

A bus is a list of devices with strictly ascending addresses, none of them above a largest one.

* **`Bus.insert`** adds a device at its own address, **`Bus.reassign`** moves one to another
  address; both refuse an address that is too large or taken;
* **`Bus.get?`** is the view of a bus; `get?_replace` and `get?_map` say what becomes of it. -/

namespace WeatherBus

/-- Put a value at a key of a list with ascending keys. -/
def placeAscending {α : Type} (key : Nat) (value : α) : List (Nat × α) → List (Nat × α)
  | [] => [(key, value)]
  | (k, v) :: rest =>
    if key < k then (key, value) :: (k, v) :: rest
    else if key = k then (key, value) :: rest
    else (k, v) :: placeAscending key value rest

/-- The keys are the old ones and the new one. -/
theorem mem_placeAscending_keys {α : Type} {key k : Nat} {value : α} {l : List (Nat × α)}
    (h : k ∈ (placeAscending key value l).map Prod.fst) : k = key ∨ k ∈ l.map Prod.fst := by
  induction l with
  | nil => simpa [placeAscending] using h
  | cons entry rest ih =>
    obtain ⟨j, v⟩ := entry
    simp only [placeAscending] at h
    split at h
    · simpa using h
    · split at h
      · simp only [List.map_cons, List.mem_cons] at h ⊢
        exact h.imp_right Or.inr
      · simp only [List.map_cons, List.mem_cons] at h ⊢
        rcases h with h | h
        · exact .inr (.inl h)
        · exact (ih h).imp_right Or.inr

/-- The keys stay ascending. -/
theorem pairwise_placeAscending {α : Type} {key : Nat} {value : α} {l : List (Nat × α)}
    (h : (l.map Prod.fst).Pairwise (· < ·)) :
    ((placeAscending key value l).map Prod.fst).Pairwise (· < ·) := by
  induction l with
  | nil => simp [placeAscending]
  | cons entry rest ih =>
    obtain ⟨j, v⟩ := entry
    simp only [List.map_cons, List.pairwise_cons] at h
    simp only [placeAscending]
    split
    · rename_i hlt
      simp only [List.map_cons, List.pairwise_cons, List.mem_cons, forall_eq_or_imp]
      exact ⟨⟨hlt, fun k hk => Nat.lt_trans hlt (h.1 k hk)⟩, h⟩
    · split
      · rename_i heq
        subst heq
        simpa using h
      · rename_i hlt hne
        simp only [List.map_cons, List.pairwise_cons]
        refine ⟨fun k hk => ?_, ih h.2⟩
        rcases mem_placeAscending_keys hk with rfl | hk
        · omega
        · exact h.1 k hk

/-- A bus with devices of one kind. -/
structure Bus (R : Type) where
  /-- The largest address a device may have. -/
  maxAddress : Nat
  /-- The devices, each with the address under which it is found. -/
  devices : List (Nat × Device R)
  /-- The devices are in the order of their addresses, which are all different. -/
  ascending : (devices.map Prod.fst).Pairwise (· < ·)

namespace Bus

variable {R : Type}

/-- A bus without devices. -/
def empty (maxAddress : Nat) : Bus R := ⟨maxAddress, [], List.Pairwise.nil⟩

/-! ## Looking up -/

/-- The device at an address. -/
def get? (address : Nat) (bus : Bus R) : Option (Device R) := bus.devices.lookup address

/-- Whether an address is taken. -/
def contains (address : Nat) (bus : Bus R) : Bool := (bus.get? address).isSome

/-- All taken addresses, in ascending order. -/
def addresses (bus : Bus R) : List Nat := bus.devices.map Prod.fst

/-- The smallest taken address. -/
def first? (bus : Bus R) : Option Nat := bus.addresses.head?

/-- All devices in the order of their addresses. -/
def toList (bus : Bus R) : List (Device R) := bus.devices.map Prod.snd

/-- The number of devices. -/
def size (bus : Bus R) : Nat := bus.devices.length

/-! ## Changing devices -/

/-- Change the device at an address. -/
def modify (address : Nat) (f : Device R → Device R) (bus : Bus R) : Bus R where
  maxAddress := bus.maxAddress
  devices := bus.devices.map fun (a, d) => (a, if a = address then f d else d)
  ascending := by simpa [Function.comp_def] using bus.ascending

/-- Put another state of the device at an address in its place. -/
def replace (address : Nat) (device : Device R) (bus : Bus R) : Bus R :=
  bus.modify address fun _ => device

/-- Change all devices. -/
def map (f : Device R → Device R) (bus : Bus R) : Bus R where
  maxAddress := bus.maxAddress
  devices := bus.devices.map fun (a, d) => (a, f d)
  ascending := by simpa [Function.comp_def] using bus.ascending

/-- Put a device at an address. -/
def place (address : Nat) (device : Device R) (bus : Bus R) : Bus R where
  maxAddress := bus.maxAddress
  devices := placeAscending address device bus.devices
  ascending := pairwise_placeAscending bus.ascending

/-- Take the device at an address away. -/
def erase (address : Nat) (bus : Bus R) : Bus R where
  maxAddress := bus.maxAddress
  devices := bus.devices.filter fun entry => entry.1 ≠ address
  ascending := bus.ascending.sublist (List.Sublist.map _ List.filter_sublist)

/-- Add a device at its own address. -/
def insert (device : Device R) (bus : Bus R) : Except Fault (Bus R) :=
  if bus.maxAddress < device.address then .error (.addressOutOfRange device.address)
  else if bus.contains device.address then .error (.addressInUse device.address)
  else .ok (bus.place device.address device)

/-- Add devices one after the other, up to the first that is refused. -/
def insertAll (devices : List (Device R)) (bus : Bus R) : Except Fault (Bus R) :=
  devices.foldlM (fun bus device => bus.insert device) bus

/-- Move a device to another address. -/
def reassign (old new : Nat) (bus : Bus R) : Except Fault (Bus R) :=
  if bus.maxAddress < new then .error (.addressOutOfRange new)
  else match bus.get? old with
    | none => .error (.addressOutOfRange old)
    | some device =>
      if old = new then .ok bus
      else if bus.contains new then .error (.addressInUse new)
      else .ok ((bus.erase old).place new { device with address := new })

/-! ## The view after a change -/

/-- A value is looked up before or after a change of all values. -/
theorem lookup_map_snd {α β : Type} (f : Nat → α → β) (a : Nat) (l : List (Nat × α)) :
    (l.map fun (k, v) => (k, f k v)).lookup a = (l.lookup a).map (f a) := by
  induction l with
  | nil => rfl
  | cons entry rest ih =>
    obtain ⟨k, v⟩ := entry
    simp only [List.map_cons, List.lookup_cons]
    by_cases h : a = k
    · subst h
      simp
    · simp [beq_eq_false_iff_ne.2 h, ih]

/-- Only the device at the address is changed. -/
theorem get?_modify (address a : Nat) (f : Device R → Device R) (bus : Bus R) :
    (bus.modify address f).get? a =
      if a = address then (bus.get? a).map f else bus.get? a := by
  have h := lookup_map_snd (fun k d => if k = address then f d else d) a bus.devices
  simp only [get?, modify]
  rw [h]
  split <;> simp

/-- Only the device at the address is replaced. -/
theorem get?_replace (address a : Nat) (device : Device R) (bus : Bus R) :
    (bus.replace address device).get? a =
      if a = address then (bus.get? a).map fun _ => device else bus.get? a :=
  get?_modify address a (fun _ => device) bus

/-- The device at every address is changed. -/
theorem get?_map (f : Device R → Device R) (a : Nat) (bus : Bus R) :
    (bus.map f).get? a = (bus.get? a).map f :=
  lookup_map_snd (fun _ d => f d) a bus.devices

/-- A change of a device leaves the addresses in use. -/
@[simp] theorem addresses_modify (address : Nat) (f : Device R → Device R) (bus : Bus R) :
    (bus.modify address f).addresses = bus.addresses := by
  simp [addresses, modify, Function.comp_def]

/-- So does a replacement. -/
@[simp] theorem addresses_replace (address : Nat) (device : Device R) (bus : Bus R) :
    (bus.replace address device).addresses = bus.addresses :=
  addresses_modify address _ bus

/-- So does a change of all devices. -/
@[simp] theorem addresses_map (f : Device R → Device R) (bus : Bus R) :
    (bus.map f).addresses = bus.addresses := by
  simp [addresses, map, Function.comp_def]

end Bus

end WeatherBus
