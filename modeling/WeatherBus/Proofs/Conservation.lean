import WeatherBus.Proofs.Bus.Tracking
import WeatherBus.Proofs.Kinds

/-! # Devices are neither lost nor doubled

A device may move to another address, but it stays the same device: it keeps the tag with which it
started, and its serial number.

* **`Bus.Edit`** — a device is added to a bus by hand, or moved on it; **`Bus.edits`** — several of
  these, in any order, those that are refused included;
* **`Bus.Edited`** — what becomes of a bus by one of them;
* **`Bus.conserves_devices`** — no run of any kind of instrument, and no edits, bring a bus out of
  order or change which devices are on it. -/

namespace WeatherBus

open scoped List

namespace Device

/-- All of a device but its address. -/
def contents {R : Type} (d : Device R) : Text × Schedule × R := (d.serial, d.schedule, d.registers)

end Device

namespace Bus

open Device (contents)

variable {R : Type} {bus after : Bus R} {fault : Fault}

/-! ## Edits -/

/-- A change of a bus by hand. -/
inductive Edit (R : Type) where
  /-- Add a device at its own address. -/
  | insert (device : Device R)
  /-- Move a device. -/
  | reassign (old new : Nat)

/-- The bus after an edit, or why it is refused. -/
def attempt (edit : Edit R) (bus : Bus R) : Except Fault (Bus R) :=
  match edit with
  | .insert device => bus.insert device
  | .reassign old new => bus.reassign old new

/-- The bus after an edit, refused or not. -/
def edit (edit : Edit R) (bus : Bus R) : Bus R :=
  match bus.attempt edit with
  | .ok after => after
  | .error _ => bus

/-- The bus after several edits. -/
def edits (list : List (Edit R)) (bus : Bus R) : Bus R :=
  list.foldl (fun bus edit => bus.edit edit) bus

/-- The devices that an edit adds. -/
def addedBy (edit : Edit R) (bus : Bus R) : List (Device R) :=
  match edit, bus.attempt edit with
  | .insert device, .ok _ => [device]
  | _, _ => []

/-- The devices that several edits add. -/
def added : List (Edit R) → Bus R → List (Device R)
  | [], _ => []
  | edit :: rest, bus => bus.addedBy edit ++ added rest (bus.edit edit)

/-- Without edits nothing changes. -/
@[simp] theorem edits_nil (bus : Bus R) : bus.edits [] = bus := rfl

/-- Edits are made one after the other. -/
@[simp] theorem edits_cons (edit : Edit R) (rest : List (Edit R)) (bus : Bus R) :
    bus.edits (edit :: rest) = (bus.edit edit).edits rest := rfl

/-- An edit that succeeds is made. -/
theorem edit_of_ok {edit : Edit R} (h : bus.attempt edit = .ok after) : bus.edit edit = after := by
  rw [Bus.edit, h]

/-- An edit that fails changes nothing. -/
theorem edit_of_error {edit : Edit R} (h : bus.attempt edit = .error fault) :
    bus.edit edit = bus := by
  rw [Bus.edit, h]

/-- Why an edit is refused. -/
def Refuses (bus : Bus R) (fault : Fault) : Edit R → Prop
  | .insert d =>
    (bus.maxAddress < d.address ∧ fault = .addressOutOfRange d.address) ∨
      (d.address ≤ bus.maxAddress ∧ bus.contains d.address = true ∧
        fault = .addressInUse d.address)
  | .reassign old new =>
    (bus.maxAddress < new ∧ fault = .addressOutOfRange new) ∨
      (new ≤ bus.maxAddress ∧ bus.contains old = false ∧ fault = .addressOutOfRange old) ∨
        (new ≤ bus.maxAddress ∧ bus.contains old = true ∧ old ≠ new ∧ bus.contains new = true ∧
          fault = .addressInUse new)

/-- An edit is refused for one of these reasons, and only then. -/
theorem attempt_eq_error_iff {edit : Edit R} :
    bus.attempt edit = .error fault ↔ bus.Refuses fault edit := by
  cases edit with
  | insert d => exact insert_eq_error_iff
  | reassign old new => exact reassign_eq_error_iff

/-- What becomes of a bus by an edit. -/
inductive Edited (bus : Bus R) : Edit R → Bus R → Prop where
  /-- The device has been added, and nothing else has changed. -/
  | inserted {d : Device R} {after : Bus R} (hfree : bus.get? d.address = none)
      (hget : ∀ k, after.get? k = if k = d.address then some d else bus.get? k) :
      Edited bus (.insert d) after
  /-- The device has another address, and nothing else has changed. -/
  | reassigned {old new : Nat} {d : Device R} {after : Bus R} (hd : bus.get? old = some d)
      (hfree : old = new ∨ bus.get? new = none)
      (hget : ∀ k, after.get? k = if k = new then some { d with address := new }
        else if k = old then none else bus.get? k) :
      Edited bus (.reassign old new) after
  /-- The edit has been refused, and nothing has changed. -/
  | refused {edit : Edit R} {fault : Fault} (h : bus.attempt edit = .error fault)
      (hwhy : bus.Refuses fault edit) : Edited bus edit bus

/-- On a bus that is in order every edit ends in one of these ways. -/
theorem WellPlaced.edited (hp : bus.WellPlaced) (edit : Edit R) :
    bus.Edited edit (bus.edit edit) := by
  cases h : bus.attempt edit with
  | error fault =>
    rw [edit_of_error h]
    exact .refused h (attempt_eq_error_iff.1 h)
  | ok after =>
    rw [edit_of_ok h]
    cases edit with
    | insert d => exact .inserted (insert_eq_ok_iff.1 h).2.1 (get?_insert h)
    | reassign old new =>
      obtain ⟨-, d, hd, hwhere⟩ := reassign_eq_ok_iff.1 h
      have hfree : old = new ∨ bus.get? new = none :=
        hwhere.imp (fun hsame => hsame.1) fun hmoved => hmoved.2.1
      exact .reassigned hd hfree (get?_reassign h hd (hp.address_eq hd))

/-- An edit keeps the order. -/
theorem WellPlaced.edit (hp : bus.WellPlaced) (edit : Edit R) : (bus.edit edit).WellPlaced := by
  cases h : bus.attempt edit with
  | error fault => rwa [edit_of_error h]
  | ok after =>
    rw [edit_of_ok h]
    cases edit with
    | insert d => exact hp.insert h
    | reassign old new => exact hp.reassign h

/-- No edit changes the largest address. -/
theorem maxAddress_edit (edit : Edit R) (bus : Bus R) :
    (bus.edit edit).maxAddress = bus.maxAddress := by
  cases h : bus.attempt edit with
  | error fault => rw [edit_of_error h]
  | ok after =>
    rw [edit_of_ok h]
    cases edit with
    | insert d => exact maxAddress_insert h
    | reassign old new => exact maxAddress_reassign h

/-- Addresses aside, an edit changes no device but the one that it adds. -/
theorem contents_edit_perm (edit : Edit R) (bus : Bus R) :
    (bus.edit edit).toList.map Device.contents ~
      (bus.addedBy edit ++ bus.toList).map Device.contents := by
  cases h : bus.attempt edit with
  | error fault =>
    have hnone : bus.addedBy edit = [] := by
      cases edit <;> simp only [addedBy, h]
    rw [edit_of_error h, hnone, List.nil_append]
  | ok after =>
    rw [edit_of_ok h]
    -- A device is added only if the edit is not refused.
    cases edit with
    | insert d =>
      have hone : bus.addedBy (.insert d) = [d] := by simp only [addedBy, h]
      rw [hone]
      exact (toList_insert_perm h).map _
    | reassign old new =>
      have hnone : bus.addedBy (.reassign old new) = [] := by simp only [addedBy]
      rw [hnone, List.nil_append]
      exact map_reassign_perm _ (fun _ _ => rfl) h

/-- Edits keep the bus in order. -/
theorem WellPlaced.edits (hp : bus.WellPlaced) (list : List (Edit R)) :
    (bus.edits list).WellPlaced := by
  induction list generalizing bus with
  | nil => exact hp
  | cons edit rest ih => exact ih (hp.edit edit)

/-- Nor does any number of edits change the largest address. -/
theorem maxAddress_edits (list : List (Edit R)) (bus : Bus R) :
    (bus.edits list).maxAddress = bus.maxAddress := by
  induction list generalizing bus with
  | nil => rfl
  | cons edit rest ih => rw [edits_cons, ih, maxAddress_edit]

/-- Addresses aside, the devices after several edits are those before and those that were added. -/
theorem contents_edits_perm (list : List (Edit R)) (bus : Bus R) :
    (bus.edits list).toList.map Device.contents ~
      (bus.added list ++ bus.toList).map Device.contents := by
  induction list generalizing bus with
  | nil => exact List.Perm.refl _
  | cons edit rest ih =>
    rw [edits_cons, added]
    calc ((bus.edit edit).edits rest).toList.map contents
        ~ ((bus.edit edit).added rest ++ (bus.edit edit).toList).map contents := ih _
      _ = ((bus.edit edit).added rest).map contents ++ (bus.edit edit).toList.map contents :=
        List.map_append
      _ ~ ((bus.edit edit).added rest).map contents ++
            (bus.addedBy edit ++ bus.toList).map contents :=
        (contents_edit_perm edit bus).append_left _
      _ ~ (bus.addedBy edit ++ ((bus.edit edit).added rest ++ bus.toList)).map contents := by
        simp only [List.map_append]
        exact List.perm_append_comm_assoc _ _ _
      _ = (bus.addedBy edit ++ (bus.edit edit).added rest ++ bus.toList).map contents := by
        rw [List.append_assoc]

/-! ## Conservation -/

/-- What every run keeps of the bus it starts with. The tags tell which device is which. -/
structure Conserved {C : Type} [Instrument R C] (start : Bus R) (operations : List Operation) :
    Prop where
  wellPlaced : (start.run operations).WellPlaced
  maxAddress_eq : (start.run operations).maxAddress = start.maxAddress
  /-- With tags the run is the same. -/
  forget_eq : (start.track.run operations).forget = start.run operations
  /-- Each tag is on the bus as often as at the start, with the same serial number. -/
  identities : (start.track.run operations).toList.map (fun d => (d.origin, d.serial)) ~
    start.toList.map fun d => (d.address, d.serial)

/-- A bus that is in order conserves its devices in every run. -/
theorem WellPlaced.conserved {C : Type} [Instrument R C] [Conducted R] (hp : bus.WellPlaced)
    (operations : List Operation) : bus.Conserved operations where
  wellPlaced := invariant_wellPlaced.run operations hp
  maxAddress_eq := (invariant_maxAddress bus.maxAddress).run operations rfl
  forget_eq := by rw [forget_run, forget_track]
  identities := by
    have hstart : bus.track.toList.map (fun d => (d.origin, d.serial)) =
        bus.toList.map fun d => (d.address, d.serial) := by
      rw [toList, toList, devices_track, List.map_map, List.map_map, List.map_map]
      refine List.map_congr_left fun entry hentry => ?_
      have haddress := hp.address_eq (mem_devices_iff.1 hentry)
      simp only [Function.comp_apply, Device.origin_track, haddress]
      rfl
    exact (invariant_origins _).run operations (List.Perm.of_eq hstart)

end Bus

open Cli

/-- Whatever kind of instrument starts a bus, and whatever is done with it in any order, every
device is found at its own address, none of which is too large, and the devices are those that were
there at the start. Likewise for a bus that is edited by hand: its devices are those that were
added, and an edit that is refused changes nothing. -/
theorem Bus.conserves_devices :
    (∀ (kind : InstrumentKind) (start : Bus kind.Registers), kind.Starts start →
      ∀ operations : List Bus.Operation, start.Conserved operations) ∧
    ∀ (R : Type) (maxAddress : Nat) (list : List (Bus.Edit R)),
      ((Bus.empty maxAddress).edits list).WellPlaced ∧
      ((Bus.empty maxAddress).edits list).maxAddress = maxAddress ∧
      ((Bus.empty maxAddress).edits list).toList.map Device.contents ~
        ((Bus.empty maxAddress).added list).map Device.contents ∧
      ∀ edit : Bus.Edit R, ((Bus.empty maxAddress).edits list).Edited edit
        (((Bus.empty maxAddress).edits list).edit edit) := by
  refine ⟨fun kind start h operations => h.wellPlaced.conserved operations, ?_⟩
  intro R maxAddress list
  have hp := (Bus.wellPlaced_empty maxAddress : (Bus.empty maxAddress : Bus R).WellPlaced)
  have hcontents := Bus.contents_edits_perm list (Bus.empty maxAddress : Bus R)
  -- There is no device on an empty bus.
  have hempty : (Bus.empty maxAddress : Bus R).toList = [] := rfl
  rw [hempty, List.append_nil] at hcontents
  exact ⟨hp.edits list, Bus.maxAddress_edits list _, hcontents, (hp.edits list).edited⟩

/-- Three barometers of which two move, the second one with a frame that the others refuse. -/
theorem Bus.conserves_devices_barometers :
    let operations := [Operation.dispatch (Utf8.encode "01:N,5".toList), .markSent 7 [5],
      .dispatch (Utf8.encode "N,9".toList)]
    ∃ start, InstrumentKind.busBarometer.Starts start ∧ start.Conserved operations ∧
      start.addresses = [1, 2, 3] ∧ (start.run operations).addresses = [3, 5, 9] := by
  intro operations
  have hstarts : InstrumentKind.busBarometer.Starts _ := ⟨3, rfl⟩
  exact ⟨_, hstarts, Bus.conserves_devices.1 _ _ hstarts operations, by decide, by decide⟩

end WeatherBus
