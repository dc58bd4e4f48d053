import WeatherBus.Bus.Basic

/-! # Devices at their own addresses

On a bus that is in order every device is found at its own address, and no address is too large.

* **`Bus.Keyed`** — every device is found at its own address;
* **`Bus.WellPlaced`** — a bus is in order; it stays so when a device is added or moved, and under
  every change that leaves the addresses of the devices alone;
* **`Bus.get?_insert`**, **`Bus.get?_reassign`** — what is found at each address after a device was
  added or moved;
* **`Bus.insert_eq_error_iff`**, **`Bus.reassign_eq_error_iff`** — when either is refused;
* **`Bus.map_reassign_perm`** — moving a device neither loses nor doubles anything. -/

namespace WeatherBus

open scoped List

/-! ## Lists by ascending keys -/

section Ascending

variable {α : Type}

/-- What is found after a value was put at a key. -/
theorem lookup_placeAscending (key k : Nat) (value : α) (l : List (Nat × α)) :
    (placeAscending key value l).lookup k = if k = key then some value else l.lookup k := by
  induction l with
  | nil =>
    by_cases hk : k = key
    · rw [placeAscending, hk, List.lookup_cons_self, if_pos rfl]
    · rw [placeAscending, List.lookup_cons, beq_eq_false_iff_ne.2 hk, if_neg hk]
  | cons entry rest ih =>
    obtain ⟨j, v⟩ := entry
    -- The value goes in front of the first entry, in its place, or further back.
    simp only [placeAscending]
    by_cases hk : k = key
    · subst hk
      rw [if_pos rfl]
      split
      · exact List.lookup_cons_self
      · split
        · exact List.lookup_cons_self
        · rename_i hne
          rw [List.lookup_cons, beq_eq_false_iff_ne.2 hne, ih, if_pos rfl]
    · rw [if_neg hk] at ih ⊢
      split
      · rw [List.lookup_cons, beq_eq_false_iff_ne.2 hk]
      · split
        · rename_i heq
          subst heq
          rw [List.lookup_cons, List.lookup_cons, beq_eq_false_iff_ne.2 hk]
        · rw [List.lookup_cons, List.lookup_cons, ih]

/-- What is found after a key was taken away. -/
theorem lookup_filter_ne (key k : Nat) (l : List (Nat × α)) :
    (l.filter fun entry => entry.1 ≠ key).lookup k = if k = key then none else l.lookup k := by
  induction l with
  | nil => simp
  | cons entry rest ih =>
    obtain ⟨j, v⟩ := entry
    rw [List.filter_cons]
    by_cases hj : j = key
    · subst hj
      rw [if_neg (by simp), ih, List.lookup_cons]
      by_cases hk : k = j
      · rw [if_pos hk, if_pos hk]
      · rw [if_neg hk, if_neg hk, beq_eq_false_iff_ne.2 hk]
    · rw [if_pos (by simpa using hj), List.lookup_cons, List.lookup_cons, ih]
      by_cases hk : k = key
      · subst hk
        rw [if_pos rfl, beq_eq_false_iff_ne.2 (Ne.symm hj), if_pos rfl]
      · rw [if_neg hk, if_neg hk]

/-- A value at a new key is added to the list. -/
theorem placeAscending_perm {key : Nat} {value : α} {l : List (Nat × α)}
    (h : l.lookup key = none) : placeAscending key value l ~ (key, value) :: l := by
  induction l with
  | nil => exact List.Perm.refl _
  | cons entry rest ih =>
    obtain ⟨j, v⟩ := entry
    have hne : key ≠ j := by
      rintro rfl
      rw [List.lookup_cons_self] at h
      exact Option.some_ne_none _ h
    rw [List.lookup_cons, beq_eq_false_iff_ne.2 hne] at h
    simp only [placeAscending, if_neg hne]
    split
    · exact List.Perm.refl _
    · exact ((ih h).cons _).trans (List.Perm.swap _ _ _)

/-- Taking a key away takes away the one value at it. -/
theorem perm_cons_filter_ne {key : Nat} {value : α} {l : List (Nat × α)}
    (ascending : (l.map Prod.fst).Pairwise (· < ·)) (h : l.lookup key = some value) :
    l ~ (key, value) :: l.filter fun entry => entry.1 ≠ key := by
  induction l with
  | nil => simp at h
  | cons entry rest ih =>
    obtain ⟨j, v⟩ := entry
    rw [List.map_cons, List.pairwise_cons] at ascending
    rw [List.lookup_cons] at h
    by_cases hk : key = j
    · subst hk
      rw [beq_self_eq_true] at h
      obtain rfl : v = value := Option.some.inj h
      -- The keys ascend, so the key does not come again.
      have hrest : (rest.filter fun entry => entry.1 ≠ key) = rest := by
        rw [List.filter_eq_self]
        intro entry hentry
        have := ascending.1 entry.1 (List.mem_map_of_mem hentry)
        simpa using (Nat.ne_of_gt this)
      rw [List.filter_cons, if_neg (by simp), hrest]
    · rw [beq_eq_false_iff_ne.2 hk] at h
      rw [List.filter_cons, if_pos (by simpa using Ne.symm hk)]
      exact ((ih ascending.2 h).cons _).trans (List.Perm.swap _ _ _)

end Ascending

namespace Bus

variable {R : Type} {bus after : Bus R} {a k old new : Nat} {d : Device R} {fault : Fault}

/-! ## The view of a bus -/

/-- The entries of a bus are what is found on it. -/
theorem mem_devices_iff : (a, d) ∈ bus.devices ↔ bus.get? a = some d := by
  constructor
  · intro h
    obtain ⟨l₁, l₂, hl⟩ := List.append_of_mem h
    -- The addresses ascend, so no entry in front has the same one.
    have hfront : ∀ entry ∈ l₁, (a != entry.1) = true := by
      intro entry hentry
      have hp := bus.ascending
      rw [hl, List.map_append, List.pairwise_append] at hp
      have := hp.2.2 entry.1 (List.mem_map_of_mem hentry) a (by simp)
      exact bne_iff_ne.2 (Nat.ne_of_gt this)
    rw [get?, hl, List.lookup_append, List.lookup_eq_none_iff.2 hfront, Option.none_or,
      List.lookup_cons_self]
  · intro h
    obtain ⟨l₁, l₂, hl, -⟩ := List.lookup_eq_some_iff.1 h
    rw [hl]
    exact List.mem_append_right _ List.mem_cons_self

/-- The devices of a bus are what is found on it. -/
theorem mem_toList_iff : d ∈ bus.toList ↔ ∃ a, bus.get? a = some d := by
  rw [toList, List.mem_map]
  constructor
  · rintro ⟨⟨a, e⟩, he, rfl⟩
    exact ⟨a, mem_devices_iff.1 he⟩
  · rintro ⟨a, h⟩
    exact ⟨(a, d), mem_devices_iff.2 h, rfl⟩

/-- The taken addresses are those at which a device is found. -/
theorem mem_addresses_iff : a ∈ bus.addresses ↔ ∃ d, bus.get? a = some d := by
  rw [addresses, List.mem_map]
  constructor
  · rintro ⟨⟨k, d⟩, h, rfl⟩
    exact ⟨d, mem_devices_iff.1 h⟩
  · rintro ⟨d, h⟩
    exact ⟨(a, d), mem_devices_iff.2 h, rfl⟩

/-- The taken addresses are all different. -/
theorem nodup_addresses (bus : Bus R) : bus.addresses.Nodup := bus.ascending.imp Nat.ne_of_lt

/-- An address is taken if a device is found at it. -/
theorem contains_iff : bus.contains a = true ↔ ∃ d, bus.get? a = some d := Option.isSome_iff_exists

/-- Where no device is found there is none. -/
theorem contains_eq_false_iff : bus.contains a = false ↔ bus.get? a = none := by
  rw [contains, Option.isSome_eq_false_iff, Option.isNone_iff_eq_none]

/-- What is found after a device was put at an address. -/
theorem get?_place (a k : Nat) (d : Device R) (bus : Bus R) :
    (bus.place a d).get? k = if k = a then some d else bus.get? k :=
  lookup_placeAscending a k d bus.devices

/-- What is found after a device was taken away. -/
theorem get?_erase (a k : Nat) (bus : Bus R) :
    (bus.erase a).get? k = if k = a then none else bus.get? k :=
  lookup_filter_ne a k bus.devices

/-- Putting the device of an address in its own place changes nothing. -/
theorem replace_self (h : bus.get? a = some d) : bus.replace a d = bus := by
  have hsame : (bus.devices.map fun entry => (entry.1, if entry.1 = a then d else entry.2)) =
      bus.devices := by
    refine (List.map_congr_left ?_).trans (List.map_id _)
    rintro ⟨k, e⟩ he
    -- Only the entry at `a` is touched, and it gets what it has.
    by_cases hk : k = a
    · subst hk
      have := (mem_devices_iff.1 he).symm.trans h
      rw [if_pos rfl, ← Option.some.inj this, id]
    · rw [if_neg hk, id]
  cases bus
  simpa [replace, modify] using hsame

/-- Changing a device does not matter for what the change leaves alone. -/
theorem map_toList_modify {α : Type} {g : Device R → α} {f : Device R → Device R}
    (hf : ∀ {d}, bus.get? a = some d → g (f d) = g d) :
    (bus.modify a f).toList.map g = bus.toList.map g := by
  rw [toList, toList, modify, List.map_map, List.map_map, List.map_map]
  refine List.map_congr_left ?_
  rintro ⟨k, d⟩ hd
  simp only [Function.comp_apply]
  split
  · rename_i hk
    subst hk
    exact hf (mem_devices_iff.1 hd)
  · rfl

/-- Changing all devices does not matter for what the change leaves alone. -/
theorem map_toList_map {α : Type} {g : Device R → α} {f : Device R → Device R}
    (hf : ∀ d, g (f d) = g d) : (bus.map f).toList.map g = bus.toList.map g := by
  rw [toList, toList, map, List.map_map, List.map_map, List.map_map]
  exact List.map_congr_left fun entry _ => hf entry.2

/-! ## Adding a device -/

/-- When a device is added. -/
theorem insert_eq_ok_iff : bus.insert d = .ok after ↔
    d.address ≤ bus.maxAddress ∧ bus.get? d.address = none ∧ after = bus.place d.address d := by
  rw [insert]
  split
  · rename_i h
    simp [Nat.not_le.2 h]
  · rename_i h
    split
    · rename_i hc
      obtain ⟨e, he⟩ := contains_iff.1 hc
      simp [he]
    · rename_i hc
      rw [Bool.not_eq_true, contains_eq_false_iff] at hc
      simp [hc, Nat.not_lt.1 h, eq_comm]

/-- When a device is refused, and why. -/
theorem insert_eq_error_iff : bus.insert d = .error fault ↔
    (bus.maxAddress < d.address ∧ fault = .addressOutOfRange d.address) ∨
      (d.address ≤ bus.maxAddress ∧ bus.contains d.address = true ∧
        fault = .addressInUse d.address) := by
  rw [insert]
  split
  · rename_i h
    simp only [Except.error.injEq, h, Nat.not_le.2 h, true_and, false_and, or_false]
    exact eq_comm
  · rename_i h
    split
    · rename_i hc
      simp only [Except.error.injEq, h, hc, Nat.not_lt.1 h, true_and, false_and, false_or]
      exact eq_comm
    · rename_i hc
      simp only [reduceCtorEq, h, hc, false_and, and_false, or_false]

/-- An added device is found at its address, and all others where they were. -/
theorem get?_insert (h : bus.insert d = .ok after) (k : Nat) :
    after.get? k = if k = d.address then some d else bus.get? k := by
  obtain ⟨-, -, rfl⟩ := insert_eq_ok_iff.1 h
  exact get?_place _ _ _ _

/-- Adding a device adds this one device. -/
theorem toList_insert_perm (h : bus.insert d = .ok after) : after.toList ~ d :: bus.toList := by
  obtain ⟨-, hfree, rfl⟩ := insert_eq_ok_iff.1 h
  exact (placeAscending_perm hfree).map Prod.snd

/-- A new device does not change the largest address. -/
theorem maxAddress_insert (h : bus.insert d = .ok after) : after.maxAddress = bus.maxAddress := by
  obtain ⟨-, -, rfl⟩ := insert_eq_ok_iff.1 h
  rfl

/-- What holds of a bus, and still holds when one of some devices is added, holds when they all have
been added. -/
theorem insertAll_induction {Q : Bus R → Prop} {devices : List (Device R)}
    (hinsert : ∀ {bus after : Bus R} {d : Device R}, d ∈ devices → bus.insert d = .ok after →
      Q bus → Q after)
    (h : bus.insertAll devices = .ok after) (hq : Q bus) : Q after := by
  induction devices generalizing bus with
  | nil =>
    obtain rfl := Except.ok.inj h
    exact hq
  | cons d rest ih =>
    rw [insertAll, List.foldlM_cons] at h
    cases hd : bus.insert d with
    | error fault =>
      -- The first refusal ends everything, so there was none.
      rw [hd] at h
      exact absurd h (by simp [bind, Except.bind])
    | ok next =>
      rw [hd] at h
      exact ih (fun hmem => hinsert (List.mem_cons_of_mem _ hmem)) h
        (hinsert List.mem_cons_self hd hq)

/-- New devices at the first addresses are all found there. -/
theorem insertAll_range {maxAddress : Nat} {new : Nat → Device R}
    (hnew : ∀ address, (new address).address = address) {count : Nat}
    (h : count ≤ maxAddress + 1) :
    ∃ bus, (empty maxAddress).insertAll ((List.range count).map new) = .ok bus ∧
      bus.maxAddress = maxAddress ∧
      ∀ a, bus.get? a = if a < count then some (new a) else none := by
  induction count with
  | zero => exact ⟨empty maxAddress, rfl, rfl, fun a => rfl⟩
  | succ count ih =>
    obtain ⟨bus, hbus, hmax, hget⟩ := ih (Nat.le_of_succ_le h)
    have hroom : (new count).address ≤ bus.maxAddress := by
      rw [hnew, hmax]
      exact Nat.le_of_lt_succ h
    have hfree : bus.get? (new count).address = none := by
      rw [hnew, hget, if_neg (Nat.lt_irrefl count)]
    have hnext : bus.insert (new count) = .ok (bus.place count (new count)) :=
      insert_eq_ok_iff.2 ⟨hroom, hfree, by rw [hnew]⟩
    refine ⟨bus.place count (new count), ?_, hmax, fun a => ?_⟩
    · rw [insertAll] at hbus
      rw [List.range_succ, List.map_append, insertAll, List.foldlM_append, hbus]
      simp only [List.map_cons, List.map_nil, List.foldlM_cons, List.foldlM_nil]
      exact (bind_pure _).trans hnext
    · rw [get?_place, hget]
      rcases Nat.lt_trichotomy a count with hlt | rfl | hgt
      · rw [if_neg (Nat.ne_of_lt hlt), if_pos hlt, if_pos (Nat.lt_succ_of_lt hlt)]
      · rw [if_pos rfl, if_pos (Nat.lt_succ_self a)]
      · rw [if_neg (Nat.ne_of_gt hgt), if_neg (Nat.not_lt_of_gt hgt), if_neg (by omega)]

/-! ## Moving a device -/

/-- When a device is moved. -/
theorem reassign_eq_ok_iff : bus.reassign old new = .ok after ↔
    new ≤ bus.maxAddress ∧ ∃ d, bus.get? old = some d ∧
      ((old = new ∧ after = bus) ∨ (old ≠ new ∧ bus.get? new = none ∧
        after = (bus.erase old).place new { d with address := new })) := by
  rw [reassign]
  -- The checks come in this order: is the new address too large, is there a device at the old one,
  -- is it there already, is the new address taken.
  split
  · rename_i h
    simp only [reduceCtorEq, Nat.not_le.2 h, false_and]
  · rename_i h
    simp only [Nat.not_lt.1 h, true_and]
    split
    · rename_i hnone
      simp only [reduceCtorEq, hnone, false_and, exists_false]
    · rename_i device hsome
      simp only [hsome, Option.some.injEq, exists_eq_left']
      split
      · rename_i heq
        simp only [Except.ok.injEq, heq, true_and, ne_eq, not_true_eq_false, false_and, or_false]
        exact eq_comm
      · rename_i hne
        split
        · rename_i hc
          obtain ⟨e, he⟩ := contains_iff.1 hc
          simp only [reduceCtorEq, hne, he, false_and, and_false, or_false]
        · rename_i hc
          rw [Bool.not_eq_true, contains_eq_false_iff] at hc
          simp only [Except.ok.injEq, hne, hc, ne_eq, not_false_eq_true, true_and, false_and,
            false_or]
          exact eq_comm

/-- When a device is not moved, and why. -/
theorem reassign_eq_error_iff : bus.reassign old new = .error fault ↔
    (bus.maxAddress < new ∧ fault = .addressOutOfRange new) ∨
      (new ≤ bus.maxAddress ∧ bus.contains old = false ∧ fault = .addressOutOfRange old) ∨
        (new ≤ bus.maxAddress ∧ bus.contains old = true ∧ old ≠ new ∧ bus.contains new = true ∧
          fault = .addressInUse new) := by
  rw [reassign]
  split
  · rename_i h
    simp only [Except.error.injEq, h, Nat.not_le.2 h, true_and, false_and, or_false]
    exact eq_comm
  · rename_i h
    simp only [h, Nat.not_lt.1 h, true_and, false_and, false_or]
    split
    · rename_i hnone
      have hold : bus.contains old = false := contains_eq_false_iff.2 hnone
      simp only [Except.error.injEq, hold, true_and, Bool.false_eq_true, false_and, or_false]
      exact eq_comm
    · rename_i device hsome
      have hold : bus.contains old = true := contains_iff.2 ⟨device, hsome⟩
      simp only [hold, Bool.true_eq_false, true_and, false_and, false_or]
      split
      · rename_i heq
        simp only [reduceCtorEq, heq, ne_eq, not_true_eq_false, false_and]
      · rename_i hne
        split
        · rename_i hc
          simp only [Except.error.injEq, hne, hc, ne_eq, not_false_eq_true, true_and]
          exact eq_comm
        · rename_i hc
          simp only [reduceCtorEq, hc, false_and, and_false]

/-- Neither does a move. -/
theorem maxAddress_reassign (h : bus.reassign old new = .ok after) :
    after.maxAddress = bus.maxAddress := by
  obtain ⟨-, d, -, ⟨-, rfl⟩ | ⟨-, -, rfl⟩⟩ := reassign_eq_ok_iff.1 h <;> rfl

/-- A moved device is found at its new address only, and all others where they were. -/
theorem get?_reassign (h : bus.reassign old new = .ok after) (hd : bus.get? old = some d)
    (hold : d.address = old) (k : Nat) :
    after.get? k = if k = new then some { d with address := new }
      else if k = old then none else bus.get? k := by
  obtain ⟨-, e, he, ⟨rfl, rfl⟩ | ⟨hne, -, rfl⟩⟩ := reassign_eq_ok_iff.1 h
  · obtain rfl : e = d := Option.some.inj (he.symm.trans hd)
    by_cases hk : k = old
    · subst hk
      rw [if_pos rfl, hd, ← hold]
    · rw [if_neg hk, if_neg hk]
  · obtain rfl : e = d := Option.some.inj (he.symm.trans hd)
    rw [get?_place, get?_erase]

/-- Moving a device neither loses nor doubles anything that does not depend on addresses. -/
theorem map_reassign_perm {α : Type} (g : Device R → α)
    (hg : ∀ (d : Device R) (a : Nat), g { d with address := a } = g d)
    (h : bus.reassign old new = .ok after) : after.toList.map g ~ bus.toList.map g := by
  obtain ⟨-, d, hd, ⟨-, rfl⟩ | ⟨hne, hfree, rfl⟩⟩ := reassign_eq_ok_iff.1 h
  · exact List.Perm.refl _
  · have hfree' : (bus.erase old).get? new = none := by
      rw [get?_erase, if_neg (Ne.symm hne), hfree]
    -- The device is taken out at the old address and put in at the new one.
    have hout := (perm_cons_filter_ne bus.ascending hd).map fun entry => g entry.2
    have hplaced : placeAscending new { d with address := new } (bus.erase old).devices ~
        (new, { d with address := new }) :: (bus.erase old).devices := placeAscending_perm hfree'
    have hin := hplaced.map fun entry => g entry.2
    rw [List.map_cons] at hout hin
    rw [hg] at hin
    rw [toList, toList, List.map_map, List.map_map]
    exact hin.trans hout.symm

/-! ## Order -/

/-- Every device is found at its own address. -/
structure Keyed (bus : Bus R) : Prop where
  address_eq : ∀ {k : Nat} {d : Device R}, bus.get? k = some d → d.address = k

/-- Moving a device keeps every device at its own address. -/
theorem Keyed.reassign (hk : bus.Keyed) (h : bus.reassign old new = .ok after) : after.Keyed := by
  obtain ⟨-, d, hd, -⟩ := reassign_eq_ok_iff.1 h
  -- The moved device has the address at which it is found, and the others have not been touched.
  constructor
  intro k e he
  rw [get?_reassign h hd (hk.address_eq hd)] at he
  split at he
  · rename_i hk
    rw [hk, ← Option.some.inj he]
  · split at he
    · exact absurd he (by simp)
    · exact hk.address_eq he

/-- Every device is found at its own address, and no address is too large. -/
structure WellPlaced (bus : Bus R) : Prop where
  address_eq : ∀ {k : Nat} {d : Device R}, bus.get? k = some d → d.address = k
  le_maxAddress : ∀ {k : Nat} {d : Device R}, bus.get? k = some d → k ≤ bus.maxAddress

/-- A bus without devices is in order. -/
theorem wellPlaced_empty (maxAddress : Nat) : (empty maxAddress : Bus R).WellPlaced where
  address_eq h := by simp [get?, empty] at h
  le_maxAddress h := by simp [get?, empty] at h

/-- Adding a device keeps the order. -/
theorem WellPlaced.insert (hp : bus.WellPlaced) (h : bus.insert d = .ok after) :
    after.WellPlaced where
  address_eq {k e} he := by
    rw [get?_insert h] at he
    split at he
    · rename_i hk
      rw [hk, ← Option.some.inj he]
    · exact hp.address_eq he
  le_maxAddress {k e} he := by
    rw [get?_insert h] at he
    rw [maxAddress_insert h]
    split at he
    · rename_i hk
      exact hk ▸ (insert_eq_ok_iff.1 h).1
    · exact hp.le_maxAddress he

/-- On a bus that is in order, each device is found at its address. -/
theorem WellPlaced.keyed (hp : bus.WellPlaced) : bus.Keyed := ⟨hp.address_eq⟩

/-- Moving a device keeps the order. -/
theorem WellPlaced.reassign (hp : bus.WellPlaced) (h : bus.reassign old new = .ok after) :
    after.WellPlaced where
  address_eq := (hp.keyed.reassign h).address_eq
  le_maxAddress {k e} he := by
    obtain ⟨hle, d, hd, -⟩ := reassign_eq_ok_iff.1 h
    rw [get?_reassign h hd (hp.address_eq hd)] at he
    rw [maxAddress_reassign h]
    split at he
    · rename_i hk
      exact hk ▸ hle
    · split at he
      · exact absurd he (by simp)
      · exact hp.le_maxAddress he

/-- Changing a device without moving it keeps the order. -/
theorem WellPlaced.modify (hp : bus.WellPlaced) {f : Device R → Device R}
    (hf : ∀ {d}, bus.get? a = some d → (f d).address = d.address) :
    (bus.modify a f).WellPlaced := by
  constructor
  · intro k e he
    rw [get?_modify] at he
    split at he
    · rename_i hk
      subst hk
      obtain ⟨d, hd, rfl⟩ := Option.map_eq_some_iff.1 he
      rw [hf hd, hp.address_eq hd]
    · exact hp.address_eq he
  · intro k e he
    rw [get?_modify] at he
    split at he
    · obtain ⟨d, hd, -⟩ := Option.map_eq_some_iff.1 he
      exact hp.le_maxAddress hd
    · exact hp.le_maxAddress he

/-- Changing all devices without moving any keeps the order. -/
theorem WellPlaced.map (hp : bus.WellPlaced) {f : Device R → Device R}
    (hf : ∀ d, (f d).address = d.address) : (bus.map f).WellPlaced := by
  constructor
  · intro k e he
    rw [get?_map] at he
    obtain ⟨d, hd, rfl⟩ := Option.map_eq_some_iff.1 he
    rw [hf, hp.address_eq hd]
  · intro k e he
    rw [get?_map] at he
    obtain ⟨d, hd, -⟩ := Option.map_eq_some_iff.1 he
    exact hp.le_maxAddress hd

/-- On a bus that is in order no two places hold devices of one address. -/
theorem WellPlaced.get?_eq_some_iff (hp : bus.WellPlaced) :
    bus.get? a = some d ↔ d ∈ bus.toList ∧ d.address = a := by
  rw [mem_toList_iff]
  constructor
  · intro h
    exact ⟨⟨a, h⟩, hp.address_eq h⟩
  · rintro ⟨⟨k, h⟩, rfl⟩
    rwa [← hp.address_eq h] at h

end Bus

end WeatherBus
