import WeatherBus.Proofs.Bus.Broadcast

/-! # Frames for one device

A frame with an address is for the one device there, which has the only turn.

* **`Bus.dispatch_of_singleton`** — such a frame does what the turn of the device does;
* **`Bus.permit_eq_ok`** — when a device may carry out a request;
* **`Bus.exists_dispatchTo`** — a device that carries out a request is afterwards at the address
  that it asks for, and answers from there. -/

namespace WeatherBus

/-- A device that has nothing to say adds nothing to the answer. -/
theorem Answer.append_none (ans : Answer) : ans ++ Answer.none = ans := by
  obtain ⟨reply, measurements, wake, faults⟩ := ans
  have hparts : (⟨reply, measurements, wake, faults⟩ : Answer) ++ Answer.none =
      ⟨reply ++ [], measurements ++ [], wake || false, faults ++ []⟩ := rfl
  rw [hparts, List.append_nil, List.append_nil, Bool.or_false, List.append_nil]

namespace Bus

variable {R C : Type} [Instrument R C] {request : Request C} {bus : Bus R} {a new : Nat}
  {d changed : Device R} {outcome : Outcome} {fault : Fault} {frame : Bytes}

/-- A request for one device is carried out by it. -/
theorem dispatchAll_singleton (request : Request C) (a : Nat) (bus : Bus R) :
    bus.dispatchAll request [a] = bus.dispatchTo request a :=
  Prod.ext rfl (Answer.append_none _)

/-- The address of the only device. -/
theorem addresses_eq_singleton (hone : bus.size = 1) (hd : bus.get? a = some d) :
    bus.addresses = [a] := by
  obtain ⟨b, hb⟩ := List.length_eq_one_iff.1 ((List.length_map _).trans hone)
  have hmem := mem_addresses_iff.2 ⟨d, hd⟩
  rw [addresses, hb, List.mem_singleton] at hmem
  rw [addresses, hb, hmem]

/-- A frame for one device does what the turn of this device does. -/
theorem dispatch_of_singleton (hread : Instrument.read R frame = .ok request)
    (hresolve : bus.resolve request.target = .ok [a]) :
    bus.dispatch frame = bus.dispatchTo request a := by
  rw [dispatch_of_read hread hresolve, dispatchAll_singleton]

/-- A frame for the device at an address is one of these. -/
theorem dispatch_of_address (hread : Instrument.read R frame = .ok request)
    (htarget : request.target = .address a) (ha : bus.contains a = true) :
    bus.dispatch frame = bus.dispatchTo request a := by
  refine dispatch_of_singleton hread ?_
  rw [htarget, resolve, if_pos ha]

/-- A device may carry out a request whose checksum is right, or left out where none is needed, and
that moves the device to no address that another one has. -/
theorem permit_eq_ok
    (hchecksum : request.checksum = .valid ∨
      (request.checksum = .absent ∧ Instrument.needsChecksum d = false))
    (hfree : ∀ new, Instrument.requestedAddress request d = some new →
      new = d.address ∨ bus.contains new = false) : bus.permit request d = .ok () := by
  have hgate (new : Nat) (hnew : Instrument.requestedAddress request d = some new) :
      (new ≠ d.address && bus.contains new) = false := by
    rcases hfree new hnew with hself | hnone
    · simp [hself]
    · simp [hnone]
  rw [permit]
  cases hasked : Instrument.requestedAddress request d with
  | none =>
    rcases hchecksum with hvalid | ⟨habsent, hneeds⟩
    · rw [hvalid]
      rfl
    · simp only [habsent, hneeds, Bool.false_eq_true, if_false]
      rfl
  | some new =>
    rcases hchecksum with hvalid | ⟨habsent, hneeds⟩
    · simp only [hvalid, hgate new hasked, Bool.false_eq_true, if_false]
      rfl
    · simp only [habsent, hneeds, hgate new hasked, Bool.false_eq_true, if_false]
      rfl

/-- A device that refuses a request stays where it is. -/
theorem dispatchTo_of_error (hd : bus.get? a = some d) (hperm : bus.permit request d = .ok ())
    (happly : Instrument.apply request d = (changed, .error fault)) :
    bus.dispatchTo request a = (bus.replace a changed, refusal request changed true fault) := by
  simp only [dispatchTo, hd, hperm, happly]

variable [Conducted R]

/-- A device that carries out a request is afterwards at the address that it asks for, if that is
free, and answers from there. -/
theorem exists_dispatchTo (hp : bus.WellPlaced) (hd : bus.get? a = some d)
    (hperm : bus.permit request d = .ok ())
    (happly : Instrument.apply request d = (changed, .ok outcome))
    (hnew : outcome.moveTo.getD a = new) (hle : new ≤ bus.maxAddress)
    (hfree : new = a ∨ bus.get? new = none) :
    ∃ after, bus.dispatchTo request a =
        (after, answer request { changed with address := new } outcome) ∧
      ∀ k, after.get? k = if k = new then some { changed with address := new }
        else if k = a then none else bus.get? k := by
  have haddress : changed.address = a := by
    have hretained := (Conducted.conduct request d).retains.address
    rw [happly] at hretained
    exact hretained.trans (hp.address_eq hd)
  have hreplaced (k : Nat) : (bus.replace a changed).get? k =
      if k = a then some changed else bus.get? k := by
    rw [get?_replace]
    split
    · rename_i hk
      rw [hk, hd, Option.map_some]
    · rfl
  simp only [dispatchTo, hd, hperm, happly, settle]
  cases hmove : outcome.moveTo with
  | none =>
    -- It asks for no move, so it is already where it belongs.
    obtain rfl : a = new := by rwa [hmove] at hnew
    have hself : { changed with address := a } = changed := by rw [← haddress]
    refine ⟨bus.replace a changed, by rw [hself], fun k => ?_⟩
    rw [hreplaced, hself]
    split <;> rfl
  | some asked =>
    obtain rfl : asked = new := by rwa [hmove] at hnew
    have hthere : (bus.replace a changed).get? a = some changed := by rw [hreplaced, if_pos rfl]
    have hvacant : asked = a ∨ (bus.replace a changed).get? asked = none := by
      refine hfree.imp_right fun hnone => ?_
      rw [get?_replace, hnone]
      split <;> rfl
    rw [haddress]
    cases hmoved : (bus.replace a changed).reassign a asked with
    | ok after =>
      refine ⟨after, by simp only [hmoved], fun k => ?_⟩
      rw [get?_reassign hmoved hthere haddress, hreplaced]
      split
      · rfl
      · split <;> rfl
    | error fault =>
      exfalso
      rcases reassign_eq_error_iff.1 hmoved with ⟨hlt, -⟩ | ⟨-, hnone, -⟩ | ⟨-, -, hne, htaken, -⟩
      · exact absurd hle (Nat.not_le.2 hlt)
      · rw [contains_eq_false_iff, hthere] at hnone
        exact absurd hnone (by simp)
      · rcases hvacant with hself | hnone
        · exact hne hself.symm
        · rw [contains, hnone] at htaken
          exact absurd htaken (by simp)

end Bus

end WeatherBus
