import WeatherBus.Proofs.Bus.Visit

/-! # Refused commands

A device that refuses a command is as before. The one exception are commands that set several
fields, of which those in front of a wrong parameter may have been set.

* **`Bus.get?_dispatchTo_of_ne`** — the turn of one device leaves the others alone;
* **`Bus.dispatchTo_of_mem_faults`** — a device that refuses a request in its turn is as before,
  also if it has carried out the request and then cannot be moved;
* **`Bus.get?_dispatchAll_of_mem_turns`** — likewise for all turns of a frame;
* **`Bus.refused_devices_unchanged`** — in every run, for every frame and kind of instrument. -/

namespace WeatherBus

namespace Bus

variable {R C : Type} [Instrument R C] {request : Request C} {bus : Bus R} {a b new : Nat}
  {d : Device R} {ans : Answer} {fault : Fault} {addresses : List Nat}

/-! ## Addresses of a request -/

/-- A request that is permitted moves no device to an address that another one has. -/
theorem contains_of_permit (hp : bus.permit request d = .ok ())
    (hr : Instrument.requestedAddress request d = some new) :
    new = d.address ∨ bus.contains new = false := by
  by_cases hself : new = d.address
  · exact .inl hself
  · right
    cases hc : bus.contains new with
    | false => rfl
    | true =>
      -- The last check of `permit` fails, whatever the checksum is.
      have hbad : bus.permit request d ≠ .ok () := by
        simp only [permit, hr, hc, bind, Except.bind, pure, Except.pure, throw,
          throwThe, MonadExceptOf.throw]
        repeat' split
        all_goals simp_all
      exact absurd hp hbad

/-- The devices that a request is for are on the bus. -/
theorem contains_of_resolve {target : Target} (h : bus.resolve target = .ok addresses)
    (ha : a ∈ addresses) : bus.contains a = true := by
  cases target with
  | address k =>
    rw [resolve] at h
    split at h
    · rename_i hk
      obtain rfl := Except.ok.inj h
      rwa [List.mem_singleton.1 ha]
    · exact absurd h (by simp)
  | all =>
    obtain rfl := Except.ok.inj h
    exact contains_iff.2 (mem_addresses_iff.1 ha)
  | first =>
    obtain rfl := Except.ok.inj h
    refine contains_iff.2 (mem_addresses_iff.1 ?_)
    exact List.mem_of_mem_head? (Option.mem_toList.1 ha)

/-- A request is for no device twice. -/
theorem nodup_of_resolve {target : Target} (h : bus.resolve target = .ok addresses) :
    addresses.Nodup := by
  cases target with
  | address k =>
    rw [resolve] at h
    split at h
    · obtain rfl := Except.ok.inj h
      exact List.pairwise_singleton _ k
    · exact absurd h (by simp)
  | all =>
    obtain rfl := Except.ok.inj h
    exact bus.nodup_addresses
  | first =>
    obtain rfl := Except.ok.inj h
    cases bus.first? with
    | none => exact List.Pairwise.nil
    | some k => exact List.pairwise_singleton _ k

/-! ## One turn -/

/-- A refusal tells its fault. -/
theorem faults_refusal (wake : Bool) : (refusal request d wake fault).faults = [fault] := rfl

/-- An answer tells no fault. -/
theorem faults_answer (outcome : Outcome) : (answer request d outcome).faults = [] := by
  rw [answer]
  cases outcome.reply <;> rfl

variable [Conducted R]

/-- What another device finds at its address does not change by the turn of a device. -/
theorem get?_dispatchTo_of_ne (hp : bus.WellPlaced) (hne : a ≠ b) (hd : bus.get? a = some d) :
    (bus.dispatchTo request b).1.get? a = some d :=
  get?_dispatchTo_of_keyed (fun request d => (Conducted.conduct request d).retains.address) hp.keyed
    hne hd

/-- A device that refuses a request in its turn is as before, unless the request sets several fields
and one of its parameters is wrong. -/
theorem dispatchTo_of_mem_faults (hp : bus.WellPlaced)
    (hbound : ∀ {d new}, bus.get? a = some d →
      Instrument.requestedAddress request d = some new → new ≤ bus.maxAddress)
    (hf : fault ∈ (bus.dispatchTo request a).2.faults)
    (hone : ¬ (Conducted.setsSeveral R request.command = true ∧ fault.isParameterFault = true)) :
    ∃ d, bus.get? a = some d ∧ (bus.dispatchTo request a).1 = bus := by
  have hturn := turn_dispatchTo request a bus
  generalize bus.dispatchTo request a = result at hturn hf
  cases hturn with
  | absent => simp [Answer.none] at hf
  | forbidden hd => exact ⟨_, hd, rfl⟩
  | @refused d changed fault' hd hperm happly =>
    obtain rfl : fault = fault' := by simpa [faults_refusal] using hf
    have hconduct := Conducted.conduct request d
    rw [happly] at hconduct
    rcases hconduct.refused rfl with hsame | hseveral
    · obtain rfl : changed = d := hsame
      exact ⟨changed, hd, replace_self hd⟩
    · exact absurd hseveral hone
  | stayed => simp [faults_answer] at hf
  | moved => simp [faults_answer] at hf
  | @stuck d changed outcome new fault' hd hperm happly hm hr =>
    have hconduct := Conducted.conduct request d
    rw [happly] at hconduct
    rcases hconduct.moved rfl hm with hsame | hannounced
    · obtain rfl : changed = d := hsame
      exact ⟨changed, hd, replace_self hd⟩
    · -- The address was announced, so it was checked before the command was carried out.
      exfalso
      have haddress : changed.address = a := hconduct.retains.address.trans (hp.address_eq hd)
      rw [haddress] at hr
      have hthere : (bus.replace a changed).contains a = true := by
        refine contains_iff.2 ⟨changed, ?_⟩
        rw [get?_replace, if_pos rfl, hd, Option.map_some]
      have hle : new ≤ bus.maxAddress := hbound hd hannounced
      rcases reassign_eq_error_iff.1 hr with ⟨hlt, -⟩ | ⟨-, habsent, -⟩ | ⟨-, -, hne, htaken, -⟩
      · exact absurd hle (Nat.not_le.2 hlt)
      · rw [hthere] at habsent
        exact absurd habsent (by decide)
      · have hbefore : bus.contains new = true := by
          rw [contains, get?_replace, if_neg (Ne.symm hne)] at htaken
          exact htaken
        rcases contains_of_permit hperm hannounced with hself | hfree
        · rw [hp.address_eq hd] at hself
          exact hne hself.symm
        · rw [hbefore] at hfree
          exact absurd hfree (by decide)

/-! ## All turns of a frame -/

/-- A device that is not addressed stays as it is. -/
theorem get?_dispatchAll_of_notMem (hp : bus.WellPlaced) (ha : a ∉ addresses)
    (hd : bus.get? a = some d) : (bus.dispatchAll request addresses).1.get? a = some d :=
  get?_dispatchAll_of_keyed (fun request d => (Conducted.conduct request d).retains.address)
    hp.keyed ha hd

/-- A device that refuses a frame is as before when all devices have had their turn. -/
theorem get?_dispatchAll_of_mem_turns (hp : bus.WellPlaced) (hn : addresses.Nodup)
    (hthere : ∀ {b}, b ∈ addresses → bus.contains b = true)
    (hbound : ∀ {b d new}, b ∈ addresses → bus.get? b = some d →
      Instrument.requestedAddress request d = some new → new ≤ bus.maxAddress)
    (hmem : (a, ans) ∈ bus.turns request addresses) (hf : fault ∈ ans.faults)
    (hone : ¬ (Conducted.setsSeveral R request.command = true ∧ fault.isParameterFault = true)) :
    ∃ d, bus.get? a = some d ∧ (bus.dispatchAll request addresses).1.get? a = some d := by
  induction addresses generalizing bus with
  | nil => exact absurd hmem List.not_mem_nil
  | cons b rest ih =>
    rw [List.nodup_cons] at hn
    rw [turns, List.mem_cons] at hmem
    rw [fst_dispatchAll_cons]
    rcases hmem with hhead | htail
    · -- The device refuses now, and is left alone from then on.
      obtain ⟨rfl, rfl⟩ := Prod.mk.inj hhead
      obtain ⟨d, hd, hsame⟩ := dispatchTo_of_mem_faults hp (hbound List.mem_cons_self) hf hone
      rw [hsame]
      exact ⟨d, hd, get?_dispatchAll_of_notMem hp hn.1 hd⟩
    · -- Until its turn comes, the device is left alone.
      have hkept : ∀ {k d}, k ∈ rest → bus.get? k = some d →
          (bus.dispatchTo request b).1.get? k = some d := fun hk hd =>
        get?_dispatchTo_of_ne hp (fun hkb => hn.1 (hkb ▸ hk)) hd
      have hback : ∀ {k d}, k ∈ rest → (bus.dispatchTo request b).1.get? k = some d →
          bus.get? k = some d := by
        intro k d hk hd
        obtain ⟨e, he⟩ := contains_iff.1 (hthere (List.mem_cons_of_mem _ hk))
        rw [he, ← hkept hk he, hd]
      have hmax := (invariant_maxAddress bus.maxAddress).dispatchTo request b rfl
      obtain ⟨d, hd, hafter⟩ := ih (invariant_wellPlaced.dispatchTo request b hp) hn.2
        (fun hk => by
          obtain ⟨e, he⟩ := contains_iff.1 (hthere (List.mem_cons_of_mem _ hk))
          exact contains_iff.2 ⟨e, hkept hk he⟩)
        (fun hk hd hr => by
          rw [hmax]
          exact hbound (List.mem_cons_of_mem _ hk) (hback hk hd) hr)
        htail
      have hrest : a ∈ rest := by
        have hfst := List.mem_map_of_mem (f := Prod.fst) htail
        rwa [map_fst_turns] at hfst
      exact ⟨d, hback hrest hd, hafter⟩

/-! ## All frames -/

/-- A frame leaves the devices that refuse it as they are. It is either lost, or its faults are
those of the devices that it is for. -/
inductive SparesRefusers (bus : Bus R) (frame : Bytes) : Prop where
  /-- The frame cannot be read, or no device can be found for it. -/
  | lost {fault : Fault} (h : bus.dispatch frame = (bus, .lost fault))
  /-- The frame is carried out, device by device. -/
  | carriedOut {request : Request C} {addresses : List Nat}
      (hread : Instrument.read R frame = .ok request)
      (hresolve : bus.resolve request.target = .ok addresses)
      (hfaults : (bus.dispatch frame).2.faults =
        (bus.turns request addresses).flatMap fun turn => turn.2.faults)
      (hspared : ∀ {a ans fault}, (a, ans) ∈ bus.turns request addresses → fault ∈ ans.faults →
        ¬ (Conducted.setsSeveral R request.command = true ∧ fault.isParameterFault = true) →
          ∃ d, bus.get? a = some d ∧ (bus.dispatch frame).1.get? a = some d)

/-- On a bus that is in order frames leave the devices that refuse them as they are, if no device
announces an address that is too large. -/
theorem WellPlaced.sparesRefusers (hp : bus.WellPlaced)
    (hbound : ∀ {a d new} {request : Request C}, bus.get? a = some d →
      Instrument.requestedAddress request d = some new → new ≤ bus.maxAddress) (frame : Bytes) :
    bus.SparesRefusers frame := by
  cases hread : Instrument.read R frame with
  | error fault =>
    have hlost : bus.dispatch frame = (bus, .lost fault) := by rw [dispatch, hread]
    exact .lost hlost
  | ok request =>
    cases hresolve : bus.resolve request.target with
    | error fault =>
      have hlost : bus.dispatch frame = (bus, .lost fault) := by
        simp only [dispatch, hread, hresolve]
      exact .lost hlost
    | ok addresses =>
      have hall : bus.dispatch frame = bus.dispatchAll request addresses := by
        simp only [dispatch, hread, hresolve]
      refine .carriedOut hread hresolve ?_ ?_
      · rw [hall, faults_dispatchAll]
      · intro a ans fault hmem hf hone
        rw [hall]
        exact get?_dispatchAll_of_mem_turns hp (nodup_of_resolve hresolve)
          (contains_of_resolve hresolve) (fun _ hd hr => hbound hd hr) hmem hf hone

end Bus

open Cli

/-- In every run of every kind of instrument, a frame leaves each device that refuses it exactly as
it was, its schedule, its samples and its address included. The one exception are wrong parameters
of the commands that set several fields: the line of a digital barometer, the limits of the heating
of a humidity probe, format and interval of a bus barometer, the settings of a visibility sensor. -/
theorem Bus.refused_devices_unchanged (kind : InstrumentKind) (start : Bus kind.Registers)
    (h : kind.Starts start) (operations : List Bus.Operation) (frame : Bytes) :
    (start.run operations).SparesRefusers frame :=
  (h.wellPlaced_run operations).sparesRefusers (h.requestedAddress_le operations) frame

/-- Of three barometers that are all told to take the address of the second one, the first and the
third refuse after they have carried out the command, and stay where they are. -/
theorem Bus.refused_devices_unchanged_barometers :
    let frame := Utf8.encode "N,2".toList
    ∃ start, InstrumentKind.busBarometer.Starts start ∧ (start.run []).SparesRefusers frame ∧
      (start.dispatch frame).2.faults = [.addressInUse 2, .addressInUse 2] ∧
      (start.dispatch frame).1.addresses = [1, 2, 3] := by
  intro frame
  have hstarts : InstrumentKind.busBarometer.Starts _ := ⟨3, rfl⟩
  exact ⟨_, hstarts, Bus.refused_devices_unchanged _ _ hstarts [] frame, by decide, by decide⟩

end WeatherBus
