import Mathlib.Data.List.Induction
import WeatherBus.Proofs.Bus.Fate
import WeatherBus.Proofs.Kinds
import WeatherBus.Proofs.VisibilitySensor.Language

/-! # What a reset brings back

A sensor has settings in force, and a copy of them for the next reset. Only one command writes the
copy, and it does so in part if one of its fields is refused. The address belongs to the settings,
but it is the bus that moves a sensor.

* **`VisibilitySensor.Standing`** — settings, address, mode and interval of a sensor; those in force
  and those that a reset brings back are `standing` and `restorable`;
* **`restorable_apply`** — only a command that commits changes what a reset brings back;
* **`standing_of_commits`** — when a sensor has carried out such a command, the two are the same;
* **`standing_of_reset`** — a reset that a sensor carries out brings back what it promises;
* **`reset_restores_committed`** — so it brings back what was in force right after the last command
  that committed. -/

namespace WeatherBus

namespace VisibilitySensor

/-- What a reset is about. -/
structure Standing where
  settings : Settings
  address : Nat
  /-- The mode of the continuous output. -/
  mode : OutputMode
  /-- The interval of the continuous output in milliseconds. -/
  interval : Nat
deriving DecidableEq

/-- What the settings ask for at an address. -/
def Standing.of (settings : Settings) (address : Nat) : Standing where
  settings
  address
  mode := settings.mode
  interval := settings.interval * 1000

/-- What is in force. -/
def standing (d : Device VisibilitySensor) : Standing where
  settings := d.registers.active
  address := d.address
  mode := d.schedule.mode
  interval := d.schedule.interval

/-- What a reset brings back. -/
def restorable (d : Device VisibilitySensor) : Standing :=
  .of d.registers.committed d.registers.committedId

/-- What a new sensor at an address comes with. -/
def factoryStanding (address : Nat) : Standing where
  settings := {}
  address
  mode := .polled
  interval := 60000

/-- The settings of the factory are those that a sensor comes with. -/
theorem of_factory (id : Nat) : Standing.of {} id = factoryStanding id := by
  simp [Standing.of, factoryStanding]

/-- A new sensor has them. -/
theorem standing_new (id : Nat) : standing (new id) = factoryStanding id := of_factory id

/-- It has them to be restored as well. -/
theorem restorable_new (id : Nat) : restorable (new id) = factoryStanding id := of_factory id

/-- Whether a command writes what a reset brings back. -/
def Command.commits : Command → Bool
  | .set _ => true
  | _ => false

/-- Only the command that sets and keeps settings commits them. -/
theorem exists_of_commits {command : Command} (h : command.commits = true) :
    ∃ update, command = .set update := by
  unfold Command.commits at h
  split at h
  · exact ⟨_, rfl⟩
  · exact absurd h (by decide)

/-! ## One command -/

section Commands

variable {request : Request Command} {d e changed : Device VisibilitySensor} {id : Nat}
  {now : Bus VisibilitySensor}

/-- Settings that are only activated are not restored. -/
theorem restorable_activate (settings : Settings) (d : Device VisibilitySensor) :
    restorable (activate settings d) = restorable d := rfl

/-- Settings in force that are also those that a reset brings back. -/
def commit (update : SettingsUpdate) (id : Nat) (d : Device VisibilitySensor) :
    Device VisibilitySensor :=
  (activate (d.registers.active.update update) d).mapRegisters fun r =>
    { r with committed := r.active, committedId := id }

/-- An update with a fault is committed as far as it goes, and the sensor keeps its id. -/
theorem change_of_fault {update : SettingsUpdate} {fault : Fault}
    (h : update.fault? = some fault) :
    change true update d = (commit update d.address d, .error fault) := by
  simp only [change, h]
  rfl

/-- An update without a fault is committed, and the sensor is moved to its id. -/
theorem change_of_accepted {update : SettingsUpdate} (h : update.fault? = none) :
    change true update d = (commit update (update.newId?.getD d.address) d,
      .ok (settled (update.newId?.getD d.address)
        (commit update (update.newId?.getD d.address) d))) := by
  simp only [change, h]
  rfl

/-- A calibration does not touch what is restored. -/
theorem restorable_calibrate (number point : Int) (value : Float) (d : Device VisibilitySensor) :
    restorable (calibrate number point value d).1 = restorable d := by
  fun_cases calibrate number point value d <;> rfl

/-- Only a command that commits changes what a reset brings back. -/
theorem restorable_apply (request : Request Command) (d : Device VisibilitySensor)
    (h : request.command.commits = false) : restorable (apply request d).1 = restorable d := by
  obtain ⟨target, checksum, command, text⟩ := request
  cases command with
  | get => rfl
  | set update => exact absurd h (by simp [Command.commits])
  | setUntilReset update =>
    simp only [apply, change]
    split
    · exact restorable_activate _ d
    · exact restorable_activate _ d
  | chooseFields mask =>
    cases mask with
    | none => rfl
    | some mask =>
      simp only [apply]
      split
      · rfl
      · rfl
  | poll => rfl
  | calibrate number point value => exact restorable_calibrate number point value d
  | reset => exact restorable_activate _ d
  | unknown keyword => rfl

/-- A sensor that was allowed to move to the address of its answer is there. -/
theorem eq_of_settled (he : Bus.Carried request now d e) (hperm : now.permit request d = .ok ())
    (ha : Instrument.apply request d = (changed, .ok (settled id changed)))
    (hannounced : id = d.address ∨ Instrument.requestedAddress request d = some id)
    (hle : id ≤ now.maxAddress) : e = { changed with address := id } := by
  have haddress : changed.address = d.address := by
    have hretained := (Conducted.conduct request d).retains.address
    rwa [ha] at hretained
  cases he with
  | refused ha' =>
    rw [ha] at ha'
    exact absurd (Prod.mk.inj ha').2 (by simp)
  | stayed ha' hm =>
    obtain ⟨rfl, ho⟩ := Prod.mk.inj (ha.symm.trans ha')
    obtain rfl := Except.ok.inj ho
    -- It asks for no move, so it is already where it belongs.
    have hsame : id = changed.address := by
      by_contra hne
      simp [settled, hne] at hm
    subst hsame
    rfl
  | moved ha' hm hfree =>
    obtain ⟨rfl, ho⟩ := Prod.mk.inj (ha.symm.trans ha')
    obtain rfl := Except.ok.inj ho
    rcases moveTo_settled id changed with hnone | hsome
    · rw [hnone] at hm
      exact absurd hm (by simp)
    · rw [hsome] at hm
      rw [Option.some.inj hm]
  | @stuck _ _ new ha' hm htaken =>
    exfalso
    obtain ⟨rfl, ho⟩ := Prod.mk.inj (ha.symm.trans ha')
    obtain rfl := Except.ok.inj ho
    obtain rfl : id = new := by
      rcases moveTo_settled id changed with hnone | hsome
      · rw [hnone] at hm
        exact absurd hm (by simp)
      · rw [hsome] at hm
        exact Option.some.inj hm
    rcases htaken with hlarge | ⟨hne, htaken⟩
    · omega
    · -- The address was found free before the command was carried out.
      rcases hannounced with hself | hannounced
      · exact hne hself
      · rcases Bus.contains_of_permit hperm hannounced with hself | hfree
        · exact hne hself
        · rw [htaken] at hfree
          exact absurd hfree (by decide)

/-- When a sensor has carried out a command that commits, what is in force and what a reset brings
back are the same, also if one of the fields was refused. -/
theorem standing_of_commits (he : Bus.Carried request now d e)
    (hperm : now.permit request d = .ok ()) (hmax : now.maxAddress = maxId) (hd : IsSettled d)
    (h : request.command.commits = true) : standing e = restorable e := by
  obtain ⟨target, checksum, command, text⟩ := request
  obtain ⟨update, rfl⟩ := exists_of_commits h
  cases hfault : update.fault? with
  | some fault =>
    -- What was accepted is kept, with the address that the sensor has.
    rw [he.eq_of_error (change_of_fault hfault)]
    rfl
  | none =>
    have hle : update.newId?.getD d.address ≤ now.maxAddress := by
      rw [hmax]
      cases hid : update.newId? with
      | none => exact hd.1
      | some id => exact le_of_upTo? hid
    have hannounced : update.newId?.getD d.address = d.address ∨
        update.newId? = some (update.newId?.getD d.address) := by
      cases hid : update.newId? with
      | none => exact .inl rfl
      | some id => exact .inr rfl
    rw [eq_of_settled he hperm (change_of_accepted hfault) hannounced hle]
    rfl

/-- A reset that a sensor carries out brings back what it promises. -/
theorem standing_of_reset (he : Bus.Carried request now d e)
    (hperm : now.permit request d = .ok ()) (hmax : now.maxAddress = maxId) (hd : IsSettled d)
    (h : request.command = .reset) : standing e = restorable d := by
  obtain ⟨target, checksum, command, text⟩ := request
  obtain rfl : command = .reset := h
  have hle : d.registers.committedId ≤ now.maxAddress := by
    rw [hmax]
    exact hd.2
  rw [eq_of_settled he hperm rfl (.inr rfl) hle]
  rfl

end Commands

/-! ## Runs -/

/-- Neither does anything but commands. -/
theorem lasting_restorable : Bus.Lasting restorable where
  move _ _ := rfl
  observe _ _ := rfl
  markSent _ _ := rfl

/-- What is in force at the sensor with a tag. -/
def standingOf? (o : Nat) (bus : Bus (Tracked VisibilitySensor)) : Option Standing :=
  (bus.ofOrigin? o).map fun d => standing d.forget

/-- What a reset of the sensor with a tag brings back. -/
def restorableOf? (o : Nat) (bus : Bus (Tracked VisibilitySensor)) : Option Standing :=
  (bus.ofOrigin? o).map fun d => restorable d.forget

/-- Of two parts of a run, the first one ends with the last command that commits, or it is empty if
there is none. -/
structure CommitsLast (o : Nat) (before since : List Bus.Operation)
    (bus : Bus (Tracked VisibilitySensor)) : Prop where
  last : before = [] ∨ ∃ earlier operation, before = earlier ++ [operation] ∧
    (bus.run earlier).Obeys o Command.commits operation
  none_since : ¬ (bus.run before).ObeysIn o Command.commits since

section Runs

variable {bus : Bus (Tracked VisibilitySensor)} {o : Nat} {d : Device (Tracked VisibilitySensor)}
  {frame : Bytes} {request : Request Command}

/-- Every run has such parts. -/
theorem exists_commitsLast (o : Nat) (operations : List Bus.Operation)
    (bus : Bus (Tracked VisibilitySensor)) :
    ∃ before since, operations = before ++ since ∧ CommitsLast o before since bus := by
  induction operations using List.reverseRecOn with
  | nil => exact ⟨[], [], rfl, .inl rfl, id⟩
  | append_singleton operations operation ih =>
    by_cases hlast : (bus.run operations).Obeys o Command.commits operation
    · exact ⟨operations ++ [operation], [], (List.append_nil _).symm,
        .inr ⟨operations, operation, rfl, hlast⟩, id⟩
    · -- The operation does not commit, so it belongs to what has been done since.
      obtain ⟨before, since, rfl, hbefore, hsince⟩ := ih
      refine ⟨before, since ++ [operation], List.append_assoc _ _ _, hbefore, ?_⟩
      rw [Bus.obeysIn_append, not_or, ← Bus.run_append]
      exact ⟨hsince, by simpa [Bus.ObeysIn] using hlast⟩

/-- An operation that does not commit leaves alone what a reset brings back. -/
theorem restorableOf?_operate (h : bus.InOrder) (hd : bus.ofOrigin? o = some d)
    {operation : Bus.Operation} (hnot : ¬ bus.Obeys o Command.commits operation) :
    restorableOf? o (bus.operate operation) = restorableOf? o bus := by
  obtain ⟨e, he, hsame⟩ := lasting_restorable.operate restorable_apply h hd hnot
  rw [restorableOf?, restorableOf?, he, hd, Option.map_some, Option.map_some, hsame]

/-- What is restored stays as long as nothing is committed. -/
theorem restorableOf?_run (h : bus.InOrder) (hd : bus.ofOrigin? o = some d)
    {operations : List Bus.Operation} (hnot : ¬ bus.ObeysIn o Command.commits operations) :
    restorableOf? o (bus.run operations) = restorableOf? o bus := by
  obtain ⟨e, he, hsame⟩ := lasting_restorable.run restorable_apply h hd hnot
  rw [restorableOf?, restorableOf?, he, hd, Option.map_some, Option.map_some, hsame]

variable {start : Bus VisibilitySensor} {count : Nat} {operations : List Bus.Operation}

/-- What is known of every sensor after a run. -/
structure Reached (o : Nat) (bus : Bus (Tracked VisibilitySensor))
    (d : Device (Tracked VisibilitySensor)) : Prop where
  inOrder : bus.InOrder
  maxAddress_eq : bus.maxAddress = maxId
  found : bus.ofOrigin? o = some d
  settled : IsSettled d.forget

/-- Every sensor of a run is found after it, at an address that there can be. -/
theorem exists_reached (h : VisibilitySensor.bus count = .ok start) (ho : o ∈ start.addresses)
    (operations : List Bus.Operation) : ∃ d, Reached o (start.track.run operations) d := by
  have hstart := isSettled_bus h
  have horder : (start.track.run operations).InOrder :=
    Bus.invariant_inOrder.run operations hstart.1.inOrder_track
  have hthroughout := deviceInvariant_isSettled.invariant.run operations hstart
  obtain ⟨d, hd⟩ := Bus.exists_ofOrigin?_run ho operations
  exact ⟨d, horder, (Bus.invariant_maxAddress maxId).run operations hstart.2.1, hd,
    hthroughout.forget_ofOrigin? hd horder⟩

/-- When a sensor has carried out a command that commits, a reset brings back what is in force. -/
theorem Reached.standingOf?_operate (h : Reached o bus d) {operation : Bus.Operation}
    (hlast : bus.Obeys o Command.commits operation) :
    standingOf? o (bus.operate operation) = restorableOf? o (bus.operate operation) := by
  obtain ⟨frame, request, rfl, hout, hcommits⟩ := hlast
  obtain ⟨now, e, hmax, hperm, he, hafter⟩ := h.inOrder.carried_of_carriesOut h.found hout
  have hsame := standing_of_commits he hperm (hmax.trans h.maxAddress_eq) h.settled hcommits
  rw [standingOf?, restorableOf?, Bus.operate, hafter, Option.map_some, Option.map_some, hsame]

/-- A reset that a sensor carries out brings back what it promises. -/
theorem Reached.standingOf?_dispatch (h : Reached o bus d)
    (hout : bus.CarriesOut o frame request) (hreset : request.command = .reset) :
    standingOf? o (bus.dispatch frame).1 = restorableOf? o bus := by
  obtain ⟨now, e, hmax, hperm, he, hafter⟩ := h.inOrder.carried_of_carriesOut h.found hout
  have hsame := standing_of_reset he hperm (hmax.trans h.maxAddress_eq) h.settled hreset
  rw [standingOf?, restorableOf?, hafter, h.found, Option.map_some, Option.map_some, hsame]

/-- At the start a sensor is as it comes, and so is what a reset brings back. -/
theorem restorableOf?_track (h : VisibilitySensor.bus count = .ok start)
    (ho : o ∈ start.addresses) :
    standingOf? o start.track = some (factoryStanding o) ∧
      restorableOf? o start.track = some (factoryStanding o) := by
  have hnew : start.Throughout maxId fun d => d = new d.address :=
    throughout_bus (fun _ _ => rfl) h
  obtain ⟨d, hd, hfound⟩ := hnew.1.ofOrigin?_track ho
  have hfactory : d = new o := by
    rw [← hnew.1.address_eq hd]
    exact hnew.2.2 hd
  rw [standingOf?, restorableOf?, hfound, Option.map_some, Option.map_some, Device.forget_track,
    hfactory, standing_new, restorable_new]
  exact ⟨rfl, rfl⟩

/-- Right after the last command that commits, a reset brings back what is in force. -/
theorem CommitsLast.standingOf?_eq {before since : List Bus.Operation}
    (hlast : CommitsLast o before since start.track)
    (h : VisibilitySensor.bus count = .ok start) (ho : o ∈ start.addresses) :
    standingOf? o (start.track.run before) = restorableOf? o (start.track.run before) := by
  rcases hlast.last with rfl | ⟨earlier, operation, rfl, hcommits⟩
  · obtain ⟨hstanding, hrestorable⟩ := restorableOf?_track h ho
    exact hstanding.trans hrestorable.symm
  · obtain ⟨d, hd⟩ := exists_reached h ho earlier
    rw [Bus.run_append]
    exact hd.standingOf?_operate hcommits

end Runs

/-- On a bus of any size, after every run, a reset that a sensor carries out brings back settings,
address, mode and interval as they were right after the last command that committed, or as the
sensor came if there was none. Nothing else that is done on the bus changes what a reset brings
back. -/
theorem reset_restores_committed {count : Nat} {start : Bus VisibilitySensor}
    (h : VisibilitySensor.bus count = .ok start) {o : Nat} (ho : o ∈ start.addresses)
    (operations : List Bus.Operation) :
    (∃ before since, operations = before ++ since ∧
      CommitsLast o before since start.track) ∧
    (∀ before since, operations = before ++ since → CommitsLast o before since start.track →
      (before = [] → standingOf? o (start.track.run before) = some (factoryStanding o)) ∧
      ∀ frame request, (start.track.run operations).CarriesOut o frame request →
        request.command = .reset →
        standingOf? o ((start.track.run operations).dispatch frame).1 =
          standingOf? o (start.track.run before)) ∧
    ∀ operation, ¬ (start.track.run operations).Obeys o Command.commits operation →
      restorableOf? o (start.track.run (operations ++ [operation])) =
        restorableOf? o (start.track.run operations) := by
  obtain ⟨d, hd⟩ := exists_reached h ho operations
  refine ⟨exists_commitsLast o operations _, ?_, ?_⟩
  · rintro before since rfl hlast
    refine ⟨?_, fun frame request hout hreset => ?_⟩
    · rintro rfl
      exact (restorableOf?_track h ho).1
    · obtain ⟨e, he⟩ := exists_reached h ho before
      calc standingOf? o ((start.track.run (before ++ since)).dispatch frame).1
        _ = restorableOf? o (start.track.run (before ++ since)) :=
          hd.standingOf?_dispatch hout hreset
        _ = restorableOf? o (start.track.run before) := by
          rw [Bus.run_append]
          exact restorableOf?_run he.inOrder he.found hlast.none_since
        _ = standingOf? o (start.track.run before) := (hlast.standingOf?_eq h ho).symm
  · intro operation hnot
    rw [Bus.run_append]
    exact restorableOf?_operate hd.inOrder hd.found hnot

/-- A sensor keeps one field of a command although it refuses another one. Then it is moved, and the
next reset brings the kept field and its address back. -/
theorem reset_restores_committed_partly :
    let change := Bus.Operation.dispatch (frame "SET:1:7:30:::::5".toList)
    let move := Bus.Operation.dispatch (frame "SETNC:1:4:10".toList)
    ∃ start, VisibilitySensor.bus 3 = .ok start ∧ 1 ∈ start.addresses ∧
      standingOf? 1 (start.track.run [change, move]) =
        some { settings := { interval := 10 }, address := 4, mode := .polled, interval := 10000 } ∧
      standingOf? 1 ((start.track.run [change, move]).dispatch (frame "RESET:4".toList)).1 =
        some { settings := { interval := 30 }, address := 1, mode := .polled,
               interval := 30000 } := by
  intro change move
  let start := (((Bus.empty maxId).place 0 (new 0)).place 1 (new 1)).place 2 (new 2)
  have hstart : VisibilitySensor.bus 3 = .ok start := rfl
  have hset : Command.read (frame "SET:1:7:30:::::5".toList) = .ok ⟨.address 1, .valid,
      .set { id := some 7, interval := some 30, averaging := some 5 },
      "SET:1:7:30:::::5".toList⟩ := by
    decide +kernel
  have hmove : Command.read (frame "SETNC:1:4:10".toList) = .ok ⟨.address 1, .valid,
      .setUntilReset { id := some 4, interval := some 10 }, "SETNC:1:4:10".toList⟩ := by
    decide +kernel
  have hreset : Command.read (frame "RESET:4".toList) = .ok ⟨.address 4, .valid, .reset,
      "RESET:4".toList⟩ := by
    decide +kernel
  have hlast : CommitsLast 1 [change] [move] start.track := by
    refine ⟨.inr ⟨[], change, rfl, _, _, rfl, ⟨[1], _, hset, rfl, rfl, by decide, rfl⟩, rfl⟩, ?_⟩
    rintro (⟨raw, request, hop, ⟨addresses, d, hread, -⟩, hcommits⟩ | hnone)
    · obtain rfl := Bus.Operation.dispatch.inj hop
      obtain rfl := Except.ok.inj (hmove.symm.trans hread)
      exact absurd hcommits (by decide)
    · exact hnone
  have hrestores := (reset_restores_committed hstart (by decide) [change, move]).2.1 [change] [move]
    rfl hlast
  refine ⟨start, hstart, by decide, by decide +kernel, ?_⟩
  have hresolve : (start.track.run [change, move]).resolve (.address 4) = .ok [4] := by
    decide +kernel
  have hout : (start.track.run [change, move]).CarriesOut 1 (frame "RESET:4".toList)
      ⟨.address 4, .valid, .reset, "RESET:4".toList⟩ :=
    Bus.carriesOut_of_any hreset hresolve (by decide +kernel)
  rw [hrestores.2 _ _ hout rfl]
  decide +kernel

end VisibilitySensor

end WeatherBus
