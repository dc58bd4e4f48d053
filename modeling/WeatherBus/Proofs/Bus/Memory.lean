import Mathlib.Data.List.Induction
import WeatherBus.Proofs.Bus.Projection

/-! # What a device has taken from the samples

A device keeps only a part of what it takes from the samples. To compare this part with the whole,
each device gets a history from which nothing is dropped until the device starts anew.

* **`Collecting`** — what a kind of instrument takes from a sample, and which commands make it start
  anew;
* **`Remembering R A`** — registers with the whole history. A kind of instrument is one with
  histories, too, and never looks at them;
* **`Bus.remember`** — a bus with empty histories; `Bus.project_run_remember` says that a run of it
  is the run without histories;
* **`Bus.HistoryInvariant`** — what every operation keeps between a device and its history, and so
  every run (`Bus.HistoryInvariant.run`);
* **`Bus.history_run`** — the history of a device that never starts anew is what it takes from all
  samples of the run. -/

namespace WeatherBus

/-- A kind of instrument that takes something of type `A` from samples. -/
class Collecting (R : Type) (A : outParam Type) {C : outParam Type} [Instrument R C] where
  /-- What a device takes from a sample, `none` if the sample does not count. -/
  taken? : Sample → R → Option A
  /-- Whether a request makes a device start anew. -/
  clears : Request C → Device R → Bool
  /-- A device that starts anew has accepted the request, and stays where it is. -/
  accepted : ∀ {request : Request C} {d : Device R}, clears request d = true →
    ∃ outcome, (Instrument.apply request d).2 = .ok outcome ∧ outcome.moveTo = none

/-- Registers of a device, with all that it has taken from samples since it started anew. -/
structure Remembering (R A : Type) where
  /-- What was taken, the newest first. -/
  history : List A
  registers : R
deriving DecidableEq, Repr

namespace Device

variable {R A : Type}

/-- What a device has taken since it started anew, the newest first. -/
def history (d : Device (Remembering R A)) : List A := d.registers.history

/-- A device without its history. -/
def plain (d : Device (Remembering R A)) : Device R := d.project Remembering.registers

/-- A device with a history. -/
def withHistory (history : List A) (d : Device R) : Device (Remembering R A) :=
  d.project (Remembering.mk history)

/-- Without its history a device is what it was. -/
@[simp] theorem plain_withHistory (history : List A) (d : Device R) :
    (d.withHistory history).plain = d := rfl

/-- The history is the one that was given. -/
@[simp] theorem history_withHistory (history : List A) (d : Device R) :
    (d.withHistory history).history = history := rfl

/-- A device is itself with its history. -/
@[simp] theorem withHistory_plain (d : Device (Remembering R A)) :
    d.plain.withHistory d.history = d := rfl

/-- A history does not matter for what a command leaves alone. -/
theorem retains_withHistory {d : Device (Remembering R A)} {e : Device R} (h : d.plain.Retains e)
    (history : List A) : d.Retains (e.withHistory history) := ⟨h.address, h.serial, h.schedule⟩

end Device

/-! ## Instruments with histories -/

section Instrument

variable {R A C : Type} [Instrument R C] [Collecting R A]

/-- A kind of instrument with histories. -/
instance : Instrument (Remembering R A) C where
  framing := Instrument.framing R
  read := Instrument.read R
  needsChecksum d := Instrument.needsChecksum d.plain
  requestedAddress request d := Instrument.requestedAddress request d.plain
  apply request d :=
    let result := Instrument.apply request d.plain
    (result.1.withHistory (if Collecting.clears request d.plain then [] else d.history), result.2)
  observe sample r :=
    { history := (Collecting.taken? sample r.registers).toList ++ r.history
      registers := Instrument.observe sample r.registers }
  canObserve sample r := Instrument.canObserve sample r.registers
  encodeReply request d := Instrument.encodeReply request d.plain
  encodeFault request d := Instrument.encodeFault request d.plain
  measurement timestamp d := Instrument.measurement timestamp d.plain
  canMeasure d := Instrument.canMeasure d.plain

/-- A command changes the registers, and it clears the history if the device starts anew. -/
theorem apply_remembering (request : Request C) (d : Device (Remembering R A)) :
    Instrument.apply request d =
      ((Instrument.apply request d.plain).1.withHistory
        (if Collecting.clears request d.plain then [] else d.history),
        (Instrument.apply request d.plain).2) := rfl

/-- With histories, commands keep to the same rules. -/
instance [Conducted R] : Conducted (Remembering R A) where
  setsSeveral := Conducted.setsSeveral R
  conduct request d := by
    have h := Conducted.conduct request d.plain
    refine ⟨Device.retains_withHistory h.retains _, fun hf => ?_, fun ho hm => ?_⟩
    · refine (h.refused hf).imp_left fun hd => ?_
      cases hclears : Collecting.clears request d.plain with
      | false => rw [apply_remembering, hd, hclears, if_neg Bool.false_ne_true,
          Device.withHistory_plain]
      | true =>
        obtain ⟨outcome, hok, -⟩ := Collecting.accepted hclears
        exact absurd (hok.symm.trans hf) (by simp)
    · refine (h.moved ho hm).imp_left fun hd => ?_
      cases hclears : Collecting.clears request d.plain with
      | false => rw [apply_remembering, hd, hclears, if_neg Bool.false_ne_true,
          Device.withHistory_plain]
      | true =>
        obtain ⟨outcome, hok, hstays⟩ := Collecting.accepted hclears
        obtain rfl := Except.ok.inj (hok.symm.trans ho)
        exact absurd (hstays.symm.trans hm) (by simp)

end Instrument

namespace Bus

variable {R A C : Type} [Instrument R C] [Collecting R A]

/-- No command looks at a history. -/
theorem projection_registers_remembering :
    Projection (Remembering.registers (R := R) (A := A)) where
  framing_eq := rfl
  read_eq := rfl
  needsChecksum_eq _ := rfl
  requestedAddress_eq _ _ := rfl
  apply_eq _ _ := rfl
  observe_eq _ _ := rfl
  encodeReply_eq _ _ := rfl
  encodeFault_eq _ _ := rfl
  measurement_eq _ _ := rfl

/-! ## Runs with histories -/

/-- The bus with empty histories. -/
def remember (bus : Bus R) : Bus (Remembering R A) := bus.project (Remembering.mk [])

/-- Without the histories the bus is what it was. -/
theorem project_remember (bus : Bus R) :
    (bus.remember (A := A)).project Remembering.registers = bus := by
  refine eq_of_devices_eq rfl ?_
  rw [devices_project, remember, devices_project, List.map_map]
  exact List.map_id _

/-- Histories do not matter for a run. -/
theorem project_run_remember (start : Bus R) (operations : List Operation) :
    (start.remember.run operations).project (Remembering.registers (A := A)) =
      start.run operations := by
  rw [← run_project projection_registers_remembering, project_remember]

/-- A device with a history is one of the run without histories. -/
theorem get?_run_of_remember {start : Bus R} {operations : List Operation} {a : Nat}
    {d : Device (Remembering R A)} (hd : (start.remember.run operations).get? a = some d) :
    (start.run operations).get? a = some d.plain := by
  rw [← project_run_remember (A := A), get?_project, hd, Option.map_some, Device.plain]

/-- And every device of the run without histories has one. -/
theorem exists_get?_run_remember {start : Bus R} {operations : List Operation} {a : Nat}
    {d : Device R} (hd : (start.run operations).get? a = some d) :
    ∃ history : List A, (start.remember.run operations).get? a = some (d.withHistory history) := by
  rw [← project_run_remember (A := A), get?_project, Option.map_eq_some_iff] at hd
  obtain ⟨e, he, rfl⟩ := hd
  exact ⟨e.history, he⟩

/-! ## A device and its history -/

/-- What every operation keeps between a device and its history. -/
structure HistoryInvariant (maxAddress : Nat) (Q : List A → Device R → Prop) : Prop where
  apply : ∀ {history : List A} {d : Device R} {request : Request C},
    Collecting.clears request d = false → Q history d → Q history (Instrument.apply request d).1
  clear : ∀ {history : List A} {d : Device R} {request : Request C},
    Collecting.clears request d = true → Q history d → Q [] (Instrument.apply request d).1
  move : ∀ {history : List A} {d : Device R} {a : Nat}, a ≤ maxAddress → Q history d →
    Q history { d with address := a }
  observe : ∀ {history : List A} {d : Device R} (sample : Sample), Q history d →
    Q ((Collecting.taken? sample d.registers).toList ++ history)
      (d.mapRegisters (Instrument.observe sample))
  markSent : ∀ {history : List A} {d : Device R} (time : Nat), Q history d →
    Q history (d.mapSchedule (·.markSent time))

variable {maxAddress : Nat} {Q : List A → Device R → Prop} {start : Bus R}

/-- What belongs together stays so on every operation. -/
theorem HistoryInvariant.deviceInvariant (h : HistoryInvariant maxAddress Q) :
    DeviceInvariant maxAddress fun d : Device (Remembering R A) => Q d.history d.plain where
  apply {d} request hd := by
    rw [apply_remembering, Device.history_withHistory, Device.plain_withHistory]
    cases hclears : Collecting.clears request d.plain with
    | false => exact h.apply hclears hd
    | true => exact h.clear hclears hd
  move ha hd := h.move ha hd
  observe sample hd := h.observe sample hd
  markSent time hd := h.markSent time hd

/-- At first every device has an empty history. -/
theorem Throughout.remember (hstart : start.Throughout maxAddress (Q [])) :
    start.remember.Throughout maxAddress fun d => Q d.history d.plain := by
  refine ⟨hstart.1.project _, hstart.2.1, fun {a e} he => ?_⟩
  rw [Bus.remember, get?_project] at he
  obtain ⟨d, hd, rfl⟩ := Option.map_eq_some_iff.1 he
  exact hstart.2.2 hd

/-- Without a history at first, every device and its history belong together after every run. -/
theorem HistoryInvariant.run [Conducted R] (h : HistoryInvariant maxAddress Q)
    (hstart : start.Throughout maxAddress (Q [])) (operations : List Operation) :
    (start.remember.run operations).Throughout maxAddress fun d => Q d.history d.plain :=
  h.deviceInvariant.invariant.run operations hstart.remember

/-! ## Devices that never start anew -/

section Never

variable {take : Sample → Option A} {bus : Bus (Remembering R A)} {history : List A}

/-- The samples of a run, the first one first. -/
def samples (operations : List Operation) : List Sample :=
  operations.filterMap fun
    | .observe sample => some sample
    | _ => none

/-- The samples of two runs come one after the other. -/
theorem samples_append (before after : List Operation) :
    samples (before ++ after) = samples before ++ samples after := List.filterMap_append

/-- All devices on a bus have the same history. -/
def Remembers (history : List A) (bus : Bus (Remembering R A)) : Prop :=
  ∀ other ∈ bus.toList.map Device.history, other = history

/-- At first nothing is remembered. -/
theorem remembers_remember (start : Bus R) : (start.remember (A := A)).Remembers [] := by
  rw [Remembers, remember, toList_project, List.map_map]
  intro other hmem
  obtain ⟨d, -, rfl⟩ := List.mem_map.1 hmem
  rfl

/-- A frame that makes no device start anew leaves the histories alone. -/
theorem Remembers.dispatch
    (hclears : ∀ (request : Request C) (d : Device R), Collecting.clears request d = false)
    (h : bus.Remembers history) (frame : Bytes) : (bus.dispatch frame).1.Remembers history := by
  refine DispatchInvariant.dispatch (Q := Remembers history)
    ⟨fun {bus a d} request hd hq => ?_, fun hr hq other hmem => ?_⟩ frame h
  · have hsame : (bus.replace a (Instrument.apply request d).1).toList.map Device.history =
        bus.toList.map Device.history := map_toList_modify fun he => by
      obtain rfl := Option.some.inj (hd.symm.trans he)
      rw [apply_remembering, Device.history_withHistory, hclears, if_neg Bool.false_ne_true]
    rw [Remembers, hsame]
    exact hq
  · exact hq other ((map_reassign_perm Device.history (fun _ _ => rfl) hr).mem_iff.1 hmem)

/-- A sample is added to the histories if it counts. -/
theorem Remembers.observe
    (htake : ∀ (sample : Sample) (r : R), Collecting.taken? sample r = take sample)
    (h : bus.Remembers history) (sample : Sample) :
    (bus.observe sample).Remembers ((take sample).toList ++ history) := by
  have hmap : (bus.observe sample).toList.map Device.history =
      (bus.toList.map Device.history).map ((take sample).toList ++ ·) := by
    rw [Bus.observe, toList, toList, map, List.map_map, List.map_map, List.map_map, List.map_map]
    refine List.map_congr_left fun entry _ => ?_
    exact congrArg (fun taken => taken.toList ++ entry.2.history) (htake sample _)
  rw [Remembers, hmap]
  intro other hmem
  obtain ⟨before, hbefore, rfl⟩ := List.mem_map.1 hmem
  rw [h before hbefore]

/-- A record does not touch the histories. -/
theorem Remembers.markSent (h : bus.Remembers history) (time : Nat) (addresses : List Nat) :
    (bus.markSent time addresses).Remembers history := by
  rw [Remembers, map_toList_markSent (fun _ _ => rfl) time addresses bus]
  exact h

/-- What devices that never start anew take from all samples of a run is their history. -/
theorem remembers_run (start : Bus R)
    (htake : ∀ (sample : Sample) (r : R), Collecting.taken? sample r = take sample)
    (hclears : ∀ (request : Request C) (d : Device R), Collecting.clears request d = false)
    (operations : List Operation) : (start.remember.run operations).Remembers
      ((samples operations).filterMap take).reverse := by
  -- From the end, where the newest sample is.
  induction operations using List.reverseRecOn with
  | nil => exact remembers_remember start
  | append_singleton operations operation ih =>
    rw [run_append, samples_append, List.filterMap_append, List.reverse_append]
    cases operation with
    | dispatch frame => exact ih.dispatch hclears frame
    | observe sample =>
      have hone : (List.filterMap take [sample]).reverse = (take sample).toList := by
        cases htake : take sample with
        | none => rw [List.filterMap_cons_none htake, List.filterMap_nil, List.reverse_nil,
            Option.toList_none]
        | some x => rw [List.filterMap_cons_some htake, List.filterMap_nil, List.reverse_singleton,
            Option.toList_some]
      have htaken := ih.observe htake sample
      rw [← hone] at htaken
      exact htaken
    | markSent time addresses => exact ih.markSent time addresses

/-- So it is for every device of the run. -/
theorem history_run {start : Bus R}
    (htake : ∀ (sample : Sample) (r : R), Collecting.taken? sample r = take sample)
    (hclears : ∀ (request : Request C) (d : Device R), Collecting.clears request d = false)
    {operations : List Operation} {a : Nat} {d : Device (Remembering R A)}
    (hd : (start.remember.run operations).get? a = some d) :
    d.history = ((samples operations).filterMap take).reverse :=
  remembers_run start htake hclears operations _ (List.mem_map_of_mem (mem_toList_iff.2 ⟨a, hd⟩))

end Never

end Bus

end WeatherBus
