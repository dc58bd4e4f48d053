import WeatherBus.DigitalBarometer.Instrument
import WeatherBus.Proofs.Terminal.Conduct

/-! # The digital barometer keeps to the rules

The settings of the serial line are the only ones that are set several at a time. No command of its
own changes anything but the registers of its own, so none changes the schedule. -/

namespace WeatherBus

namespace DigitalBarometer

/-- Whether a command sets several fields. -/
def Command.setsSeveral : Command → Bool
  | .line _ => true
  | _ => false

section Fields

variable {s : LineSettings} {fault : Fault}

/-- A rate that is refused is a fault of a parameter. -/
theorem isParameterFault_of_chooseBaud {field : Option Int}
    (h : (chooseBaud field s).2 = some fault) : fault.isParameterFault = true := by
  unfold chooseBaud at h
  split at h
  · simp at h
  · split at h
    · simp at h
    · rw [← Option.some.inj h, Fault.isParameterFault]

/-- So is a parity. -/
theorem isParameterFault_of_chooseParity {field : Option (Option Parity)}
    (h : (chooseParity field s).2 = some fault) : fault.isParameterFault = true := by
  unfold chooseParity at h
  split at h
  · simp at h
  · simp at h
  · rw [← Option.some.inj h, Fault.isParameterFault]

/-- So is a number of data bits. -/
theorem isParameterFault_of_chooseDataBits {field : Option Int}
    (h : (chooseDataBits field s).2 = some fault) : fault.isParameterFault = true := by
  unfold chooseDataBits at h
  split at h
  · simp at h
  · split at h
    · simp at h
    · rw [← Option.some.inj h, Fault.outOfWholeRange, Fault.isParameterFault]

/-- And so is a number of stop bits. -/
theorem isParameterFault_of_chooseStopBits {field : Option Int}
    (h : (chooseStopBits field s).2 = some fault) : fault.isParameterFault = true := by
  unfold chooseStopBits at h
  split at h
  · simp at h
  · split at h
    · simp at h
    · rw [← Option.some.inj h, Fault.outOfWholeRange, Fault.isParameterFault]

/-- A wrong setting of the serial line is a fault of a parameter. -/
theorem isParameterFault_of_update {u : LineUpdate} (h : (s.update u).2 = some fault) :
    fault.isParameterFault = true := by
  -- The fault is the first one that the four fields have.
  have hmem := Fault.mem_of_first? h
  rw [List.mem_cons, List.mem_cons, List.mem_cons, List.mem_singleton] at hmem
  rcases hmem with h | h | h | h
  · exact isParameterFault_of_chooseBaud h.symm
  · exact isParameterFault_of_chooseParity h.symm
  · exact isParameterFault_of_chooseDataBits h.symm
  · exact isParameterFault_of_chooseStopBits h.symm

end Fields

/-- A command that stores a number keeps to the rules. -/
theorem conduct_store {several : Bool} {announced : Option Nat} (name : String)
    (range : Float × Float) (x : Float) (put : Float → DigitalBarometer → DigitalBarometer)
    (answer : DigitalBarometer → Text) (d : Device Registers) :
    Conduct several announced d (store name range x put answer d) := by
  rw [store]
  split
  · exact .carriedOut (Terminal.retains_changeOwn d _) rfl
  · exact .unchanged _

/-- The commands of its own keep to the rules. -/
theorem conduct_apply (command : Command) (d : Device Registers) :
    Conduct command.setsSeveral none d (apply command d) := by
  have hchange (f : DigitalBarometer → DigitalBarometer) := Terminal.retains_changeOwn d f
  cases command with
  | unit setting =>
    match setting with
    | .query => exact .unchanged _
    | .set (.pressure unit) => exact .carriedOut (hchange _) rfl
    | .set (.temperature unit) => exact .carriedOut (hchange _) rfl
    | .invalid text => exact .unchanged _
  | line setting =>
    match setting with
    | .query => exact .unchanged _
    | .invalid text => exact .unchanged _
    | .set update =>
      simp only [apply]
      split
      · rename_i fault hfault
        -- The fields that are right have been set.
        exact .partly (hchange _) (isParameterFault_of_update hfault)
      · exact .carriedOut (hchange _) rfl
  | echo setting =>
    match setting with
    | .query => exact .unchanged _
    | .set echo => exact .carriedOut (hchange _) rfl
    | .invalid text => exact .unchanged _
  | height which setting =>
    match setting with
    | .query => exact .unchanged _
    | .set x => exact conduct_store _ _ x _ _ d
    | .invalid text => exact .unchanged _
  | averaging setting =>
    match setting with
    | .query => exact .unchanged _
    | .set x =>
      simp only [apply]
      exact conduct_store _ _ x _ _ d
    | .invalid text => exact .unchanged _
  | stability setting =>
    match setting with
    | .query => exact .unchanged _
    | .set x =>
      simp only [apply]
      exact conduct_store _ _ x _ _ d
    | .invalid text => exact .unchanged _
  | errors => exact .unchanged _

instance : Conducted Registers where
  setsSeveral command := command.setsSeveral Command.setsSeveral
  conduct := kind.conduct_apply conduct_apply

/-! ## What its own commands leave alone -/

/-- It changes registers of its own only. -/
theorem changeOwn_store (name : String) (range : Float × Float) (x : Float)
    (put : Float → DigitalBarometer → DigitalBarometer) (answer : DigitalBarometer → Text)
    (d : Device Registers) :
    ∃ f, (store name range x put answer d).1 = Terminal.changeOwn f d := by
  rw [store]
  split
  · exact ⟨put x, rfl⟩
  · exact ⟨id, rfl⟩

/-- The commands of its own change nothing but the registers of its own. -/
theorem changeOwn_apply (command : Command) (d : Device Registers) :
    ∃ f, (apply command d).1 = Terminal.changeOwn f d := by
  cases command with
  | unit setting =>
    match setting with
    | .query => exact ⟨id, rfl⟩
    | .set (.pressure unit) => exact ⟨_, rfl⟩
    | .set (.temperature unit) => exact ⟨_, rfl⟩
    | .invalid text => exact ⟨id, rfl⟩
  | line setting =>
    cases setting with
    | query => exact ⟨id, rfl⟩
    | set update => exact ⟨_, rfl⟩
    | invalid text => exact ⟨id, rfl⟩
  | echo setting =>
    cases setting with
    | query => exact ⟨id, rfl⟩
    | set echo => exact ⟨_, rfl⟩
    | invalid text => exact ⟨id, rfl⟩
  | height which setting =>
    cases setting with
    | query => exact ⟨id, rfl⟩
    | set x => exact changeOwn_store _ _ x _ _ d
    | invalid text => exact ⟨id, rfl⟩
  | averaging setting =>
    cases setting with
    | query => exact ⟨id, rfl⟩
    | set x => exact changeOwn_store _ _ x _ _ d
    | invalid text => exact ⟨id, rfl⟩
  | stability setting =>
    cases setting with
    | query => exact ⟨id, rfl⟩
    | set x => exact changeOwn_store _ _ x _ _ d
    | invalid text => exact ⟨id, rfl⟩
  | errors => exact ⟨id, rfl⟩

/-- The commands of its own have nothing to do with the schedule. -/
theorem schedule_apply (command : Command) (d : Device Registers) :
    (apply command d).1.schedule = d.schedule := by
  obtain ⟨f, hf⟩ := changeOwn_apply command d
  rw [hf]
  rfl

instance : Signaling Registers where
  signals := kind.signals_apply fun command d => .kept (schedule_apply command d)

end DigitalBarometer

end WeatherBus
