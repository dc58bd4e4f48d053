import WeatherBus.HumidityProbe.Instrument
import WeatherBus.Proofs.Terminal.Conduct

/-! # The humidity probe keeps to the rules

The limits of the heating are the only settings that are set several at a time. No command of its
own changes anything but the registers of its own, so none changes the schedule. -/

namespace WeatherBus

namespace HumidityProbe

/-- Whether a command sets several fields. -/
def Command.setsSeveral : Command → Bool
  | .heating (.set (.limits _ _ _)) => true
  | _ => false

/-- A limit that is refused is a fault of a parameter. -/
theorem isParameterFault_of_chooseLimit {name : String} {high old : Nat} {field : Option Int}
    {fault : Fault} (h : (chooseLimit name high field old).2 = some fault) :
    fault.isParameterFault = true := by
  unfold chooseLimit at h
  split at h
  · simp at h
  · split at h
    · simp at h
    · rw [← Option.some.inj h, Fault.outOfWholeRange, Fault.isParameterFault]

/-- A wrong limit of the heating is a fault of a parameter. -/
theorem isParameterFault_of_update {humidity temperature time : Option Int} {h : Heating}
    {fault : Fault} (hf : (h.update humidity temperature time).2 = some fault) :
    fault.isParameterFault = true := by
  have hmem := Fault.mem_of_first? hf
  rw [List.mem_cons, List.mem_cons, List.mem_singleton] at hmem
  rcases hmem with hm | hm | hm
  · exact isParameterFault_of_chooseLimit hm.symm
  · exact isParameterFault_of_chooseLimit hm.symm
  · exact isParameterFault_of_chooseLimit hm.symm

/-- The commands of its own keep to the rules. -/
theorem conduct_apply (command : Command) (d : Device Registers) :
    Conduct command.setsSeveral none d (apply command d) := by
  have hchange (f : HumidityProbe → HumidityProbe) := Terminal.retains_changeOwn d f
  cases command with
  | units setting =>
    match setting with
    | .query => exact .unchanged _
    | .set units => exact .carriedOut (hchange _) rfl
    | .invalid text => exact .unchanged _
  | heating setting =>
    match setting with
    | .query => exact .unchanged _
    | .invalid text => exact .unchanged _
    | .set (.enable enabled) => exact .carriedOut (hchange _) rfl
    | .set (.limits humidity temperature time) =>
      simp only [apply]
      split
      · rename_i fault hfault
        -- The limits that are right have been set.
        exact .partly (hchange _) (isParameterFault_of_update hfault)
      · exact .carriedOut (hchange _) rfl

instance : Conducted Registers where
  setsSeveral command := command.setsSeveral Command.setsSeveral
  conduct := kind.conduct_apply conduct_apply

/-- The commands of its own change nothing but the registers of its own. -/
theorem changeOwn_apply (command : Command) (d : Device Registers) :
    ∃ f, (apply command d).1 = Terminal.changeOwn f d := by
  cases command with
  | units setting =>
    cases setting with
    | query => exact ⟨id, rfl⟩
    | set units => exact ⟨_, rfl⟩
    | invalid text => exact ⟨id, rfl⟩
  | heating setting =>
    match setting with
    | .query => exact ⟨id, rfl⟩
    | .set (.enable enabled) => exact ⟨_, rfl⟩
    | .set (.limits humidity temperature time) => exact ⟨_, rfl⟩
    | .invalid text => exact ⟨id, rfl⟩

/-- The commands of its own have nothing to do with the schedule. -/
theorem schedule_apply (command : Command) (d : Device Registers) :
    (apply command d).1.schedule = d.schedule := by
  obtain ⟨f, hf⟩ := changeOwn_apply command d
  rw [hf]
  rfl

instance : Signaling Registers where
  signals := kind.signals_apply fun command d => .kept (schedule_apply command d)

end HumidityProbe

end WeatherBus
