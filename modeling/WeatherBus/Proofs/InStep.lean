import WeatherBus.Proofs.SharedLine
import WeatherBus.Proofs.Terminal.Standing

/-! # Barometers and probes in step

The lines of an operator mean the same to digital barometers and to humidity probes, with one
exception: an opening without an address that can be read opens the line to the barometer at address
0, and to no probe.

* **`Terminal.InStep`**, **`Terminal.KeepStep`** — two buses whose instruments stand alike, now and
  after every line;
* **`Terminal.keepStep_iff_of_missing`** — two kinds of instruments that differ in the address of an
  opening without one keep in step exactly as long as there is no such opening;
* **`Terminal.keepStep_iff`** — barometers and probes are two such kinds. -/

namespace WeatherBus

namespace Terminal

section Twins

variable {V R X W Q Y : Type} [Instrument (Terminal V R) (Command X)]
  [Instrument (Terminal W Q) (Command Y)] {bus : Bus (Terminal V R)} {twin : Bus (Terminal W Q)}
  {line : OperatorLine} {a : Nat}

/-- At every address there are instruments that stand alike, or none. -/
def InStep (bus : Bus (Terminal V R)) (twin : Bus (Terminal W Q)) : Prop :=
  ∀ a, standing? a bus = standing? a twin

/-- The same instruments answer a frame with a text, and the same ones with a measurement. -/
structure AnswersAlike (frame : Bytes) (bus : Bus (Terminal V R)) (twin : Bus (Terminal W Q)) :
    Prop where
  text_iff : ∀ a, AnswersWithText frame a bus ↔ AnswersWithText frame a twin
  measurement_iff : ∀ a, AnswersWithMeasurement frame a bus ↔ AnswersWithMeasurement frame a twin

/-- The instruments stand alike at first and after each of some frames, and answer all of them
alike. -/
def KeepStep : List Bytes → Bus (Terminal V R) → Bus (Terminal W Q) → Prop
  | [], bus, twin => InStep bus twin
  | frame :: rest, bus, twin => InStep bus twin ∧ AnswersAlike frame bus twin ∧
      KeepStep rest (bus.dispatch frame).1 (twin.dispatch frame).1

/-- Buses that keep step are in step now. -/
theorem KeepStep.inStep {frames : List Bytes} (h : KeepStep frames bus twin) :
    InStep bus twin := by
  cases frames with
  | nil => exact h
  | cons frame rest => exact h.1

variable [Operated V R] [Operated W Q] [Conducted (Terminal V R)] [Conducted (Terminal W Q)]

/-- A line that means the same command to both kinds keeps them in step. -/
theorem InStep.dispatch (h : InStep bus twin) (hp : bus.WellPlaced) (hq : twin.WellPlaced)
    (hcommand : line.command (Operated.missing V R) = line.command (Operated.missing W Q)) :
    InStep (bus.dispatch line.frame).1 (twin.dispatch line.frame).1 := by
  obtain ⟨request, hread, hrequest⟩ := exists_request (V := V) (R := R) line
  obtain ⟨request', hread', hrequest'⟩ := exists_request (V := W) (R := Q) line
  intro a
  rw [standing?_dispatch hp hread hrequest, standing?_dispatch hq hread' hrequest', hcommand, h a]

/-- Instruments that stand alike answer such a line alike. -/
theorem InStep.answersAlike (h : InStep bus twin) (hp : bus.WellPlaced) (hq : twin.WellPlaced)
    (hcommand : line.command (Operated.missing V R) = line.command (Operated.missing W Q)) :
    AnswersAlike line.frame bus twin := by
  obtain ⟨request, hread, hrequest⟩ := exists_request (V := V) (R := R) line
  obtain ⟨request', hread', hrequest'⟩ := exists_request (V := W) (R := Q) line
  constructor
  · intro a
    rw [AnswersWithText, AnswersWithText,
      exists_mem_contributions_iff hp hread hrequest Sounds.reply_iff,
      exists_mem_contributions_iff hq hread' hrequest' Sounds.reply_iff, hcommand, h a]
  · intro a
    rw [AnswersWithMeasurement, AnswersWithMeasurement,
      exists_mem_contributions_iff hp hread hrequest Sounds.measurements_iff,
      exists_mem_contributions_iff hq hread' hrequest' Sounds.measurements_iff, hcommand, h a]

/-- After an opening without an address, the line is open to the instrument at the address that
stands for it, and to no other. -/
theorem isOpen_standing?_of_callsNobody (hline : line.CallsNobody) (hp : bus.WellPlaced)
    {s : Standing} (hs : standing? a (bus.dispatch line.frame).1 = some s) :
    s.isOpen = true ↔ Operated.missing V R = a := by
  obtain ⟨request, hread, hrequest⟩ := exists_request (V := V) (R := R) line
  rw [standing?_dispatch hp hread hrequest, line.command_of_callsNobody hline] at hs
  obtain ⟨before, -, rfl⟩ := Option.map_eq_some_iff.1 hs
  rw [LineCommand.carryOut, LineCommand.isHeeded, if_pos rfl, LineCommand.obey]
  split
  · rename_i heq
    exact iff_of_true rfl heq
  · rename_i hne
    exact iff_of_false Bool.false_ne_true hne

/-- No line of the operator adds or removes a device. -/
theorem isSome_standing?_dispatch (hp : bus.WellPlaced) (line : OperatorLine) (a : Nat) :
    (standing? a (bus.dispatch line.frame).1).isSome = (standing? a bus).isSome := by
  obtain ⟨request, hread, hrequest⟩ := exists_request (V := V) (R := R) line
  rw [standing?_dispatch hp hread hrequest, Option.isSome_map]

/-- Two buses of which one opens the line to an instrument where the other one does not keep in step
exactly as long as there is no opening without an address. -/
theorem keepStep_iff_of_missing (hp : bus.WellPlaced) (hq : twin.WellPlaced)
    (hmissing : Operated.missing V R = a) (hother : Operated.missing W Q ≠ a)
    (ha : (standing? a bus).isSome = true) (h : InStep bus twin) (lines : List OperatorLine) :
    KeepStep (lines.map OperatorLine.frame) bus twin ↔ ∀ line ∈ lines, ¬ line.CallsNobody := by
  induction lines generalizing bus twin with
  | nil => exact iff_of_true h (List.forall_mem_nil _)
  | cons line rest ih =>
    have hp' := Bus.invariant_wellPlaced.dispatch line.frame hp
    have hq' := Bus.invariant_wellPlaced.dispatch line.frame hq
    have ha' : (standing? a (bus.dispatch line.frame).1).isSome = true := by
      rw [isSome_standing?_dispatch hp, ha]
    rw [List.map_cons, KeepStep, List.forall_mem_cons]
    by_cases hline : line.CallsNobody
    · -- The line is open to an instrument on one bus only.
      refine iff_of_false ?_ fun hall => hall.1 hline
      rintro ⟨-, -, hrest⟩
      obtain ⟨s, hs⟩ := Option.isSome_iff_exists.1 ha'
      have hs' : standing? a (twin.dispatch line.frame).1 = some s := by
        rw [← hs]
        exact (hrest.inStep a).symm
      have hopen := (isOpen_standing?_of_callsNobody hline hp hs).2 hmissing
      exact hother ((isOpen_standing?_of_callsNobody hline hq hs').1 hopen)
    · have hcommand := line.command_eq hline (Operated.missing V R) (Operated.missing W Q)
      rw [ih hp' hq' ha' (h.dispatch hp hq hcommand)]
      exact ⟨fun hall => ⟨hline, hall.2.2⟩,
        fun hall => ⟨h, h.answersAlike hp hq hcommand, hall.2⟩⟩

end Twins

/-! ## Barometers and probes -/

/-- New instruments of two kinds stand alike. -/
theorem standing?_start {V S R X : Type} {kind : Kind V S R X} {count : Nat}
    {start : Bus (Terminal V R)} (hget : ∀ a, start.get? a =
      if a < count then some (kind.new (startMode count) a) else none) (a : Nat) :
    standing? a start = if a < count then some ⟨startMode count, false,
      (startMode count).outputMode⟩ else none := by
  rw [standing?, hget]
  split
  · rfl
  · rfl

/-- Any number of barometers and as many probes, on a bus each, are in step after every line with
one of the seven words, and answer each of them alike, exactly if no line is an opening without an
address that can be read. -/
theorem keepStep_iff {count : Nat} (hsome : 0 < count) (hmany : count ≤ 100) :
    ∃ barometers probes, DigitalBarometer.kind.bus count = .ok barometers ∧
      HumidityProbe.kind.bus count = .ok probes ∧
      ∀ lines : List OperatorLine,
        KeepStep (lines.map OperatorLine.frame) barometers probes ↔
          ∀ line ∈ lines, ¬ line.CallsNobody := by
  obtain ⟨barometers, hbarometers, hget⟩ := DigitalBarometer.kind.exists_bus hsome
    (hmany.trans (by decide)) (by decide)
  obtain ⟨probes, hprobes, hget'⟩ := HumidityProbe.kind.exists_bus hsome hmany (by decide)
  refine ⟨barometers, probes, hbarometers, hprobes, fun lines => ?_⟩
  have hzero : (standing? 0 barometers).isSome = true := by
    rw [standing?_start hget, if_pos hsome, Option.isSome_some]
  refine keepStep_iff_of_missing (a := 0) (Kind.wellPlaced_bus hbarometers)
    (Kind.wellPlaced_bus hprobes) rfl (by decide) hzero (fun a => ?_) lines
  rw [standing?_start hget, standing?_start hget']

/-- Three barometers and three probes are in step up to somebody opens the line without saying to
whom. -/
theorem keepStep_iff_three :
    let opening := OperatorLine.plain .openLine ['1']
    let calling := OperatorLine.plain .send ['2']
    let lost := OperatorLine.plain .openLine "one".toList
    ∃ barometers probes, DigitalBarometer.kind.bus 3 = .ok barometers ∧
      HumidityProbe.kind.bus 3 = .ok probes ∧
      KeepStep ([opening, calling].map OperatorLine.frame) barometers probes ∧
      ¬ KeepStep ([opening, calling, lost].map OperatorLine.frame) barometers probes := by
  intro opening calling lost
  obtain ⟨barometers, probes, hbarometers, hprobes, hiff⟩ :=
    keepStep_iff (show 0 < 3 by decide) (show 3 ≤ 100 by decide)
  refine ⟨barometers, probes, hbarometers, hprobes, (hiff _).2 ?_, mt (hiff _).1 ?_⟩
  · decide
  · decide

/-- A plain `OPEN` opens the line to the first of two barometers, which answers, and to no probe. -/
theorem opening_of_nobody :
    let opening := OperatorLine.bare .openLine
    ∃ barometers probes, DigitalBarometer.kind.bus 2 = .ok barometers ∧
      HumidityProbe.kind.bus 2 = .ok probes ∧
      standing? 0 (barometers.dispatch opening.frame).1 = some ⟨.poll, true, .polled⟩ ∧
      standing? 0 (probes.dispatch opening.frame).1 = some ⟨.poll, false, .polled⟩ ∧
      (barometers.dispatch opening.frame).2.reply ≠ [] ∧
      (probes.dispatch opening.frame).2.reply = [] ∧
      ¬ KeepStep [opening.frame] barometers probes := by
  intro opening
  obtain ⟨barometers, hbarometers, hopen, hreply⟩ :
      ∃ bus, DigitalBarometer.kind.bus 2 = .ok bus ∧
        standing? 0 (bus.dispatch opening.frame).1 = some ⟨.poll, true, .polled⟩ ∧
        (bus.dispatch opening.frame).2.reply ≠ [] :=
    ⟨_, rfl, by decide +kernel, by decide +kernel⟩
  obtain ⟨probes, hprobes, hclosed, hsilent⟩ :
      ∃ bus, HumidityProbe.kind.bus 2 = .ok bus ∧
        standing? 0 (bus.dispatch opening.frame).1 = some ⟨.poll, false, .polled⟩ ∧
        (bus.dispatch opening.frame).2.reply = [] :=
    ⟨_, rfl, by decide +kernel, by decide +kernel⟩
  refine ⟨barometers, probes, hbarometers, hprobes, hopen, hclosed, hreply, hsilent, ?_⟩
  rintro ⟨-, -, hafter⟩
  have hsame := hafter 0
  rw [hopen, hclosed] at hsame
  exact absurd hsame (by decide)

end Terminal

end WeatherBus
