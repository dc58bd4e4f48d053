import WeatherBus.Proofs.Bus.Memory
import WeatherBus.Proofs.BusBarometer.Effect
import WeatherBus.Proofs.DigitalBarometer.Range
import WeatherBus.Proofs.Number.Value
import WeatherBus.Proofs.VisibilitySensor.Effect

/-! # Means over the newest samples

Three kinds of instruments average over the newest samples and keep only so many of them. What is
kept is the front of the whole history, and no window that can be chosen reaches behind it.

* **`IsMean`** — what the mean of a window is, value by value;
* **`Averaging`** — a kind of instrument that keeps the newest values; `Averaging.kept_run` says
  what it has kept after every run;
* **`BusBarometer.window_le`**, **`VisibilitySensor.window_le`**, **`DigitalBarometer.window_le`** —
  no setting asks for more than is kept;
* **`windows_run`** — after every run, each window is the one of the whole history, and what is
  reported is the calibrated mean of it. -/

namespace WeatherBus

open Bus (HistoryInvariant)

/-! ## Means -/

/-- An empty window has no mean. The mean of any other one is the sum of its values, the newest one
first, divided by their number. Sums of doubles start at negative zero. -/
inductive IsMean : List Float → Option Float → Prop where
  | empty : IsMean [] none
  | quotient (x : Float) (xs : List Float) :
      IsMean (x :: xs) (some (xs.foldl (· + ·) (-0.0 + x) / Float.ofNat (xs.length + 1)))

/-- A list of doubles has one mean. -/
theorem isMean_iff {xs : List Float} {mean : Option Float} :
    IsMean xs mean ↔ mean = Binary64.mean? xs := by
  constructor
  · rintro (_ | ⟨x, xs⟩) <;> rfl
  · rintro rfl
    cases xs with
    | nil => exact .empty
    | cons x xs => exact .quotient x xs

/-- The mean that is calculated is the mean. -/
theorem isMean_mean? (xs : List Float) : IsMean xs (Binary64.mean? xs) := isMean_iff.2 rfl

/-! ## Keeping the newest values -/

/-- A kind of instrument that keeps the newest of the values that it takes from samples. -/
class Averaging (R : Type) {A C : outParam Type} [Instrument R C] [Collecting R A] where
  /-- The values that are kept, the newest first. -/
  kept : R → List A
  /-- How many values are kept. -/
  capacity : Nat
  kept_apply : ∀ {request : Request C} {d : Device R}, Collecting.clears request d = false →
    kept (Instrument.apply request d).1.registers = kept d.registers
  kept_clear : ∀ {request : Request C} {d : Device R}, Collecting.clears request d = true →
    kept (Instrument.apply request d).1.registers = []
  kept_observe : ∀ (sample : Sample) (r : R), kept (Instrument.observe sample r) =
    match Collecting.taken? sample r with
    | some x => Recent.push capacity x (kept r)
    | none => kept r

namespace Averaging

variable {R A C : Type} [Instrument R C] [Collecting R A] [Averaging R] {maxAddress : Nat}

/-- Every operation keeps the front of the history. -/
theorem historyInvariant_kept : HistoryInvariant maxAddress fun history (d : Device R) =>
    kept d.registers = history.take (capacity R) where
  apply hclears h := (kept_apply hclears).trans h
  clear hclears _ := (kept_clear hclears).trans List.take_nil.symm
  move _ h := h
  observe {history d} sample h := by
    rw [Device.mapRegisters, kept_observe, h]
    cases Collecting.taken? sample d.registers with
    | none => rfl
    | some x => exact Recent.push_take _ x history
  markSent _ h := h

variable [Conducted R] {start : Bus R} {operations : List Bus.Operation} {a : Nat}

/-- After every run, the front of the history is kept. -/
theorem kept_run (hstart : start.Throughout maxAddress fun d => kept d.registers = [])
    {d : Device (Remembering R A)} (hd : (start.remember.run operations).get? a = some d) :
    kept d.plain.registers = d.history.take (capacity R) := by
  have hempty : start.Throughout maxAddress fun d =>
      kept d.registers = ([] : List A).take (capacity R) := by
    rw [List.take_nil]
    exact hstart
  exact (historyInvariant_kept.run hempty operations).2.2 hd

/-- So a window that is no longer than what is kept is the one of the whole history. -/
theorem exists_take_run (hstart : start.Throughout maxAddress fun d => kept d.registers = [])
    {d : Device R} (hd : (start.run operations).get? a = some d) {window : Nat}
    (hwindow : window ≤ capacity R) :
    ∃ history, (start.remember.run operations).get? a = some (d.withHistory history) ∧
      (kept d.registers).take window = history.take window := by
  obtain ⟨history, hhistory⟩ := Bus.exists_get?_run_remember hd
  refine ⟨history, hhistory, ?_⟩
  have hkept : kept d.registers = history.take (capacity R) := kept_run hstart hhistory
  rw [hkept, List.take_take, Nat.min_eq_left hwindow]

end Averaging

/-! ## The bus barometer -/

namespace BusBarometer

instance : Collecting BusBarometer Float where
  taken? sample _ := sample.number? ['P']
  clears _ _ := false
  accepted h := absurd h Bool.false_ne_true

/-- No command changes what has been taken from samples. -/
theorem Effect.pressures_eq {d e : Device BusBarometer} (h : Effect d e) :
    e.registers.pressures = d.registers.pressures := by
  cases h <;> rfl

instance : Averaging BusBarometer where
  kept r := r.pressures
  capacity := maxFilter
  kept_apply {request d} _ := (effect_apply request d).pressures_eq
  kept_clear h := absurd h Bool.false_ne_true
  kept_observe sample r := by
    show (observe sample r).pressures = _
    simp only [observe, Collecting.taken?]
    cases sample.number? ['P'] <;> rfl

/-- The window of a barometer is not larger than what it keeps. -/
theorem window_le {d : Device BusBarometer} (h : InRange d) :
    max d.registers.filter 1 ≤ maxFilter := max_le h.filter_le (by decide)

/-- A pressure depends on its window only. -/
theorem pressure?_eq_of_window {b : BusBarometer} {history : List Float}
    (h : b.pressures.take (max b.filter 1) = history.take (max b.filter 1)) :
    b.pressure? = BusBarometer.pressure? { b with pressures := history } := by
  rw [pressure?, pressure?, h]

/-- A pressure is the mean of its window, calibrated with gain and offset. -/
theorem exists_isMean_pressure? {b : BusBarometer} {history : List Float}
    (h : b.pressures.take (max b.filter 1) = history.take (max b.filter 1)) :
    ∃ mean, IsMean (history.take (max b.filter 1)) mean ∧
      b.pressure? = mean.map fun x => x * b.gain + b.offset :=
  ⟨_, isMean_mean? _, by rw [pressure?, h]⟩

end BusBarometer

/-! ## The visibility sensor -/

namespace VisibilitySensor

instance : Collecting VisibilitySensor Float where
  taken? sample _ := sample.number? "VIS".toList
  clears _ _ := false
  accepted h := absurd h Bool.false_ne_true

/-- No command changes what has been taken from samples. -/
theorem Effect.visibilities_eq {d e : Device VisibilitySensor} (h : Effect d e) :
    e.registers.visibilities = d.registers.visibilities := by
  cases h <;> rfl

instance : Averaging VisibilitySensor where
  kept r := r.visibilities
  capacity := capacity
  kept_apply {request d} _ := (effect_apply request d).visibilities_eq
  kept_clear h := absurd h Bool.false_ne_true
  kept_observe sample r := by
    show (observe sample r).visibilities = _
    simp only [observe, Collecting.taken?]
    cases sample.number? "VIS".toList <;> rfl

/-- The window of a sensor is not larger than what it keeps. -/
theorem window_le {d : Device VisibilitySensor} (h : InRange d) :
    d.registers.active.averaging ≤ capacity := by
  rcases h.active.averaging with hone | hten
  · rw [hone]
    decide
  · rw [hten]
    decide

/-- A visibility depends on its window only. -/
theorem visibility?_eq_of_window {s : VisibilitySensor} {history : List Float}
    (h : s.visibilities.take s.active.averaging = history.take s.active.averaging) :
    s.visibility? = VisibilitySensor.visibility? { s with visibilities := history } := by
  rw [visibility?, visibility?, h]

/-- A visibility is the mean of its window, calibrated with the span, in the chosen unit. -/
theorem exists_isMean_visibility? {s : VisibilitySensor} {history : List Float}
    (h : s.visibilities.take s.active.averaging = history.take s.active.averaging) :
    ∃ mean, IsMean (history.take s.active.averaging) mean ∧
      (s.active.unit = .metre → s.visibility? = mean.map (· * s.span)) ∧
      (s.active.unit = .foot → s.visibility? = mean.map fun x => feetOfMetres (x * s.span)) := by
  refine ⟨_, isMean_mean? _, fun hunit => ?_, fun hunit => ?_⟩
  · rw [visibility?, hunit, h]
  · rw [visibility?, hunit, h]

end VisibilitySensor

/-! ## The digital barometer -/

namespace DigitalBarometer

/-- A sample counts if it names the pressure of any module. A restart forgets what came before. -/
instance : Collecting Registers (Modules (Option Float)) where
  taken? sample _ :=
    if (pressuresOf sample).toList.any Option.isSome then some (pressuresOf sample) else none
  clears := Terminal.restarts
  accepted {request d} h := by
    have happly : Instrument.apply request d = kind.apply request d := rfl
    exact ⟨_, congrArg Prod.snd (happly.trans (Terminal.apply_of_restarts h)), rfl⟩

/-- A number that is stored does not touch the samples. -/
theorem samples_store (name : String) (range : Float × Float) (x : Float)
    {put : Float → DigitalBarometer → DigitalBarometer} (answer : DigitalBarometer → Text)
    {d : Device Registers} (hput : (put x d.registers.own).samples = d.registers.own.samples) :
    (store name range x put answer d).1.registers.own.samples = d.registers.own.samples := by
  rw [store]
  split
  · exact hput
  · rfl

/-- The commands of its own change settings only. -/
theorem samples_apply (command : Command) (d : Device Registers) :
    (apply command d).1.registers.own.samples = d.registers.own.samples := by
  cases command with
  | unit setting =>
    match setting with
    | .query => rfl
    | .set (.pressure unit) => rfl
    | .set (.temperature unit) => rfl
    | .invalid text => rfl
  | line setting => cases setting <;> rfl
  | echo setting => cases setting <;> rfl
  | height which setting =>
    cases setting with
    | query => rfl
    | set x =>
      refine samples_store _ _ x _ ?_
      cases which <;> rfl
    | invalid text => rfl
  | averaging setting =>
    cases setting with
    | query => rfl
    | set x => exact samples_store _ _ x _ rfl
    | invalid text => rfl
  | stability setting =>
    cases setting with
    | query => rfl
    | set x => exact samples_store _ _ x _ rfl
    | invalid text => rfl
  | errors => rfl

instance : Averaging Registers where
  kept r := r.own.samples
  capacity := maxAveraging
  kept_apply {request d} h := by
    show (kind.apply request d).1.registers.own.samples = d.registers.own.samples
    rcases Terminal.own_apply h with hsame | ⟨command, hcommand⟩
    · rw [hsame]
    · rw [hcommand]
      exact samples_apply command d
  kept_clear {request d} h := by
    show (kind.apply request d).1.registers.own.samples = []
    rw [Terminal.apply_of_restarts h]
    rfl
  kept_observe sample r := by
    show (observe sample r.own).samples = _
    simp only [observe, Collecting.taken?]
    split <;> rfl

/-- The window of a digital barometer is not larger than what it keeps. -/
theorem window_le {b : DigitalBarometer} (h : InRange b) : b.window ≤ maxAveraging := by
  have hmax : Binary64.IsWhole 600.0 600 := ⟨43, by decide, rfl, by decide⟩
  exact max_le (Binary64.roundUp_le_of_inRange
    (Binary64.inRange_iff.2 ⟨h.averaging.low_le, h.averaging.le_high⟩) hmax) (by decide)

/-- The window is the averaging time in whole seconds, halves upwards, but at least one sample. -/
theorem exists_window_eq {b : DigitalBarometer} (h : InRange b) :
    ∃ q : ℚ, Binary64.value? b.averaging = some ((q : WithTop ℚ) : WithBot (WithTop ℚ)) ∧
      b.window = max ⌊q + 1 / 2⌋₊ 1 := by
  have hmax : Binary64.IsWhole 600.0 600 := ⟨43, by decide, rfl, by decide⟩
  obtain ⟨q, hq⟩ := Binary64.exists_value?_of_inRange
    (Binary64.inRange_iff.2 ⟨h.averaging.low_le, h.averaging.le_high⟩) hmax
  exact ⟨q, hq, by rw [window, Binary64.roundUp_eq hq]⟩

/-- The pressures of all modules depend on the window only. -/
theorem modulePressures_eq_of_window {b : DigitalBarometer}
    {history : List (Modules (Option Float))}
    (h : b.samples.take b.window = history.take b.window) :
    b.modulePressures = DigitalBarometer.modulePressures { b with samples := history } := by
  have hwindow : DigitalBarometer.window { b with samples := history } = b.window := rfl
  rw [modulePressures, modulePressures, hwindow, h]

/-- The pressure of a module is the mean of what the samples of the window say about it. -/
theorem isMean_modulePressures {b : DigitalBarometer} {history : List (Modules (Option Float))}
    (h : b.samples.take b.window = history.take b.window) (m : Module) :
    IsMean ((history.take b.window).filterMap (Modules.get m)) (b.modulePressures.get m) := by
  rw [modulePressures, h]
  cases m <;> exact isMean_mean? _

end DigitalBarometer

/-! ## Every run -/

/-- After every run, the window over which a bus barometer, a visibility sensor or a digital
barometer averages is the one of its whole history, and what it reports is the mean of this window,
calibrated, so that it is what it would report if it kept everything. The history of a digital
barometer goes back to its last restart, that of the others to the start of the run. -/
theorem windows_run (operations : List Bus.Operation) :
    (∀ {count : Nat} {start : Bus BusBarometer}, BusBarometer.bus count = .ok start →
      ∀ {a : Nat} {d : Device BusBarometer}, (start.run operations).get? a = some d →
        let history := ((Bus.samples operations).filterMap (·.number? ['P'])).reverse
        let window := history.take (max d.registers.filter 1)
        d.registers.pressures.take (max d.registers.filter 1) = window ∧
          (∃ mean, IsMean window mean ∧ d.registers.pressure? =
            mean.map fun x => x * d.registers.gain + d.registers.offset) ∧
          d.registers.pressure? =
            BusBarometer.pressure? { d.registers with pressures := history }) ∧
    (∀ {count : Nat} {start : Bus VisibilitySensor}, VisibilitySensor.bus count = .ok start →
      ∀ {a : Nat} {d : Device VisibilitySensor}, (start.run operations).get? a = some d →
        let history := ((Bus.samples operations).filterMap (·.number? "VIS".toList)).reverse
        let window := history.take d.registers.active.averaging
        d.registers.visibilities.take d.registers.active.averaging = window ∧
          (∃ mean, IsMean window mean ∧
            (d.registers.active.unit = .metre →
              d.registers.visibility? = mean.map (· * d.registers.span)) ∧
            (d.registers.active.unit = .foot →
              d.registers.visibility? = mean.map fun x => feetOfMetres (x * d.registers.span))) ∧
          d.registers.visibility? =
            VisibilitySensor.visibility? { d.registers with visibilities := history }) ∧
    ∀ {count : Nat} {start : Bus DigitalBarometer.Registers},
      DigitalBarometer.kind.bus count = .ok start →
      ∀ {a : Nat} {d : Device DigitalBarometer.Registers},
        (start.run operations).get? a = some d →
        ∃ (history : List (DigitalBarometer.Modules (Option Float))) (averaging : ℚ),
          (start.remember.run operations).get? a = some (d.withHistory history) ∧
          Binary64.value? d.registers.own.averaging =
            some ((averaging : WithTop ℚ) : WithBot (WithTop ℚ)) ∧
          let window := history.take (max ⌊averaging + 1 / 2⌋₊ 1)
          d.registers.own.samples.take (max ⌊averaging + 1 / 2⌋₊ 1) = window ∧
            (∀ m, IsMean (window.filterMap (DigitalBarometer.Modules.get m))
              (d.registers.own.modulePressures.get m)) ∧
            d.registers.own.modulePressures =
              DigitalBarometer.modulePressures { d.registers.own with samples := history } := by
  refine ⟨fun {count start} hstart {a d} hd => ?_, fun {count start} hstart {a d} hd => ?_,
    fun {count start} hstart {a d} hd => ?_⟩
  · have hwindow := BusBarometer.window_le ((BusBarometer.inRange_run hstart operations).2.2 hd)
    obtain ⟨history, hhistory, htake⟩ := Averaging.exists_take_run
      (BusBarometer.throughout_bus (fun _ => rfl) hstart) hd hwindow
    have hall := Bus.history_run (fun _ _ => rfl) (fun _ _ => rfl) hhistory
    rw [Device.history_withHistory] at hall
    rw [hall] at htake
    exact ⟨htake, BusBarometer.exists_isMean_pressure? htake,
      BusBarometer.pressure?_eq_of_window htake⟩
  · have hwindow :=
      VisibilitySensor.window_le ((VisibilitySensor.inRange_run hstart operations).2.2 hd)
    obtain ⟨history, hhistory, htake⟩ := Averaging.exists_take_run
      (VisibilitySensor.throughout_bus (fun _ _ => rfl) hstart) hd hwindow
    have hall := Bus.history_run (fun _ _ => rfl) (fun _ _ => rfl) hhistory
    rw [Device.history_withHistory] at hall
    rw [hall] at htake
    exact ⟨htake, VisibilitySensor.exists_isMean_visibility? htake,
      VisibilitySensor.visibility?_eq_of_window htake⟩
  · have hrange := (Terminal.own_run DigitalBarometer.ownInvariant_inRange
      DigitalBarometer.inRange_initial hstart operations).2.2 hd
    obtain ⟨history, hhistory, htake⟩ := Averaging.exists_take_run
      (Terminal.Kind.throughout_bus (fun _ _ _ => rfl) hstart) hd
      (DigitalBarometer.window_le hrange)
    obtain ⟨averaging, hvalue, hwindow⟩ := DigitalBarometer.exists_window_eq hrange
    refine ⟨history, averaging, hhistory, hvalue, ?_⟩
    rw [← hwindow]
    exact ⟨htake, DigitalBarometer.isMean_modulePressures htake,
      DigitalBarometer.modulePressures_eq_of_window htake⟩

/-- Windows are made longer after the samples came in: to all that a bus barometer and a visibility
sensor keep, when one sample more has come in, and to two samples since the restart of a digital
barometer. The means are those of the longer windows. -/
theorem windows_run_raised :
    (∃ low high start d, Sample.parse? "P=900".toList = some low ∧
      Sample.parse? "P=1000.5".toList = some high ∧ BusBarometer.bus 1 = .ok start ∧
      let operations := List.replicate 2 (.observe low) ++ List.replicate 98 (.observe high) ++
        [.dispatch (Utf8.encode "F,99".toList)]
      let history := ((Bus.samples operations).filterMap (·.number? ['P'])).reverse
      (start.run operations).get? 0 = some d ∧ d.registers.filter = 99 ∧
        history = List.replicate 98 1000.5 ++ [900.0, 900.0] ∧
        d.registers.pressures.length = 99 ∧
        d.registers.pressure? = some (98949.0 / 99.0)) ∧
    (∃ low high start d, Sample.parse? "VIS=80".toList = some low ∧
      Sample.parse? "VIS=2000".toList = some high ∧ VisibilitySensor.bus 1 = .ok start ∧
      let operations := .observe low :: List.replicate 10 (.observe high) ++
        [.dispatch (VisibilitySensor.frame "SETNC:0:0::::::10".toList)]
      let history := ((Bus.samples operations).filterMap (·.number? "VIS".toList)).reverse
      (start.run operations).get? 0 = some d ∧ d.registers.active.averaging = 10 ∧
        history = List.replicate 10 2000.0 ++ [80.0] ∧ d.registers.visibilities.length = 10 ∧
        d.registers.visibility? = some 2000.0) ∧
    ∃ first second start d history, Sample.parse? "P1=990 P2=991".toList = some first ∧
      Sample.parse? "P=992 P3=993".toList = some second ∧
      DigitalBarometer.kind.bus 1 = .ok start ∧
      let operations := [.observe first, .dispatch (Utf8.encode "RESET".toList), .observe second,
        .observe first, .dispatch (Utf8.encode "AVRG 2".toList)]
      (start.run operations).get? 0 = some d ∧
        (start.remember.run operations).get? 0 = some (d.withHistory history) ∧
        history = [DigitalBarometer.pressuresOf first, DigitalBarometer.pressuresOf second] ∧
        d.registers.own.modulePressures.get .first = some 991.0 ∧
        d.registers.own.modulePressures.get .second = some 991.0 ∧
        d.registers.own.modulePressures.get .third = some 993.0 := by
  refine ⟨?_, ?_, ?_⟩
  · obtain ⟨low, high, start, hlow, hhigh, hstart, hhistory, hrun⟩ : ∃ low high start,
        Sample.parse? "P=900".toList = some low ∧ Sample.parse? "P=1000.5".toList = some high ∧
        BusBarometer.bus 1 = .ok start ∧
        (let operations := List.replicate 2 (.observe low) ++ List.replicate 98 (.observe high) ++
          [.dispatch (Utf8.encode "F,99".toList)]
        ((Bus.samples operations).filterMap (·.number? ['P'])).reverse =
          List.replicate 98 1000.5 ++ [900.0, 900.0] ∧
        ((start.run operations).get? 0).map
          (fun d => (d.registers.filter, d.registers.pressures.length, d.registers.gain,
            d.registers.offset)) = some (99, 99, 1.0, 0.0)) :=
      ⟨_, _, _, rfl, rfl, rfl, by decide +kernel⟩
    obtain ⟨d, hd, hsettings⟩ := Option.map_eq_some_iff.1 hrun
    obtain ⟨hfilter, hsettings⟩ := Prod.mk.inj hsettings
    obtain ⟨hkept, hsettings⟩ := Prod.mk.inj hsettings
    obtain ⟨hgain, hoffset⟩ := Prod.mk.inj hsettings
    obtain ⟨-, ⟨mean, hmean, hpressure⟩, -⟩ := (windows_run _).1 hstart hd
    rw [hhistory, hfilter, isMean_iff] at hmean
    refine ⟨low, high, start, d, hlow, hhigh, hstart, hd, hfilter, hhistory, hkept, ?_⟩
    rw [hpressure, hmean, hgain, hoffset]
    decide +kernel
  · obtain ⟨low, high, start, hlow, hhigh, hstart, hhistory, hrun⟩ : ∃ low high start,
        Sample.parse? "VIS=80".toList = some low ∧ Sample.parse? "VIS=2000".toList = some high ∧
        VisibilitySensor.bus 1 = .ok start ∧
        (let operations := .observe low :: List.replicate 10 (.observe high) ++
          [.dispatch (VisibilitySensor.frame "SETNC:0:0::::::10".toList)]
        ((Bus.samples operations).filterMap (·.number? "VIS".toList)).reverse =
          List.replicate 10 2000.0 ++ [80.0] ∧
        ((start.run operations).get? 0).map
          (fun d => (d.registers.active.averaging, d.registers.visibilities.length,
            d.registers.active.unit, d.registers.span)) = some (10, 10, .metre, 1.0)) :=
      ⟨_, _, _, rfl, rfl, rfl, by decide +kernel⟩
    obtain ⟨d, hd, hsettings⟩ := Option.map_eq_some_iff.1 hrun
    obtain ⟨haveraging, hsettings⟩ := Prod.mk.inj hsettings
    obtain ⟨hkept, hsettings⟩ := Prod.mk.inj hsettings
    obtain ⟨hunit, hspan⟩ := Prod.mk.inj hsettings
    obtain ⟨-, ⟨mean, hmean, hvisibility, -⟩, -⟩ := (windows_run _).2.1 hstart hd
    rw [hhistory, haveraging, isMean_iff] at hmean
    refine ⟨low, high, start, d, hlow, hhigh, hstart, hd, haveraging, hhistory, hkept, ?_⟩
    rw [hvisibility hunit, hmean, hspan]
    decide +kernel
  · obtain ⟨first, second, start, hfirst, hsecond, hstart, hrun, hremembered, hmeans⟩ :
        ∃ first second start, Sample.parse? "P1=990 P2=991".toList = some first ∧
        Sample.parse? "P=992 P3=993".toList = some second ∧
        DigitalBarometer.kind.bus 1 = .ok start ∧
        (let operations := [.observe first, .dispatch (Utf8.encode "RESET".toList),
          .observe second, .observe first, .dispatch (Utf8.encode "AVRG 2".toList)]
        let history := [DigitalBarometer.pressuresOf first, DigitalBarometer.pressuresOf second]
        ((start.run operations).get? 0).map (·.registers.own.averaging) = some 2.0 ∧
        ((start.remember.run operations).get? 0).map Device.history = some history ∧
        ∀ m, Binary64.mean? ((history.take 2).filterMap (DigitalBarometer.Modules.get m)) =
          DigitalBarometer.Modules.get m ⟨some 991.0, some 991.0, some 993.0⟩) :=
      ⟨_, _, _, rfl, rfl, rfl, by decide +kernel, by decide +kernel, fun m => by
        cases m <;> decide +kernel⟩
    obtain ⟨d, hd, haveraging⟩ := Option.map_eq_some_iff.1 hrun
    obtain ⟨history, averaging, hhistory, hvalue, -, hmean, -⟩ := (windows_run _).2.2 hstart hd
    have htwo : Binary64.value? 2.0 = some (((2 : ℚ) : WithTop ℚ) : WithBot (WithTop ℚ)) := by
      have hparts : Binary64.parts 2.0 = .finite false (2 ^ 52) (-51) := by decide +kernel
      have hdyadic : Binary64.dyadic false (2 ^ 52) (-51) = 2 := by
        rw [Binary64.dyadic_false]
        norm_num
      rw [Binary64.value?_of_parts hparts, hdyadic]
    rw [haveraging, htwo] at hvalue
    obtain rfl : 2 = averaging :=
      WithTop.coe_injective (WithBot.coe_injective (Option.some.inj hvalue))
    have hlength : max ⌊(2 : ℚ) + 1 / 2⌋₊ 1 = 2 := by
      have hfloor : ⌊(2 : ℚ) + 1 / 2⌋₊ = 2 := by norm_num [Nat.floor_eq_iff]
      rw [hfloor]
      rfl
    rw [hhistory] at hremembered
    obtain rfl := Option.some.inj hremembered
    rw [hlength] at hmean
    have hmodule (m : DigitalBarometer.Module) :=
      (isMean_iff.1 (hmean m)).trans (hmeans m)
    exact ⟨first, second, start, d, _, hfirst, hsecond, hstart, hd, hhistory, rfl,
      hmodule .first, hmodule .second, hmodule .third⟩

end WeatherBus
