import Mathlib.Data.List.Induction
import WeatherBus.Proofs.Bus.Fate
import WeatherBus.Proofs.Kinds

/-! # The interval that is reported and the one that is kept

A barometer stores its interval twice: in hundredths of a second, which it reports, and in the
schedule by which it sends. Only the command that chooses an interval writes them, and it writes
both. A new barometer, however, comes with none to report and with a second in its schedule.

* **`BusBarometer.IsInStep`** — the barometer sends as it reports; `IsInStep.of_isDue` says what
  this means for its messages;
* **`rates_apply`**, **`isInStep_apply`** — what the commands do to the two intervals;
* **`isInStep_iff_chosen`** — a barometer sends as it reports if and only if an interval has been
  chosen for it;
* **`sends_unreported`** — a barometer that has only been started sends although it reports no
  interval. -/

namespace WeatherBus

namespace BusBarometer

/-- The barometer sends in the interval that it reports. -/
def IsInStep (d : Device BusBarometer) : Prop := d.schedule.interval = d.registers.interval * 10

/-- A barometer that sends as it reports is due in the interval that it reports, and without one it
is never due. -/
theorem IsInStep.of_isDue {d : Device BusBarometer} {now : Nat} (h : IsInStep d)
    (hdue : d.schedule.isDue now = true) : d.registers.interval ≠ 0 ∧
      ∀ last, d.schedule.lastSent = some last → last + d.registers.interval * 10 ≤ now := by
  obtain ⟨-, hpositive, hlate⟩ := Schedule.isDue_iff.1 hdue
  rw [h] at hpositive hlate
  exact ⟨fun hzero => hpositive (by rw [hzero]), hlate⟩

/-- Whether a command chooses an interval. One that is out of range is not chosen. -/
def Command.choosesInterval : Command → Bool
  | .autoSend _ (some seconds) => Binary64.inRange 0.0 maxInterval seconds
  | _ => false

/-- Only the command for format and interval chooses an interval, by one that is in the range. -/
theorem exists_of_choosesInterval {command : Command} (h : command.choosesInterval = true) :
    ∃ format seconds, command = .autoSend format (some seconds) ∧
      Binary64.inRange 0.0 maxInterval seconds = true := by
  unfold Command.choosesInterval at h
  split at h
  · exact ⟨_, _, rfl, h⟩
  · exact absurd h (by decide)

/-- The interval that is reported, and the one that is kept. -/
def rates (d : Device BusBarometer) : Nat × Nat := (d.registers.interval, d.schedule.interval)

/-- Whether a barometer is in step is seen from its rates. -/
theorem isInStep_iff_rates {d : Device BusBarometer} :
    IsInStep d ↔ (rates d).2 = (rates d).1 * 10 := .rfl

/-! ## One command -/

section Commands

variable {d : Device BusBarometer}

/-- Whether one of the two is wrong or not, format and interval are chosen one after the other. -/
theorem autoSend_fst (format : Option Int) (interval : Option Float) (d : Device BusBarometer) :
    (autoSend format interval d).1 = (chooseInterval interval (chooseFormat format d).1).1 := by
  simp only [autoSend]
  split
  · rfl
  · rfl

/-- A choice of the format leaves the rates alone. -/
theorem rates_chooseFormat (format : Option Int) (d : Device BusBarometer) :
    rates (chooseFormat format d).1 = rates d := by
  unfold chooseFormat
  split
  · rfl
  · split
    · rfl
    · rfl

/-- An interval is written to both places. -/
theorem isInStep_setInterval (seconds : Float) (d : Device BusBarometer) :
    IsInStep (setInterval seconds d) := by
  simp only [setInterval, IsInStep]
  split
  · rfl
  · rfl

/-- A command that stores a number leaves them alone if it does not store an interval. -/
theorem rates_store (name : String) (high : Nat) (n : Int)
    {put : Nat → BusBarometer → BusBarometer} (hput : ∀ v r, (put v r).interval = r.interval)
    (d : Device BusBarometer) : rates (store name high n put d).1 = rates d := by
  rw [store]
  split
  · rename_i value _
    have hsame : (put value d.registers).interval = d.registers.interval := hput value _
    simp only [rates, Device.mapRegisters, hsame]
  · rfl

/-- Only a command that chooses an interval changes one of the two. -/
theorem rates_apply (request : Request Command) (d : Device BusBarometer)
    (h : request.command.choosesInterval = false) : rates (apply request d).1 = rates d := by
  obtain ⟨target, checksum, command, text⟩ := request
  cases command with
  | queryAutoSend => rfl
  | autoSend format interval =>
    -- The interval is left out or out of range, so only the format is chosen.
    have hinterval : (chooseInterval interval (chooseFormat format d).1).1 =
        (chooseFormat format d).1 := by
      cases interval with
      | none => rfl
      | some seconds =>
        have hrange : Binary64.inRange 0.0 maxInterval seconds = false := h
        simp only [chooseInterval, hrange, Bool.false_eq_true, if_false]
    rw [apply, autoSend_fst, hinterval, rates_chooseFormat]
  | queryAddress => rfl
  | setAddress n => rfl
  | queryUnit => rfl
  | setUnit n =>
    apply rates_store
    exact fun _ _ => rfl
  | queryFilter => rfl
  | setFilter n =>
    apply rates_store
    exact fun _ _ => rfl
  | queryChecksum => rfl
  | setChecksum n =>
    apply rates_store
    exact fun _ _ => rfl
  | calibrate number point value =>
    simp only [apply]
    fun_cases calibrate number point value d <;> rfl
  | poll => rfl
  | resume => rfl
  | stop => rfl
  | identify => rfl
  | unknown text => rfl

/-- A command that chooses an interval writes it to both places, also if its format is refused. -/
theorem isInStep_apply (request : Request Command) (d : Device BusBarometer)
    (h : request.command.choosesInterval = true) : IsInStep (apply request d).1 := by
  obtain ⟨target, checksum, command, text⟩ := request
  obtain ⟨format, seconds, rfl, hrange⟩ := exists_of_choosesInterval h
  have hset : (chooseInterval (some seconds) (chooseFormat format d).1).1 =
      setInterval seconds (chooseFormat format d).1 := by
    simp only [chooseInterval, hrange, if_true]
  rw [apply, autoSend_fst, hset]
  exact isInStep_setInterval seconds _

end Commands

/-! ## Runs -/

/-- Rates do not depend on the place of a device, nor on samples and records. -/
theorem lasting_rates : Bus.Lasting rates where
  move _ _ := rfl
  observe _ _ := rfl
  markSent _ _ := rfl

/-- A new barometer reports no interval and keeps one of a second. -/
theorem rates_new (address : Nat) : rates (new address) = (0, 1000) := rfl

section Runs

variable {start : Bus BusBarometer} {count o : Nat} {operations : List Bus.Operation}
  {bus : Bus (Tracked BusBarometer)} {d : Device (Tracked BusBarometer)}

/-- What holds of every new barometer holds throughout the bus at the start. -/
theorem throughout_bus {P : Device BusBarometer → Prop} (hnew : ∀ address, P (new address))
    (h : BusBarometer.bus count = .ok start) : start.Throughout maxAddress P := by
  rw [BusBarometer.bus] at h
  split at h
  · exact absurd h (by simp)
  · split at h
    · exact Bus.throughout_of_insertAll (List.forall_mem_singleton.2 (hnew 0)) h
    · refine Bus.throughout_of_insertAll (fun d hd => ?_) h
      obtain ⟨n, -, rfl⟩ := List.mem_map.1 hd
      exact hnew (n + 1)

/-- When a barometer has carried out a command that chooses an interval, it sends as it reports. -/
theorem isInStep_operate (h : bus.InOrder) (hd : bus.ofOrigin? o = some d)
    {operation : Bus.Operation} (hchosen : bus.Obeys o Command.choosesInterval operation) :
    ∃ e, (bus.operate operation).ofOrigin? o = some e ∧ IsInStep e.forget := by
  obtain ⟨frame, request, rfl, hout, hchooses⟩ := hchosen
  obtain ⟨now, e, -, -, he, hafter⟩ := h.carried_of_carriesOut hd hout
  refine ⟨e, hafter, ?_⟩
  rw [isInStep_iff_rates, he.map_eq lasting_rates.move]
  exact isInStep_apply request d.forget hchooses

/-- As long as no interval has been chosen for a barometer, its intervals are those it came with.
From then on it sends as it reports. -/
theorem rates_run (h : BusBarometer.bus count = .ok start) (ho : o ∈ start.addresses)
    (operations : List Bus.Operation) : ∃ d, (start.track.run operations).ofOrigin? o = some d ∧
      (¬ start.track.ObeysIn o Command.choosesInterval operations → rates d.forget = (0, 1000)) ∧
      (start.track.ObeysIn o Command.choosesInterval operations → IsInStep d.forget) := by
  have hstart := throughout_bus (P := fun d => rates d = (0, 1000)) rates_new h
  induction operations using List.reverseRecOn with
  | nil =>
    obtain ⟨d, hd, hfound⟩ := hstart.1.ofOrigin?_track ho
    exact ⟨_, hfound, fun _ => hstart.2.2 hd, fun hnone => absurd hnone id⟩
  | append_singleton operations operation ih =>
    obtain ⟨d, hd, hfresh, hstep⟩ := ih
    have horder : (start.track.run operations).InOrder :=
      Bus.invariant_inOrder.run operations hstart.1.inOrder_track
    have hsplit : start.track.ObeysIn o Command.choosesInterval (operations ++ [operation]) ↔
        start.track.ObeysIn o Command.choosesInterval operations ∨
          (start.track.run operations).Obeys o Command.choosesInterval operation := by
      rw [Bus.obeysIn_append]
      simp [Bus.ObeysIn]
    rw [Bus.run_append, hsplit]
    by_cases hchosen : (start.track.run operations).Obeys o Command.choosesInterval operation
    · obtain ⟨e, he, hin⟩ := isInStep_operate horder hd hchosen
      exact ⟨e, he, fun hnot => absurd (.inr hchosen) hnot, fun _ => hin⟩
    · -- Nothing has happened to the intervals.
      obtain ⟨e, he, hsame⟩ := lasting_rates.operate rates_apply horder hd hchosen
      refine ⟨e, he, fun hnot => ?_, fun hor => ?_⟩
      · rw [hsame]
        exact hfresh fun hbefore => hnot (.inl hbefore)
      · rw [isInStep_iff_rates, hsame]
        exact hstep (hor.resolve_right hchosen)

end Runs

/-- In every run a barometer sends in the interval that it reports if and only if an interval has
been chosen for it. Then it is due in this interval only, and never due if it reports none. Until
then it reports none, and keeps an interval of a second: in continuous mode it is due at once, and
from then on a second after each message. -/
theorem isInStep_iff_chosen {count : Nat} {start : Bus BusBarometer}
    (h : BusBarometer.bus count = .ok start) {o : Nat} (ho : o ∈ start.addresses)
    (operations : List Bus.Operation) : ∃ d, (start.track.run operations).ofOrigin? o = some d ∧
      (IsInStep d.forget ↔ start.track.ObeysIn o Command.choosesInterval operations) ∧
      (IsInStep d.forget → ∀ now, d.forget.schedule.isDue now = true →
        d.forget.registers.interval ≠ 0 ∧ ∀ last, d.forget.schedule.lastSent = some last →
          last + d.forget.registers.interval * 10 ≤ now) ∧
      (¬ IsInStep d.forget → d.forget.registers.interval = 0 ∧
        ∀ now, d.forget.schedule.isDue now = true ↔ d.forget.schedule.mode = .continuous ∧
          ∀ last, d.forget.schedule.lastSent = some last → last + 1000 ≤ now) := by
  obtain ⟨d, hd, hfresh, hstep⟩ := rates_run h ho operations
  have hiff : IsInStep d.forget ↔ start.track.ObeysIn o Command.choosesInterval operations := by
    refine ⟨fun hin => ?_, hstep⟩
    by_contra hnot
    rw [isInStep_iff_rates, hfresh hnot] at hin
    exact absurd hin (by decide)
  refine ⟨d, hd, hiff, fun hin now hdue => hin.of_isDue hdue, fun hout => ?_⟩
  have hrates := hfresh (mt hiff.2 hout)
  have hreported : d.forget.registers.interval = 0 := congrArg Prod.fst hrates
  have hkept : d.forget.schedule.interval = 1000 := congrArg Prod.snd hrates
  refine ⟨hreported, fun now => ?_⟩
  rw [Schedule.isDue_iff, hkept]
  simp

/-- The second one of three barometers is started, and no interval has been chosen for it. -/
theorem isInStep_iff_chosen_started :
    let operations := [Bus.Operation.dispatch (Utf8.encode "02:R".toList), .markSent 7 [2]]
    ∃ start, BusBarometer.bus 3 = .ok start ∧ 2 ∈ start.addresses ∧
      ¬ start.track.ObeysIn 2 Command.choosesInterval operations ∧
      ∃ d, (start.track.run operations).ofOrigin? 2 = some d ∧ d.forget.registers.interval = 0 ∧
        d.forget.schedule.isDue 1006 = false ∧ d.forget.schedule.isDue 1007 = true := by
  intro operations
  let start := (((Bus.empty maxAddress).place 1 (new 1)).place 2 (new 2)).place 3 (new 3)
  have hstart : BusBarometer.bus 3 = .ok start := rfl
  obtain ⟨d, hd, hiff, -, hfresh⟩ := isInStep_iff_chosen hstart (o := 2) (by decide) operations
  have hschedule : ((start.track.run operations).ofOrigin? 2).map (fun d => (rates d.forget,
      d.forget.schedule.isDue 1006, d.forget.schedule.isDue 1007)) =
        some ((0, 1000), false, true) := by
    decide +kernel
  rw [hd, Option.map_some] at hschedule
  obtain ⟨hrates, hdue⟩ := Prod.mk.inj (Option.some.inj hschedule)
  have hout : ¬ IsInStep d.forget := by
    rw [isInStep_iff_rates, hrates]
    decide
  exact ⟨start, hstart, by decide, mt hiff.2 hout, d, hd, (hfresh hout).1, Prod.mk.inj hdue⟩

/-- A barometer that has only been started reports no interval, and is due all the same. -/
theorem sends_unreported : ∃ start, BusBarometer.bus 1 = .ok start ∧
    ((start.run [.dispatch (Utf8.encode ['R'])]).get? 0).map (fun d =>
      (d.registers.autoSendReport, d.registers.interval, d.schedule.interval,
        d.schedule.isDue 0)) = some ("1,0".toList, 0, 1000, true) :=
  ⟨_, rfl, by decide +kernel⟩

end BusBarometer

end WeatherBus
