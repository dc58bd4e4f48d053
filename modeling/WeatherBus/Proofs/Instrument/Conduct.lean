import WeatherBus.Instrument

/-! # What the common handling relies on

The handling of frames, addresses and schedules is the same for all kinds of instruments. It is
right only because the commands of each kind keep to some rules.

* **`Schedule.Follows`** — a schedule after some changes of interval and mode: it remembers the last
  message, unless it has entered the continuous mode;
* **`Device.Retains`** — what a command leaves alone: address, serial number and, if it does not
  start the continuous mode, the last message;
* **`Conduct`** — the rules for one command;
* **`Conducted`** — a kind whose commands keep to them. -/

namespace WeatherBus

/-! ## Schedules -/

namespace Schedule

variable {s t u : Schedule}

/-- A schedule after some changes of interval and mode. The last message is forgotten at most, and
it is forgotten when the continuous mode is entered. -/
structure Follows (s t : Schedule) : Prop where
  kept_or_forgotten : t.lastSent = s.lastSent ∨ t.lastSent = none
  forgotten : s.mode ≠ .continuous → t.mode = .continuous → t.lastSent = none

/-- A schedule that stays follows itself. -/
@[simp] theorem Follows.refl (s : Schedule) : s.Follows s := ⟨.inl rfl, fun h h' => absurd h' h⟩

/-- One change after the other. If the continuous mode is entered, then by one of the two, and what
is forgotten by then stays forgotten. -/
theorem Follows.trans (h : s.Follows t) (h' : t.Follows u) : s.Follows u where
  kept_or_forgotten := by
    rcases h'.kept_or_forgotten with hu | hu
    · rw [hu]
      exact h.kept_or_forgotten
    · exact .inr hu
  forgotten hs hu := by
    by_cases ht : t.mode = .continuous
    · -- The first change has entered the mode, and the second one brings nothing back.
      have hnone := h.forgotten hs ht
      rcases h'.kept_or_forgotten with hu' | hu'
      · rw [hu', hnone]
      · exact hu'
    · exact h'.forgotten ht hu

/-- A change of the mode keeps the last message, or forgets it. -/
@[simp] theorem follows_setMode (mode : OutputMode) (s : Schedule) :
    s.Follows (s.setMode mode) where
  kept_or_forgotten := by
    rw [lastSent_setMode]
    split
    · exact .inr rfl
    · exact .inl rfl
  forgotten hs ht := by
    rw [lastSent_setMode]
    exact if_pos ⟨ht, hs⟩

/-- A change of the interval keeps the last message. -/
@[simp] theorem follows_setInterval (interval : Nat) (s : Schedule) :
    s.Follows (s.setInterval interval) := ⟨.inl rfl, fun h h' => absurd h' h⟩

/-- So does a start, or it forgets it. -/
@[simp] theorem follows_start (s : Schedule) : s.Follows s.start := follows_setMode _ s

/-- And so does a stop. -/
@[simp] theorem follows_stop (s : Schedule) : s.Follows s.stop := follows_setMode _ s

end Schedule

/-! ## Devices -/

namespace Device

variable {R : Type} {d e f : Device R}

/-- What a command leaves of a device. -/
structure Retains (d e : Device R) : Prop where
  address : e.address = d.address
  serial : e.serial = d.serial
  schedule : d.schedule.Follows e.schedule

/-- A device that stays retains all. -/
@[simp] theorem Retains.refl (d : Device R) : d.Retains d := ⟨rfl, rfl, .refl _⟩

/-- What two changes retain, both together retain. -/
theorem Retains.trans (h : d.Retains e) (h' : e.Retains f) : d.Retains f :=
  ⟨h'.address.trans h.address, h'.serial.trans h.serial, h.schedule.trans h'.schedule⟩

/-- A change of the registers retains the rest. -/
@[simp] theorem retains_mapRegisters (g : R → R) (d : Device R) : d.Retains (d.mapRegisters g) :=
  ⟨rfl, rfl, .refl _⟩

/-- A change of the schedule retains the rest. -/
theorem retains_mapSchedule {g : Schedule → Schedule} (h : d.schedule.Follows (g d.schedule)) :
    d.Retains (d.mapSchedule g) := ⟨rfl, rfl, h⟩

end Device

/-! ## Commands -/

/-- A parameter that was read but cannot be accepted. -/
def Fault.isParameterFault : Fault → Bool
  | .outOfRange _ _ _ _ | .invalidParameter _ => true
  | _ => false

/-- The rules for one command. `several` tells that it sets several fields, each on its own, and
`announced` the address for which it was checked beforehand that it is free. -/
structure Conduct {R : Type} (several : Bool) (announced : Option Nat) (d : Device R)
    (result : Device R × Except Fault Outcome) : Prop where
  retains : d.Retains result.1
  /-- A refused command changes nothing, unless it sets several fields of which one is wrong. -/
  refused : ∀ {fault : Fault}, result.2 = .error fault →
    result.1 = d ∨ (several = true ∧ fault.isParameterFault = true)
  /-- A device that asks to be moved is otherwise unchanged, or its new address was checked. -/
  moved : ∀ {outcome : Outcome} {new : Nat}, result.2 = .ok outcome → outcome.moveTo = some new →
    result.1 = d ∨ announced = some new

namespace Conduct

variable {R : Type} {several : Bool} {announced : Option Nat} {d e : Device R}
  {outcome : Outcome} {fault : Fault}

/-- A command that leaves the device alone. -/
theorem unchanged (result : Except Fault Outcome) : Conduct several announced d (d, result) where
  retains := .refl d
  refused _ := .inl rfl
  moved _ _ := .inl rfl

/-- A command that is carried out without a move. -/
theorem carriedOut (h : d.Retains e) (hm : outcome.moveTo = none) :
    Conduct several announced d (e, .ok outcome) where
  retains := h
  refused hf := by simp at hf
  moved ho hn := by
    obtain rfl := Except.ok.inj ho
    simp [hm] at hn

/-- A command with several fields of which one is wrong. -/
theorem partly (h : d.Retains e) (hf : fault.isParameterFault = true) :
    Conduct true announced d (e, .error fault) where
  retains := h
  refused hf' := by
    obtain rfl := Except.error.inj hf'
    exact .inr ⟨rfl, hf⟩
  moved ho := by simp at ho

/-- A command that moves the device to the address that was checked, or leaves it there. -/
theorem carriedOver {new : Nat} (h : d.Retains e)
    (hm : outcome.moveTo = none ∨ outcome.moveTo = some new) (ha : announced = some new) :
    Conduct several announced d (e, .ok outcome) where
  retains := h
  refused hf := by simp at hf
  moved ho hn := by
    obtain rfl := Except.ok.inj ho
    rcases hm with hm | hm
    · simp [hm] at hn
    · rw [hm] at hn
      rw [ha]
      exact .inr hn

end Conduct

/-- A kind of instrument whose commands keep to the rules. -/
class Conducted (R : Type) {C : outParam Type} [Instrument R C] where
  /-- Whether a command sets several fields, each on its own. -/
  setsSeveral : C → Bool
  conduct : ∀ (request : Request C) (d : Device R),
    Conduct (setsSeveral request.command) (Instrument.requestedAddress request d) d
      (Instrument.apply request d)

/-- The first fault of some checks is one that a check has found. -/
theorem Fault.mem_of_first? {checks : List (Option Fault)} {fault : Fault}
    (h : Fault.first? checks = some fault) : some fault ∈ checks := by
  obtain ⟨found, hmem, hfound⟩ := List.exists_of_findSome?_eq_some h
  rw [id] at hfound
  rwa [hfound] at hmem

end WeatherBus
