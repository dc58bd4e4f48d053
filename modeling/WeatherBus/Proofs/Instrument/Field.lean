import WeatherBus.Instrument

/-! # Fields that are checked one by one

Some commands set several registers at once. Each field of such a command has a check of its own,
and a field that is left out, or refused, leaves its register alone.

* **`FieldRule`** — the check of a field, with the register afterwards (`FieldRule.after`) and the
  complaint about the field (`FieldRule.fault?`);
* **`Fieldwise`** — a command that takes its fields over one by one;
* **`Fieldwise.of_first?`** — so does a command that answers with the first complaint. -/

namespace WeatherBus

/-- Which values a field may have, what is stored for them, and what is said about the others. -/
structure FieldRule (α β : Type) where
  accepts : α → Bool
  store : α → β
  complaint : α → Fault

namespace FieldRule

variable {α β γ : Type}

/-- The register after a field that may be missing. -/
def after (rule : FieldRule α β) (field : Option α) (old : β) : β :=
  match field with
  | some x => if rule.accepts x then rule.store x else old
  | none => old

/-- What is wrong with a field that may be missing. -/
def fault? (rule : FieldRule α β) (field : Option α) : Option Fault :=
  match field with
  | some x => if rule.accepts x then none else some (rule.complaint x)
  | none => none

/-- The same check for another form of the register. -/
def map (f : β → γ) (rule : FieldRule α β) : FieldRule α γ where
  accepts := rule.accepts
  store x := f (rule.store x)
  complaint := rule.complaint

/-- A whole number from 0 to `high`. -/
def upTo (name : String) (high : Nat) : FieldRule Int Nat where
  accepts n := 0 ≤ n ∧ n ≤ high
  store := Int.toNat
  complaint n := .outOfWholeRange name n 0 high

variable {rule : FieldRule α β} {x : α}

/-- A field that is accepted is stored. -/
theorem after_of_accepts (h : rule.accepts x = true) (old : β) :
    rule.after (some x) old = rule.store x := if_pos h

/-- It is no fault. -/
theorem fault?_of_accepts (h : rule.accepts x = true) : rule.fault? (some x) = none := if_pos h

/-- A field that is refused leaves the old value. -/
theorem after_of_refuses (h : ¬ rule.accepts x = true) (old : β) :
    rule.after (some x) old = old := if_neg h

/-- It is a fault. -/
theorem fault?_of_refuses (h : ¬ rule.accepts x = true) :
    rule.fault? (some x) = some (rule.complaint x) := if_neg h

/-- A field is left out, accepted or refused. -/
theorem cases {motive : Option α → β → Option Fault → Prop} (rule : FieldRule α β) (old : β)
    (missing : motive none old none)
    (accepted : ∀ x, rule.accepts x = true → motive (some x) (rule.store x) none)
    (refused : ∀ x, ¬ rule.accepts x = true → motive (some x) old (some (rule.complaint x)))
    (field : Option α) : motive field (rule.after field old) (rule.fault? field) := by
  cases field with
  | none => exact missing
  | some x =>
    by_cases h : rule.accepts x = true
    · rw [after_of_accepts h, fault?_of_accepts h]
      exact accepted x h
    · rw [after_of_refuses h, fault?_of_refuses h]
      exact refused x h

/-- A rule with a bound accepts what is not negative and not above it. -/
theorem accepts_upTo (name : String) {high : Nat} {n : Int} :
    (upTo name high).accepts n = true ↔ 0 ≤ n ∧ n ≤ high := decide_eq_true_iff

end FieldRule

/-- The first of some complaints. -/
def IsFirstFault (fault : Fault) (complaints : List (Option Fault)) : Prop :=
  ∃ front back, complaints = front ++ some fault :: back ∧ ∀ complaint ∈ front, complaint = none

/-- The fault that is told is the first one. -/
theorem Fault.first?_eq_some_iff {complaints : List (Option Fault)} {fault : Fault} :
    Fault.first? complaints = some fault ↔ IsFirstFault fault complaints := by
  rw [Fault.first?, List.findSome?_eq_some_iff]
  constructor
  · rintro ⟨front, found, back, hsplit, rfl, hfront⟩
    exact ⟨front, back, hsplit, hfront⟩
  · rintro ⟨front, back, hsplit, hfront⟩
    exact ⟨front, some fault, back, hsplit, rfl, hfront⟩

/-- None is told if there is none. -/
theorem Fault.first?_eq_none_iff {complaints : List (Option Fault)} :
    Fault.first? complaints = none ↔ ∀ complaint ∈ complaints, complaint = none :=
  List.findSome?_eq_none_iff

/-- A command that takes its fields over one by one. `complaints` are what is wrong with them, in
the order in which they are written, and `after` is the device with all fields that are right. -/
structure Fieldwise {R : Type} (complaints : List (Option Fault)) (after : Device R)
    (result : Device R × Except Fault Outcome) : Prop where
  stored : result.1 = after
  /-- The command is carried out exactly if nothing is wrong with any field. -/
  accepted_iff : (∃ outcome, result.2 = .ok outcome) ↔
    ∀ complaint ∈ complaints, complaint = none
  /-- The answer is the first complaint. -/
  refused_iff : ∀ fault, result.2 = .error fault ↔ IsFirstFault fault complaints

/-- A command that answers with the first complaint takes its fields over one by one. -/
theorem Fieldwise.of_first? {R : Type} {complaints : List (Option Fault)} {after : Device R}
    {result : Device R × Except Fault Outcome} (outcome : Outcome) (hstored : result.1 = after)
    (h : result.2 = match Fault.first? complaints with
      | some fault => .error fault
      | none => .ok outcome) : Fieldwise complaints after result := by
  refine ⟨hstored, ?_, fun fault => ?_⟩
  · rw [← Fault.first?_eq_none_iff, h]
    cases Fault.first? complaints with
    | none => simp
    | some fault => simp
  · rw [← Fault.first?_eq_some_iff, h]
    cases Fault.first? complaints with
    | none => simp
    | some first => simp

end WeatherBus
