import WeatherBus.Frame.Assembler

/-! # Taking in a stream of bytes

* **`Assembler.frames_append`**, **`Assembler.run_append`** — a stream is taken in piece by piece;
* **`Assembler.frames_induction`** — what one byte keeps is kept by a stream;
* **`Assembler.mem_run_iff`** — a frame is handed out at a position if and only if the byte there
  completes it;
* **`Assembler.pairwise_run`** — the frames come in the order of their positions. -/

namespace WeatherBus

namespace Assembler

variable {limit position : Nat} {assembler : Assembler}

/-! ## Piece by piece -/

/-- Where a stream starts does not matter for its frames. -/
theorem frames_eq_run (limit position : Nat) (bytes : Bytes) (assembler : Assembler) :
    assembler.frames limit bytes = ((assembler.run limit position bytes).1,
      (assembler.run limit position bytes).2.map Prod.snd) := by
  have hstart : ∀ p q, (assembler.run limit p bytes).1 = (assembler.run limit q bytes).1 ∧
      (assembler.run limit p bytes).2.map Prod.snd =
        (assembler.run limit q bytes).2.map Prod.snd := by
    induction bytes generalizing assembler with
    | nil => exact fun p q => ⟨rfl, rfl⟩
    | cons b rest ih =>
      intro p q
      obtain ⟨hlast, hframes⟩ := ih (assembler.push limit b).1 (p + 1) (q + 1)
      simp only [run, List.map_append]
      refine ⟨hlast, ?_⟩
      rw [hframes]
      cases (assembler.push limit b).2 <;> rfl
  exact Prod.ext (hstart 0 position).1 (hstart 0 position).2

/-- A byte is taken in before the others. -/
theorem frames_cons (limit : Nat) (b : UInt8) (rest : Bytes) (assembler : Assembler) :
    assembler.frames limit (b :: rest) =
      (((assembler.push limit b).1.frames limit rest).1,
        (assembler.push limit b).2.toList ++ ((assembler.push limit b).1.frames limit rest).2) := by
  have hmap : ((assembler.push limit b).2.map (0, ·)).toList.map Prod.snd =
      (assembler.push limit b).2.toList := by
    cases (assembler.push limit b).2 <;> rfl
  rw [frames_eq_run limit 1 rest, ← hmap, ← List.map_append]
  rfl

/-- The frames of two streams are those of the first one, and then those of the second one. -/
theorem frames_append (limit : Nat) (a b : Bytes) (assembler : Assembler) :
    assembler.frames limit (a ++ b) =
      (((assembler.frames limit a).1.frames limit b).1,
        (assembler.frames limit a).2 ++ ((assembler.frames limit a).1.frames limit b).2) := by
  induction a generalizing assembler with
  | nil => rfl
  | cons c a ih => rw [List.cons_append, frames_cons, ih, frames_cons, List.append_assoc]

/-- One more byte is taken in behind all others. -/
theorem fst_frames_concat (limit : Nat) (bytes : Bytes) (b : UInt8) (assembler : Assembler) :
    (assembler.frames limit (bytes ++ [b])).1 =
      ((assembler.frames limit bytes).1.push limit b).1 := by
  rw [frames_append, frames_cons]
  rfl

/-- What every byte keeps is kept by a stream. -/
theorem frames_induction {p : Assembler → Prop} (hpush : ∀ a b, p a → p (a.push limit b).1)
    (bytes : Bytes) (h : p assembler) : p (assembler.frames limit bytes).1 := by
  induction bytes generalizing assembler with
  | nil => exact h
  | cons b rest ih =>
    rw [frames_cons]
    exact ih (hpush assembler b h)

/-! ## With positions -/

/-- So it is with the positions of the frames. -/
theorem run_cons (limit position : Nat) (b : UInt8) (rest : Bytes) (assembler : Assembler) :
    assembler.run limit position (b :: rest) =
      (((assembler.push limit b).1.run limit (position + 1) rest).1,
        ((assembler.push limit b).2.map (position, ·)).toList ++
          ((assembler.push limit b).1.run limit (position + 1) rest).2) := rfl

/-- The second of two streams starts where the first one ends. -/
theorem run_append (limit position : Nat) (a b : Bytes) (assembler : Assembler) :
    assembler.run limit position (a ++ b) =
      (((assembler.frames limit a).1.run limit (position + a.length) b).1,
        (assembler.run limit position a).2 ++
          ((assembler.frames limit a).1.run limit (position + a.length) b).2) := by
  induction a generalizing assembler position with
  | nil => rfl
  | cons c a ih =>
    have hlength : position + 1 + a.length = position + (c :: a).length := by
      rw [List.length_cons]
      omega
    rw [List.cons_append, run_cons, ih, run_cons, frames_cons, hlength, List.append_assoc]

/-- A frame is handed out at a position if and only if the byte there completes it. -/
theorem mem_run_iff {bytes frame : Bytes} {p : Nat} :
    (p, frame) ∈ (assembler.run limit position bytes).2 ↔
      ∃ front b back, bytes = front ++ b :: back ∧ p = position + front.length ∧
        ((assembler.frames limit front).1.push limit b).2 = some frame := by
  induction bytes generalizing assembler position with
  | nil => simp [run]
  | cons c rest ih =>
    have hhere : (p, frame) ∈ ((assembler.push limit c).2.map (position, ·)).toList ↔
        p = position ∧ (assembler.push limit c).2 = some frame := by
      rw [Option.mem_toList, Option.map_eq_some_iff]
      constructor
      · rintro ⟨found, hfound, heq⟩
        obtain ⟨rfl, rfl⟩ := Prod.mk.inj heq
        exact ⟨rfl, hfound⟩
      · rintro ⟨rfl, hfound⟩
        exact ⟨frame, hfound, rfl⟩
    rw [run_cons, List.mem_append, hhere, ih]
    constructor
    · rintro (⟨hp, hfound⟩ | ⟨front, b, back, rfl, hp, hfound⟩)
      · exact ⟨[], c, rest, rfl, hp, hfound⟩
      · refine ⟨c :: front, b, back, rfl, ?_, ?_⟩
        · rw [hp, List.length_cons]
          omega
        · rwa [frames_cons]
    · rintro ⟨front, b, back, heq, hp, hfound⟩
      cases front with
      | nil =>
        obtain ⟨rfl, rfl⟩ := List.cons.inj heq
        exact .inl ⟨hp, hfound⟩
      | cons d front =>
        obtain ⟨rfl, rfl⟩ := List.cons.inj heq
        refine .inr ⟨front, b, back, rfl, ?_, ?_⟩
        · rw [hp, List.length_cons]
          omega
        · rwa [frames_cons] at hfound

/-- No position comes twice, and the earlier one comes first. -/
theorem pairwise_run (limit position : Nat) (bytes : Bytes) (assembler : Assembler) :
    (assembler.run limit position bytes).2.Pairwise fun a b => a.1 < b.1 := by
  induction bytes generalizing assembler position with
  | nil => exact List.Pairwise.nil
  | cons c rest ih =>
    rw [run_cons, List.pairwise_append]
    refine ⟨?_, ih _ _, ?_⟩
    · cases (assembler.push limit c).2 with
      | none => exact List.Pairwise.nil
      | some frame => exact List.pairwise_singleton _ _
    · rintro ⟨p, frame⟩ hhere ⟨q, later⟩ hlater
      obtain ⟨found, -, heq⟩ := Option.map_eq_some_iff.1 (Option.mem_toList.1 hhere)
      obtain ⟨front, b, back, -, hq, -⟩ := mem_run_iff.1 hlater
      have hp : position = p := (Prod.mk.inj heq).1
      show p < q
      omega

end Assembler

end WeatherBus
