import Mathlib.Data.List.Induction
import WeatherBus.Proofs.Frame.Run
import WeatherBus.Proofs.Text.Plain

/-! # The blocks of a stream of bytes

A block reaches from an STX to the next byte that is STX or ETX, if that is an ETX. The blocks that
are not too long are handed out, each at its ETX.

* **`Block.ClosesAt`** — a block of a stream, and the position of its last byte;
* **`BlockFramer.push_eq_inside_iff`**, **`BlockFramer.push_eq_some_iff`** — what one byte does;
* **`Assembler.fst_frames_eq_inside_iff`** — what a framer holds is what has come in of a block that
  can still be completed;
* **`BlockFramer.cuts_blocks`** — these blocks are handed out, whatever stands in front of them. -/

namespace WeatherBus

open Block (IsContent)

/-- A block of a stream, both delimiters included, with its ETX at the given position. Between its
delimiters there is neither STX nor ETX. -/
def Block.ClosesAt (stream : Bytes) (position : Nat) (block : Bytes) : Prop :=
  ∃ front content back, stream = (front ++ stx :: content) ++ etx :: back ∧
    position = (front ++ stx :: content).length ∧ IsContent content ∧
    block = stx :: content ++ [etx]

/-! ## One byte -/

namespace BlockFramer

variable {limit : Nat} {b : UInt8} {framer : BlockFramer} {bytes : Bytes}

/-- A block begins at STX and is continued by any other byte but ETX, as long as there is room. -/
theorem push_eq_inside_iff : (framer.push limit b).1 = .inside bytes ↔
    (b = stx ∧ bytes = [stx]) ∨ (b ≠ stx ∧ b ≠ etx ∧
      ∃ front, framer = .inside front ∧ front.length < limit ∧ bytes = front ++ [b]) := by
  by_cases hstx : b = stx
  · simp [push, hstx, eq_comm]
  · cases framer with
    | outside => simp [push, hstx]
    | inside front =>
      by_cases hroom : front.length < limit
      · by_cases hetx : b = etx
        · have hne : etx ≠ stx := by decide
          simp [push, Nat.not_le.2 hroom, hetx, hne]
        · simp [push, hstx, Nat.not_le.2 hroom, hroom, hetx, eq_comm]
      · simp [push, hstx, Nat.not_lt.1 hroom, hroom]

/-- A block is completed by an ETX for which there is room. -/
theorem push_eq_some_iff : (framer.push limit b).2 = some bytes ↔
    b = etx ∧ ∃ front, framer = .inside front ∧ front.length < limit ∧ bytes = front ++ [etx] := by
  by_cases hstx : b = stx
  · have hne : stx ≠ etx := by decide
    simp [push, hstx, hne]
  · cases framer with
    | outside => simp [push, hstx]
    | inside front =>
      by_cases hroom : front.length < limit
      · by_cases hetx : b = etx
        · have hne : etx ≠ stx := by decide
          simp [push, Nat.not_le.2 hroom, hroom, hetx, hne, eq_comm]
        · simp [push, hstx, Nat.not_le.2 hroom, hetx]
      · simp [push, hstx, Nat.not_lt.1 hroom, hroom]

end BlockFramer

/-! ## Streams -/

namespace Assembler

variable {limit : Nat} {stream front found : Bytes}

/-- An assembler of blocks takes a byte as its framer does. -/
theorem push_block (limit : Nat) (b : UInt8) (framer : BlockFramer) :
    (block framer).push limit b = (block (framer.push limit b).1, (framer.push limit b).2) := rfl

/-- Blocks come from a framer of blocks. -/
theorem exists_block (limit : Nat) (bytes : Bytes) :
    ∃ framer, ((start .block).frames limit bytes).1 = block framer := by
  refine frames_induction (p := fun a => ∃ framer, a = block framer) ?_ bytes
    ⟨BlockFramer.start, rfl⟩
  rintro _ b ⟨framer, rfl⟩
  exact ⟨_, rfl⟩

/-- What a framer holds is what has come in since the last STX, if there was no ETX since then and
it is not too long. -/
theorem fst_frames_eq_inside_iff :
    ((start .block).frames limit front).1 = block (.inside found) ↔
      ∃ before content, front = before ++ stx :: content ∧ IsContent content ∧
        found = stx :: content ∧ (content = [] ∨ content.length < limit) := by
  -- A block grows at its end, so the stream is taken apart from its end.
  induction front using List.reverseRecOn generalizing found with
  | nil =>
    simp [frames, run, start, BlockFramer.start]
  | append_singleton front b ih =>
    obtain ⟨framer, hfront⟩ := exists_block limit front
    rw [hfront] at ih
    simp only [block.injEq] at ih
    rw [fst_frames_concat, hfront, push_block, block.injEq, BlockFramer.push_eq_inside_iff]
    constructor
    · rintro (⟨rfl, rfl⟩ | ⟨hstx, hetx, held, hheld, hroom, rfl⟩)
      · exact ⟨front, [], rfl, List.forall_mem_nil _, rfl, .inl rfl⟩
      · obtain ⟨before, content, rfl, hcontent, rfl, -⟩ := ih.1 hheld
        refine ⟨before, content ++ [b], by simp, ?_, rfl, .inr ?_⟩
        · exact hcontent.append (List.forall_mem_singleton.2 ⟨hstx, hetx⟩)
        · rw [List.length_append, List.length_singleton]
          exact hroom
    · rintro ⟨before, content, heq, hcontent, rfl, hlength⟩
      rcases List.eq_nil_or_concat content with rfl | ⟨shorter, c, rfl⟩
      · obtain ⟨rfl, hb⟩ := List.append_inj' heq rfl
        exact .inl ⟨List.singleton_inj.1 hb, rfl⟩
      · -- The last byte belongs to the block, so the framer held the block without it.
        rw [List.concat_eq_append] at *
        have hsplit : front ++ [b] = (before ++ stx :: shorter) ++ [c] := by
          rw [heq, List.append_assoc, List.cons_append]
        obtain ⟨rfl, hb⟩ := List.append_inj' hsplit rfl
        obtain rfl := List.singleton_inj.1 hb
        obtain ⟨hshorter, hc⟩ := List.forall_mem_append.1 hcontent
        obtain ⟨hstx, hetx⟩ := hc b (List.mem_singleton.2 rfl)
        have hroom : (stx :: shorter).length < limit := by
          rw [List.length_append, List.length_singleton] at hlength
          rw [List.length_cons]
          rcases hlength with hnil | hlt
          · exact absurd hnil (by simp)
          · exact hlt
        refine .inr ⟨hstx, hetx, stx :: shorter, ih.2 ⟨before, shorter, rfl, hshorter, rfl, ?_⟩,
          hroom, rfl⟩
        exact .inr (Nat.lt_of_succ_lt hroom)

/-- A block is handed out at its ETX if it is not too long. -/
theorem mem_run_block_iff {position : Nat} :
    (position, found) ∈ ((start .block).run limit 0 stream).2 ↔
      Block.ClosesAt stream position found ∧ found.length ≤ limit := by
  rw [mem_run_iff]
  constructor
  · rintro ⟨front, b, back, rfl, hposition, hfound⟩
    obtain ⟨framer, hfront⟩ := exists_block limit front
    rw [hfront, push_block] at hfound
    obtain ⟨rfl, held, rfl, hroom, rfl⟩ := BlockFramer.push_eq_some_iff.1 hfound
    obtain ⟨before, content, rfl, hcontent, rfl, -⟩ := fst_frames_eq_inside_iff.1 hfront
    rw [Nat.zero_add] at hposition
    refine ⟨⟨before, content, back, rfl, hposition, hcontent, rfl⟩, ?_⟩
    rw [List.length_append]
    exact hroom
  · rintro ⟨⟨before, content, back, rfl, hposition, hcontent, rfl⟩, hlength⟩
    have hroom : (stx :: content).length < limit := by
      rw [List.length_append] at hlength
      exact hlength
    have hheld : ((start .block).frames limit (before ++ stx :: content)).1 =
        block (.inside (stx :: content)) :=
      fst_frames_eq_inside_iff.2 ⟨before, content, rfl, hcontent, rfl,
        .inr (Nat.lt_of_succ_lt hroom)⟩
    refine ⟨before ++ stx :: content, etx, back, rfl, by rw [hposition, Nat.zero_add], ?_⟩
    rw [hheld, push_block]
    exact BlockFramer.push_eq_some_iff.2 ⟨rfl, stx :: content, rfl, hroom, rfl⟩

/-- From an STX on it does not matter what has come in before. -/
theorem run_stx (limit position : Nat) (back : Bytes) (framer : BlockFramer) :
    (block framer).run limit position (stx :: back) =
      (start .block).run limit position (stx :: back) := rfl

end Assembler

/-! ## Blocks -/

namespace BlockFramer

/-- The blocks of a stream are its segments from an STX to an ETX without another STX or ETX in
between, as far as they are not too long, each of them handed out at its ETX. Whatever else is in
the stream does not matter for any block behind it: from an STX on, all is as if the stream began
there. -/
theorem cuts_blocks (limit : Nat) (stream : Bytes) :
    (∀ position block, (position, block) ∈ ((Assembler.start .block).run limit 0 stream).2 ↔
      Block.ClosesAt stream position block ∧ block.length ≤ limit) ∧
    (((Assembler.start .block).run limit 0 stream).2.Pairwise fun a b => a.1 < b.1) ∧
    (∀ front back, stream = front ++ stx :: back →
      ((Assembler.start .block).run limit 0 stream).2 =
        ((Assembler.start .block).run limit 0 front).2 ++
          ((Assembler.start .block).run limit front.length (stx :: back)).2) := by
  refine ⟨fun position block => Assembler.mem_run_block_iff,
    Assembler.pairwise_run limit 0 stream _, ?_⟩
  rintro front back rfl
  obtain ⟨framer, hfront⟩ := Assembler.exists_block limit front
  rw [Assembler.run_append, hfront, Assembler.run_stx, Nat.zero_add]

/-- With a limit of 4: a byte outside of blocks, a block that is too long, one that is begun anew,
one that is as long as the limit permits, and an ETX that belongs to no block. -/
theorem cuts_blocks_restarted :
    let front := [0x78, stx, 0x41, 0x42, 0x43, etx, stx, 0x41]
    let back := [0x42, 0x43, etx, 0x0D, etx]
    let stream := front ++ stx :: back
    Block.ClosesAt stream 11 [stx, 0x42, 0x43, etx] ∧ [stx, 0x42, 0x43, etx].length ≤ 4 ∧
    (11, [stx, 0x42, 0x43, etx]) ∈ ((Assembler.start .block).run 4 0 stream).2 ∧
    ((Assembler.start .block).run 4 0 stream).2 =
      ((Assembler.start .block).run 4 0 front).2 ++
        ((Assembler.start .block).run 4 8 (stx :: back)).2 := by
  intro front back stream
  obtain ⟨hfound, -, happend⟩ := cuts_blocks 4 stream
  have hcloses : Block.ClosesAt stream 11 [stx, 0x42, 0x43, etx] :=
    ⟨front, [0x42, 0x43], [0x0D, etx], rfl, rfl, by decide, rfl⟩
  have hlength : [stx, 0x42, 0x43, etx].length ≤ 4 := by decide
  exact ⟨hcloses, hlength, (hfound 11 _).2 ⟨hcloses, hlength⟩, happend front back rfl⟩

end BlockFramer

end WeatherBus
