import Mathlib.Data.List.DropRight
import WeatherBus.Proofs.Frame.Run

/-! # The lines of a stream of bytes

CR and LF cut a stream into runs of other bytes. The runs that are neither empty nor too long are
handed out as lines, each at the CR or LF behind it.

* **`Line.IsRun`** — a run of a stream that is as long as it can be, and where it ends;
* **`LineFramer.holding`** — the state of a framer when a run has come in, with
  `LineFramer.push_of_content` and `LineFramer.push_of_lineEnd` for one more byte;
* **`Assembler.fst_frames_start_line`** — the state after a stream is that of its last run;
* **`LineFramer.cuts_lines`** — lines are these runs, and nothing else matters for them. -/

namespace WeatherBus

namespace Line

/-- Bytes among which there is neither CR nor LF. -/
def IsContent (bytes : Bytes) : Prop := ∀ b ∈ bytes, isLineEnd b = false

/-- CR and LF in any mix, at least one of them. -/
def IsEnding (bytes : Bytes) : Prop := bytes ≠ [] ∧ ∀ b ∈ bytes, isLineEnd b = true

/-- Behind these bytes a run begins: there are none, or the last of them is CR or LF. -/
def Opens (front : Bytes) : Prop := ∀ b ∈ front.getLast?, isLineEnd b = true

/-- A run of bytes without CR and LF that is as long as it can be, with CR or LF behind it, at the
given position. -/
def IsRun (stream : Bytes) (position : Nat) (run : Bytes) : Prop :=
  ∃ front e back, stream = front ++ run ++ e :: back ∧ position = (front ++ run).length ∧
    Opens front ∧ IsContent run ∧ isLineEnd e = true

instance (bytes : Bytes) : Decidable (IsContent bytes) := List.decidableBAll _ bytes

instance (bytes : Bytes) : Decidable (IsEnding bytes) :=
  @instDecidableAnd _ _ inferInstance (List.decidableBAll _ bytes)

instance (front : Bytes) : Decidable (Opens front) := Option.decidableForallMem front.getLast?

/-- Every stream ends with a run, if only with an empty one. -/
theorem exists_eq_append_content (stream : Bytes) :
    ∃ front run, stream = front ++ run ∧ Opens front ∧ IsContent run := by
  refine ⟨stream.rdropWhile fun b => !isLineEnd b, stream.rtakeWhile fun b => !isLineEnd b,
    (List.rdropWhile_append_rtakeWhile ..).symm, fun b hb => ?_, fun b hb => ?_⟩
  · obtain ⟨hne, rfl⟩ := List.mem_getLast?_eq_getLast hb
    simpa using List.rdropWhile_last_not _ _ hne
  · simpa using List.mem_rtakeWhile_imp hb

end Line

/-! ## One byte -/

namespace LineFramer

variable {limit : Nat} {run : Bytes} {b e : UInt8}

/-- What is known when a run has come in: its bytes, or that it is too long. -/
def holding (limit : Nat) (run : Bytes) : LineFramer :=
  if run.length ≤ limit then .collecting run else .skipping

/-- At the start nothing is held. -/
theorem holding_nil (limit : Nat) : holding limit [] = start := rfl

/-- The run becomes longer. -/
theorem push_of_content (hb : isLineEnd b = false) :
    (holding limit run).push limit b = (holding limit (run ++ [b]), none) := by
  have hlength : (run ++ [b]).length = run.length + 1 := List.length_append
  by_cases hroom : run.length < limit
  · rw [holding, if_pos hroom.le, holding, if_pos (by omega), push, hb]
    simp only [Bool.false_eq_true, if_false, if_neg (Nat.not_le.2 hroom)]
  · rw [holding, holding, if_neg (by omega : ¬(run ++ [b]).length ≤ limit)]
    split
    · rw [push, hb]
      simp only [Bool.false_eq_true, if_false, if_pos (Nat.not_lt.1 hroom)]
    · rw [push, hb]
      rfl

/-- The run is over. -/
theorem push_of_lineEnd (he : isLineEnd e = true) :
    (holding limit run).push limit e =
      (start, if 1 ≤ run.length ∧ run.length ≤ limit then some run else none) := by
  rw [holding]
  split
  · rename_i hfits
    rw [push, if_pos he]
    cases run with
    | nil => rfl
    | cons b rest =>
      have hlength : 1 ≤ (b :: rest).length ∧ (b :: rest).length ≤ limit := ⟨by simp, hfits⟩
      rw [if_pos hlength]
      rfl
  · rename_i hlong
    rw [push, if_pos he, if_neg fun h => hlong h.2]

/-- Whatever has come in, CR or LF makes a framer as good as new. -/
theorem fst_push_of_lineEnd (framer : LineFramer) (he : isLineEnd e = true) :
    (framer.push limit e).1 = start := by
  cases framer <;> simp only [push, he, if_true]

/-- It does not matter whether a line ends at CR or at LF. -/
theorem push_congr (framer : LineFramer) {e' : UInt8} (he : isLineEnd e = true)
    (he' : isLineEnd e' = true) : framer.push limit e = framer.push limit e' := by
  cases framer <;> simp only [push, he, he', if_true]

end LineFramer

/-! ## Streams -/

namespace Assembler

open LineFramer (holding)
open Line (IsContent IsEnding Opens IsRun)

variable {limit : Nat} {front run content ending : Bytes} {e : UInt8}

/-- An assembler of lines takes a byte as its framer does. -/
theorem push_line (limit : Nat) (b : UInt8) (framer : LineFramer) :
    (line framer).push limit b = (line (framer.push limit b).1, (framer.push limit b).2) := rfl

/-- Bytes other than CR and LF complete no line. -/
theorem frames_holding (h : IsContent content) :
    (line (holding limit run)).frames limit content =
      (line (holding limit (run ++ content)), []) := by
  induction content generalizing run with
  | nil =>
    rw [List.append_nil]
    rfl
  | cons b rest ih =>
    obtain ⟨hb, hrest⟩ := List.forall_mem_cons.1 h
    rw [frames_cons, push_line, LineFramer.push_of_content hb, ih hrest, List.append_assoc]
    rfl

/-- CR and LF complete at most one line, whatever their mix. -/
theorem frames_ending (h : IsEnding ending) (framer : LineFramer) :
    (line framer).frames limit ending = (start .line, (framer.push limit 0x0A).2.toList) := by
  obtain ⟨hne, hall⟩ := h
  have hempty : ∀ more : Bytes, (∀ b ∈ more, isLineEnd b = true) →
      (start .line).frames limit more = (start .line, []) := by
    intro more hmore
    induction more with
    | nil => rfl
    | cons b rest ih =>
      obtain ⟨hb, hrest⟩ := List.forall_mem_cons.1 hmore
      have hpush : (start .line).push limit b = (start .line, none) := by
        rw [start, push_line, ← LineFramer.holding_nil limit, LineFramer.push_of_lineEnd hb]
        rfl
      rw [frames_cons, hpush, ih hrest]
      rfl
  cases ending with
  | nil => exact absurd rfl hne
  | cons b more =>
    obtain ⟨hb, hmore⟩ := List.forall_mem_cons.1 hall
    have hlf : isLineEnd 0x0A = true := by decide
    rw [frames_cons, push_line, LineFramer.push_congr framer hb hlf,
      LineFramer.fst_push_of_lineEnd framer hlf]
    show (((start .line).frames limit more).1, _ ++ ((start .line).frames limit more).2) = _
    rw [hempty more hmore, List.append_nil]

/-- Lines come from a framer of lines. -/
theorem exists_line (limit : Nat) (bytes : Bytes) (framer : LineFramer) :
    ∃ next, ((line framer).frames limit bytes).1 = line next := by
  refine frames_induction (p := fun a => ∃ next, a = line next) ?_ bytes ⟨framer, rfl⟩
  rintro _ b ⟨framer, rfl⟩
  exact ⟨_, rfl⟩

/-- Where a run begins, a framer is as good as new. -/
theorem fst_frames_of_opens (h : Opens front) :
    ((start .line).frames limit front).1 = start .line := by
  rcases List.eq_nil_or_concat front with rfl | ⟨before, e, rfl⟩
  · rfl
  · have he : isLineEnd e = true := h e (by simp)
    obtain ⟨framer, hframer⟩ := exists_line limit before LineFramer.start
    have hbefore : ((start .line).frames limit before).1 = line framer := hframer
    rw [List.concat_eq_append, fst_frames_concat, hbefore, push_line,
      LineFramer.fst_push_of_lineEnd framer he]
    rfl

/-- Behind a run its bytes are known, unless it is too long. -/
theorem fst_frames_start_line (hfront : Opens front) (hrun : IsContent run) :
    ((start .line).frames limit (front ++ run)).1 = line (holding limit run) := by
  have hstart : start .line = line (holding limit []) := rfl
  rw [frames_append, fst_frames_of_opens hfront, hstart, frames_holding hrun, List.nil_append]

/-- A line is handed out where a run ends that is neither empty nor too long. -/
theorem mem_run_line_iff {stream : Bytes} {position : Nat} {found : Bytes} :
    (position, found) ∈ ((start .line).run limit 0 stream).2 ↔
      IsRun stream position found ∧ 1 ≤ found.length ∧ found.length ≤ limit := by
  rw [mem_run_iff]
  constructor
  · rintro ⟨before, e, back, rfl, hposition, hfound⟩
    -- Only the last run in front of the byte is still there.
    obtain ⟨front, run, rfl, hfront, hrun⟩ := Line.exists_eq_append_content before
    rw [fst_frames_start_line hfront hrun, push_line] at hfound
    cases he : isLineEnd e with
    | false =>
      rw [LineFramer.push_of_content he] at hfound
      exact absurd hfound (by simp)
    | true =>
      rw [LineFramer.push_of_lineEnd he] at hfound
      split at hfound
      · rename_i hlength
        obtain rfl := Option.some.inj hfound
        rw [Nat.zero_add] at hposition
        exact ⟨⟨front, e, back, rfl, hposition, hfront, hrun, he⟩, hlength⟩
      · exact absurd hfound (by simp)
  · rintro ⟨⟨front, e, back, rfl, hposition, hfront, hrun, he⟩, hlength⟩
    refine ⟨front ++ found, e, back, rfl, by rw [hposition, Nat.zero_add], ?_⟩
    rw [fst_frames_start_line hfront hrun, push_line, LineFramer.push_of_lineEnd he,
      if_pos hlength]

/-- A run that is too long leaves nothing behind. -/
theorem frames_long {long : Bytes} (back : Bytes) (hfront : Opens front) (hlong : IsContent long)
    (he : isLineEnd e = true) (hlimit : limit < long.length) :
    ((start .line).frames limit (front ++ long ++ e :: back)).2 =
      ((start .line).frames limit (front ++ e :: back)).2 := by
  -- Whether there was such a run or none, the CR or LF behind it completes nothing.
  have hend : ∀ run : Bytes, ¬(1 ≤ run.length ∧ run.length ≤ limit) →
      ((line (holding limit run)).frames limit (e :: back)).2 =
        ((start .line).frames limit back).2 := by
    intro run hrun
    rw [frames_cons, push_line, LineFramer.push_of_lineEnd he, if_neg hrun]
    rfl
  have hstart : start .line = line (holding limit []) := rfl
  rw [List.append_assoc, frames_append, frames_append limit front, fst_frames_of_opens hfront,
    frames_append limit long, hstart, frames_holding hlong, List.nil_append, List.nil_append,
    hend long (by omega), hend [] (by simp)]

/-- It does not matter with which mix of CR and LF lines end. -/
theorem frames_endings {lines : List (Bytes × Bytes)} (h : ∀ l ∈ lines, IsEnding l.2)
    (rest : Bytes) (framer : LineFramer) :
    ((line framer).frames limit (lines.flatMap (fun l => l.1 ++ l.2) ++ rest)).2 =
      ((line framer).frames limit (lines.flatMap (fun l => l.1 ++ [0x0A]) ++ rest)).2 := by
  induction lines generalizing framer with
  | nil => rfl
  | cons l lines ih =>
    obtain ⟨hl, hlines⟩ := List.forall_mem_cons.1 h
    obtain ⟨behind, hbehind⟩ := exists_line limit l.1 framer
    have hlf : IsEnding [0x0A] := by decide
    simp only [List.flatMap_cons, List.append_assoc, frames_append limit l.1, hbehind]
    rw [frames_append limit l.2, frames_append limit [0x0A], frames_ending hl, frames_ending hlf]
    exact congrArg (fun found => _ ++ (_ ++ found)) (ih hlines LineFramer.start)

end Assembler

/-! ## Lines -/

namespace LineFramer

open Line (IsContent IsEnding Opens IsRun)

/-- The lines of a stream are its runs of bytes other than CR and LF, each as long as it can be and
handed out at the CR or LF behind it. Empty runs and runs beyond the limit are left out, and it is
the same for all lines as if they were not there. How many CR and LF there are at the end of a line
does not matter either, and behind each of them a framer is as good as new. -/
theorem cuts_lines (limit : Nat) (stream : Bytes) :
    (∀ position line, (position, line) ∈ ((Assembler.start .line).run limit 0 stream).2 ↔
      IsRun stream position line ∧ 1 ≤ line.length ∧ line.length ≤ limit) ∧
    (((Assembler.start .line).run limit 0 stream).2.Pairwise fun a b => a.1 < b.1) ∧
    (∀ front long e back, stream = front ++ long ++ e :: back → Opens front → IsContent long →
      isLineEnd e = true → limit < long.length →
        ((Assembler.start .line).frames limit stream).2 =
          ((Assembler.start .line).frames limit (front ++ e :: back)).2) ∧
    (∀ (lines : List (Bytes × Bytes)) rest, stream = lines.flatMap (fun l => l.1 ++ l.2) ++ rest →
      (∀ l ∈ lines, IsEnding l.2) → ((Assembler.start .line).frames limit stream).2 =
        ((Assembler.start .line).frames limit
          (lines.flatMap (fun l => l.1 ++ [0x0A]) ++ rest)).2) ∧
    (∀ framer e, isLineEnd e = true →
      ((Assembler.line framer).push limit e).1 = Assembler.start .line) := by
  refine ⟨fun position line => Assembler.mem_run_line_iff,
    Assembler.pairwise_run limit 0 stream _, ?_, ?_, ?_⟩
  · rintro front long e back rfl hfront hlong he hlimit
    exact Assembler.frames_long back hfront hlong he hlimit
  · rintro lines rest rfl hlines
    exact Assembler.frames_endings hlines rest LineFramer.start
  · intro framer e he
    rw [Assembler.push_line, fst_push_of_lineEnd framer he]
    rfl

/-- With a limit of 3, a line behind which there are three line ends, one that is too long, and one
more. -/
theorem cuts_lines_overlong :
    let front := Utf8.encode "AB\r\n\r".toList
    let long := Utf8.encode "ABCDE".toList
    let back := Utf8.encode "C\n".toList
    let lines := [(Utf8.encode "AB".toList, [0x0D, 0x0A, 0x0D]), (long, [0x0A]), ([0x43], [0x0A])]
    let stream := front ++ long ++ 0x0A :: back
    Opens front ∧ IsContent long ∧ 3 < long.length ∧ (∀ l ∈ lines, IsEnding l.2) ∧
    stream = lines.flatMap (fun l => l.1 ++ l.2) ∧ IsRun stream 12 [0x43] ∧
    ((Assembler.start .line).frames 3 stream).2 =
      ((Assembler.start .line).frames 3 (front ++ 0x0A :: back)).2 ∧
    ((Assembler.start .line).frames 3 stream).2 =
      ((Assembler.start .line).frames 3 (lines.flatMap (fun l => l.1 ++ [0x0A]) ++ [])).2 ∧
    ((Assembler.line .skipping).push 3 0x0D).1 = Assembler.start .line := by
  intro front long back lines stream
  have hfront : Opens front := by decide
  have hlong : IsContent long := by decide
  have hlimit : 3 < long.length := by decide
  have hlines : ∀ l ∈ lines, IsEnding l.2 := by decide
  have hstream : stream = lines.flatMap (fun l => l.1 ++ l.2) := by decide
  obtain ⟨hfound, -, hdropped, hended, hrestored⟩ := cuts_lines 3 stream
  exact ⟨hfront, hlong, hlimit, hlines, hstream, ((hfound 12 [0x43]).1 (by decide)).1,
    hdropped front long 0x0A back rfl hfront hlong (by decide) hlimit,
    hended lines [] (hstream.trans (List.append_nil _).symm) hlines,
    hrestored .skipping 0x0D (by decide)⟩

end LineFramer

end WeatherBus
