import Mathlib.Data.Nat.PSub
import WeatherBus.Proofs.Frame.Block

/-! # Where the parts of a block are

* **`Block.extractByPosition`** — the parts of a block found by counting, where every position is
  checked before bytes are taken from it; `Block.run_extractByPosition` says that no check fails and
  that the parts are those of `Block.extract`;
* **`Block.extracts_parts`** — which blocks are taken apart, and into which parts. -/

namespace WeatherBus

/-! ## Positions in a list -/

section Positions

variable {α : Type} {p : α → Bool} {front back l : List α}

/-- What stands from one position up to another one, `none` if these are no positions of the list,
or not in this order. -/
def slice? (l : List α) (first last : Nat) : Option (List α) :=
  if first ≤ last ∧ last ≤ l.length then some ((l.take last).drop first) else none

/-- The position of the last element with the property `p`. -/
def lastIdx? (p : α → Bool) : List α → Option Nat
  | [] => none
  | a :: rest =>
    match lastIdx? p rest with
    | some i => some (i + 1)
    | none => if p a then some 0 else none

/-- A part of a list is found at its positions. -/
theorem slice?_eq_some (front middle back : List α) {first last : Nat}
    (hl : l = front ++ middle ++ back) (hfirst : first = front.length)
    (hlast : last = (front ++ middle).length) : slice? l first last = some middle := by
  subst hl hfirst hlast
  rw [slice?, if_pos (by simp), List.take_left, List.drop_left]

/-- The list is cut where the last such element is. -/
theorem lastIdx?_eq (p : α → Bool) (l : List α) :
    lastIdx? p l = (splitLast? p l).map fun cut => cut.1.length := by
  induction l with
  | nil => rfl
  | cons a rest ih =>
    rw [lastIdx?, splitLast?, ih]
    cases splitLast? p rest with
    | some cut => rfl
    | none =>
      dsimp only [Option.map_none]
      split <;> rfl

variable [BEq α] [LawfulBEq α] {a : α}

/-- What is not there has no position. -/
theorem findIdx?_of_notMem (h : a ∉ l) : l.findIdx? (· == a) = none :=
  List.findIdx?_eq_none_iff.2 fun _ hb => beq_eq_false_iff_ne.2 fun heq => h (heq ▸ hb)

/-- The first occurrence of an element is where none has been seen before. -/
theorem findIdx?_append_cons (h : a ∉ front) (back : List α) :
    (front ++ a :: back).findIdx? (· == a) = some front.length := by
  rw [List.findIdx?_append, findIdx?_of_notMem h, List.findIdx?_cons, beq_self_eq_true]
  simp

end Positions

namespace Block

variable {separator : UInt8} {raw bytes : Bytes} {block : Block}

/-! ## Counting -/

/-- What stands between the delimiters, found by counting. -/
def innerByPosition (raw : Bytes) : ExceptT Fault Option Bytes := do
  let some first := raw.findIdx? (· == stx) | throw (.malformedFrame "missing STX")
  let behind ← slice? raw (first + 1) raw.length
  let some count := behind.findIdx? (· == etx) | throw (.malformedFrame "missing ETX")
  slice? raw (first + 1) (count + first + 1)

/-- Bytes without the separator at their end, found by counting. -/
def dropTrailerByPosition (separator : UInt8) (bytes : Bytes) : Option Bytes :=
  if bytes.getLast? = some separator then do slice? bytes 0 (← bytes.length.psub 1) else some bytes

/-- The parts of a block, found by counting. Every position is checked before bytes are taken from
it; without a result, one of them would be out of range. -/
def extractByPosition (separator : UInt8) (raw : Bytes) : ExceptT Fault Option Block := do
  let fields ← dropTrailerByPosition separator (← innerByPosition raw)
  let some cut := lastIdx? (· == separator) fields
    | throw (.malformedFrame "missing CRC separator")
  let some payload := Utf8.decode? (← slice? fields 0 cut)
    | throw (.malformedFrame "payload is not valid text")
  let some checksumField := Utf8.decode? (← slice? fields (cut + 1) fields.length)
    | throw (.malformedFrame "CRC field is not valid text")
  let covered ← slice? fields 0 (cut + 1)
  return { payload, covered, checksumField }

/-- Where a part is found, the next step goes on with it. -/
theorem liftM_some_bind {α β : Type} (a : α) (f : α → ExceptT Fault Option β) :
    (liftM (some a) : ExceptT Fault Option α) >>= f = f a := rfl

/-- What is found between the delimiters by counting is what stands there. -/
theorem run_innerByPosition (raw : Bytes) : (innerByPosition raw).run = some (inner raw) := by
  by_cases hs : stx ∈ raw
  · obtain ⟨front, rest, rfl, hfront⟩ := List.eq_append_cons_of_mem hs
    have hbehind : slice? (front ++ stx :: rest) (front.length + 1) (front ++ stx :: rest).length =
        some rest := slice?_eq_some (front ++ [stx]) rest [] (by simp) (by simp) (by simp)
    rw [inner_append hfront]
    by_cases he : etx ∈ rest
    · obtain ⟨content, back, rfl, hcontent⟩ := List.eq_append_cons_of_mem he
      have hinner : slice? (front ++ stx :: (content ++ etx :: back)) (front.length + 1)
          (content.length + front.length + 1) = some content :=
        slice?_eq_some (front ++ [stx]) content (etx :: back) (by simp) (by simp) (by simp; omega)
      simp only [innerByPosition, findIdx?_append_cons hfront, hbehind, liftM_some_bind,
        findIdx?_append_cons hcontent, hinner]
      rw [← List.cons_append, inner_eq hcontent]
      rfl
    · simp only [innerByPosition, findIdx?_append_cons hfront, hbehind, liftM_some_bind,
        findIdx?_of_notMem he]
      rw [inner_of_notMem_etx he]
      rfl
  · simp only [innerByPosition, findIdx?_of_notMem hs]
    rw [inner_of_notMem hs]
    rfl

/-- A separator at the end is dropped by counting as it is by looking. -/
theorem dropTrailerByPosition_eq (separator : UInt8) (bytes : Bytes) :
    dropTrailerByPosition separator bytes = some (dropTrailer separator bytes) := by
  rw [dropTrailerByPosition, dropTrailer]
  split
  · rename_i hlast
    obtain ⟨front, rfl⟩ := List.getLast?_eq_some_iff.1 hlast
    have hpred : (front ++ [separator]).length.psub 1 = some front.length :=
      Nat.psub_eq_some.2 (by rw [List.length_append, List.length_singleton])
    rw [hpred, List.dropLast_concat]
    exact slice?_eq_some [] front [separator] rfl rfl rfl
  · rfl

/-- No position is out of range, and what is found by counting are the parts of the block. -/
theorem run_extractByPosition (separator : UInt8) (raw : Bytes) :
    (extractByPosition separator raw).run = some (extract separator raw) := by
  have hinner : innerByPosition raw = ExceptT.mk (some (inner raw)) := run_innerByPosition raw
  rw [extractByPosition, extract, hinner]
  cases inner raw with
  | error fault => rfl
  | ok content =>
    show ExceptT.run (liftM (dropTrailerByPosition separator content) >>= _) = _
    have hok (parts : Bytes → Except Fault Block) :
        (Except.ok content >>= parts) = parts content := rfl
    rw [dropTrailerByPosition_eq, liftM_some_bind, lastIdx?_eq, hok]
    dsimp only
    cases hsplit : splitLast? (· == separator) (dropTrailer separator content) with
    | none => rfl
    | some cut =>
      obtain ⟨front, back⟩ := cut
      obtain ⟨marker, heq, hmarker, -⟩ := splitLast?_eq_some_iff.1 hsplit
      -- All three cuts are at an end of `front` or of `back`, so they are within the fields.
      obtain rfl := beq_iff_eq.1 hmarker
      have hfront : slice? (dropTrailer marker content) 0 front.length = some front :=
        slice?_eq_some [] front (marker :: back) heq rfl rfl
      have hback : slice? (dropTrailer marker content) (front.length + 1)
          (dropTrailer marker content).length = some back :=
        slice?_eq_some (front ++ [marker]) back [] (by simp [heq]) (by simp) (by simp [heq])
      have hcovered : slice? (dropTrailer marker content) 0 (front.length + 1) =
          some (front ++ [marker]) :=
        slice?_eq_some [] (front ++ [marker]) back (by simp [heq]) rfl (by simp)
      simp only [Option.map_some, hfront, hback, hcovered, liftM_some_bind]
      cases Utf8.decode? front with
      | none => rfl
      | some payload =>
        cases Utf8.decode? back with
        | none => rfl
        | some field => rfl

/-! ## Parts -/

/-- Bytes less one separator at their very end, if there is one. -/
def LessTrailer (separator : UInt8) (bytes rest : Bytes) : Prop :=
  bytes = rest ++ [separator] ∨ (bytes = rest ∧ bytes.getLast? ≠ some separator)

/-- What is left without the trailer is what stands in front of it. -/
theorem dropTrailer_eq_iff {rest : Bytes} :
    dropTrailer separator bytes = rest ↔ LessTrailer separator bytes rest := by
  rw [dropTrailer, LessTrailer]
  split
  · rename_i hlast
    obtain ⟨front, rfl⟩ := List.getLast?_eq_some_iff.1 hlast
    rw [List.dropLast_concat]
    constructor
    · rintro rfl
      exact .inl rfl
    · rintro (heq | ⟨-, hne⟩)
      · exact List.append_cancel_right heq
      · exact absurd hlast hne
  · rename_i hlast
    constructor
    · rintro rfl
      exact .inr ⟨rfl, hlast⟩
    · rintro (rfl | ⟨rfl, -⟩)
      · exact absurd List.getLast?_concat hlast
      · rfl

/-- Raw bytes are taken apart if and only if they hold an STX and behind it an ETX, there is a
separator between the first such two that is not at the very end, and what stands on both sides of
the last one of these is a text. The parts are these two texts, and the bytes that the checksum
covers are all up to this separator. No position is out of range on the way. -/
theorem extracts_parts (separator : UInt8) (raw : Bytes) :
    ((∃ block, extract separator raw = .ok block) ↔
      ∃ content rest front back, Delimits raw content ∧ LessTrailer separator content rest ∧
        rest = front ++ separator :: back ∧ separator ∉ back ∧
        (∃ payload, front = Utf8.encode payload) ∧ ∃ field, back = Utf8.encode field) ∧
    (∀ block, extract separator raw = .ok block →
      ∃ content rest, Delimits raw content ∧ LessTrailer separator content rest ∧
        Utf8.encode block.payload ++ [separator] = block.covered ∧
        block.covered ++ Utf8.encode block.checksumField = rest ∧
        separator ∉ Utf8.encode block.checksumField) ∧
    (extractByPosition separator raw).run = some (extract separator raw) := by
  refine ⟨⟨?_, ?_⟩, ?_, run_extractByPosition separator raw⟩
  · rintro ⟨block, hextract⟩
    obtain ⟨content, hcontent, heq, hcovered, hnot⟩ := extract_eq_ok_iff.1 hextract
    rw [hcovered, List.append_assoc, List.singleton_append] at heq
    exact ⟨content, _, _, _, inner_eq_ok_iff.1 hcontent, dropTrailer_eq_iff.1 rfl, heq, hnot,
      ⟨_, rfl⟩, _, rfl⟩
  · rintro ⟨content, rest, front, back, hcontent, hrest, heq, hnot, ⟨payload, rfl⟩, field, rfl⟩
    obtain rfl := dropTrailer_eq_iff.2 hrest
    refine ⟨⟨payload, Utf8.encode payload ++ [separator], field⟩, extract_eq_ok_iff.2
      ⟨content, inner_eq_ok_iff.2 hcontent, ?_, rfl, hnot⟩⟩
    rw [heq, List.append_assoc, List.singleton_append]
  · intro block hextract
    obtain ⟨content, hcontent, heq, hcovered, hnot⟩ := extract_eq_ok_iff.1 hextract
    exact ⟨content, _, inner_eq_ok_iff.1 hcontent, dropTrailer_eq_iff.1 rfl, hcovered.symm,
      heq.symm, hnot⟩

/-- Stray delimiters in front, within and behind, separators next to each other, and a checksum
field that is empty. -/
theorem extracts_parts_adjacent :
    let raw := [0x3A, etx, stx] ++ Utf8.encode "é:\x02::".toList ++ [etx, 0x3A, stx, etx]
    let block := Block.mk "é:\x02".toList (Utf8.encode "é:\x02:".toList) []
    extract 0x3A raw = .ok block ∧
    (∃ content rest, Delimits raw content ∧ LessTrailer 0x3A content rest ∧
      Utf8.encode block.payload ++ [0x3A] = block.covered ∧
      block.covered ++ Utf8.encode block.checksumField = rest ∧
      0x3A ∉ Utf8.encode block.checksumField) ∧
    (extractByPosition 0x3A raw).run = some (.ok block) := by
  intro raw block
  have hextract : extract 0x3A raw = .ok block := by decide +kernel
  obtain ⟨-, hparts, hposition⟩ := extracts_parts 0x3A raw
  exact ⟨hextract, hparts block hextract, hposition.trans (congrArg some hextract)⟩

end Block

end WeatherBus
