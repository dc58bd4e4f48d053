import Mathlib.Data.List.Forall2
import WeatherBus.Proofs.Frame.BlockCut
import WeatherBus.Proofs.Frame.Style

/-! # Blocks in a stream of bytes

A framer hands out exactly the blocks of a stream, whatever was coming in before and whatever
stands between them.

* **`Assembler.frames_content`** — without STX and ETX nothing is handed out;
* **`Assembler.frames_block`** — a block that is not too long is handed out;
* **`Assembler.isWhole_of_mem_frames`** — nothing but blocks is ever handed out;
* **`Block.Style.frames_stream`** — the blocks of a stream are handed out, and nothing else;
* **`Block.recovers_stream`** — what is sent in a stream is read from these blocks. -/

namespace WeatherBus

open Block (IsContent)

namespace Assembler

variable {limit : Nat} {content : Bytes}

/-! ## Blocks -/

/-- Whatever is coming in, STX starts a block. -/
theorem push_stx (limit : Nat) (framer : BlockFramer) :
    (block framer).push limit stx = (block (.inside [stx]), none) := rfl

/-- No byte but ETX completes a block. -/
theorem push_of_ne_etx (limit : Nat) {b : UInt8} (hetx : b ≠ etx) (framer : BlockFramer) :
    (block framer).push limit b = (block (framer.push limit b).1, none) := by
  have hnone : (framer.push limit b).2 = none := by
    rw [Option.eq_none_iff_forall_ne_some]
    intro raw hraw
    exact hetx (BlockFramer.push_eq_some_iff.1 hraw).1
  rw [push_block, hnone]

/-- Bytes that do not delimit a block complete none. -/
theorem frames_content (limit : Nat) (h : IsContent content) (framer : BlockFramer) :
    ∃ next, (block framer).frames limit content = (block next, []) := by
  induction content generalizing framer with
  | nil => exact ⟨framer, rfl⟩
  | cons b rest ih =>
    obtain ⟨⟨-, hetx⟩, hrest⟩ := List.forall_mem_cons.1 h
    obtain ⟨last, hlast⟩ := ih hrest (framer.push limit b).1
    rw [frames_cons, push_of_ne_etx limit hetx, hlast]
    exact ⟨last, rfl⟩

/-- A block that has started and does not become too long is completed. -/
theorem frames_inside (h : IsContent content) (front : Bytes)
    (hlimit : front.length + content.length < limit) :
    (block (.inside front)).frames limit (content ++ [etx]) =
      (block .outside, [front ++ content ++ [etx]]) := by
  induction content generalizing front with
  | nil =>
    have hroom : ¬limit ≤ front.length := Nat.not_le.2 hlimit
    have hpush : (block (.inside front)).push limit etx =
        (block .outside, some (front ++ [etx])) := by
      have hne : ¬etx = stx := by decide
      simp only [push, BlockFramer.push, if_neg hne, if_neg hroom, if_true]
    rw [List.nil_append, frames_cons, hpush, List.append_nil]
    rfl
  | cons b rest ih =>
    obtain ⟨⟨hstx, hetx⟩, hrest⟩ := List.forall_mem_cons.1 h
    rw [List.length_cons] at hlimit
    have hroom : ¬limit ≤ front.length := by omega
    have hpush : (block (.inside front)).push limit b =
        (block (.inside (front ++ [b])), none) := by
      simp only [push, BlockFramer.push, if_neg hstx, if_neg hroom, if_neg hetx]
    have hlonger : (front ++ [b]).length + rest.length < limit := by
      rw [List.length_append, List.length_singleton]
      omega
    rw [List.cons_append, frames_cons, hpush, ih hrest _ hlonger, List.append_assoc,
      List.append_assoc, List.append_assoc]
    rfl

/-- Whatever was coming in before, a block that is not too long is handed out, and nothing else. -/
theorem frames_block (h : IsContent content) (framer : BlockFramer)
    (hlimit : (stx :: content ++ [etx]).length ≤ limit) :
    (block framer).frames limit (stx :: content ++ [etx]) =
      (block .outside, [stx :: content ++ [etx]]) := by
  simp only [List.length_cons, List.length_append, List.length_nil] at hlimit
  have hroom : [stx].length + content.length < limit := by
    rw [List.length_singleton]
    omega
  rw [List.cons_append, frames_cons, push_stx, frames_inside h [stx] hroom]
  rfl

end Assembler

/-! ## What is handed out -/

/-- What can have come in of a block: its first delimiter, and content. -/
inductive BlockFramer.Open : BlockFramer → Prop where
  | outside : Open .outside
  | inside {content : Bytes} (h : IsContent content) : Open (.inside (stx :: content))

namespace Assembler

variable {limit : Nat} {framer : BlockFramer}

/-- One byte keeps it that way, and completes nothing but a block. -/
theorem push_open (limit : Nat) (b : UInt8) (h : framer.Open) :
    (framer.push limit b).1.Open ∧ ∀ raw ∈ (framer.push limit b).2, Block.IsWhole raw := by
  refine ⟨?_, fun raw hraw => ?_⟩
  · cases hnext : (framer.push limit b).1 with
    | outside => exact .outside
    | inside bytes =>
      rcases BlockFramer.push_eq_inside_iff.1 hnext with ⟨-, rfl⟩ | ⟨hstx, hetx, front, rfl, -, rfl⟩
      · exact .inside (List.forall_mem_nil _)
      · cases h with
        | inside hcontent =>
          exact .inside (hcontent.append (List.forall_mem_singleton.2 ⟨hstx, hetx⟩))
  · obtain ⟨-, front, rfl, -, rfl⟩ := BlockFramer.push_eq_some_iff.1 hraw
    cases h with
    | @inside content hcontent => exact ⟨content, hcontent, rfl⟩

/-- Whatever comes in, nothing but blocks is handed out. -/
theorem isWhole_of_mem_frames {bytes raw : Bytes} (h : framer.Open)
    (hraw : raw ∈ ((block framer).frames limit bytes).2) : Block.IsWhole raw := by
  induction bytes generalizing framer with
  | nil => exact absurd hraw List.not_mem_nil
  | cons b rest ih =>
    obtain ⟨hopen, hwhole⟩ := push_open limit b h
    rw [frames_cons, List.mem_append, Option.mem_toList] at hraw
    rcases hraw with hraw | hraw
    · exact hwhole raw hraw
    · exact ih hopen hraw

end Assembler

/-! ## Streams of frames -/

namespace Block

/-- A stream of frames, each with other bytes in front of it, and with `rest` behind the last
one. -/
def stream (frame : Text → Bytes) (messages : List (Bytes × Text)) (rest : Bytes) : Bytes :=
  messages.flatMap (fun (gap, payload) => gap ++ frame payload) ++ rest

/-- What can be sent in a stream to a framer with a limit. CR and LF follow every block and do not
count. -/
structure Sendable (limit : Nat) (frame : Text → Bytes) (messages : List (Bytes × Text))
    (rest : Bytes) : Prop where
  gaps : ∀ m ∈ messages, IsContent m.1
  payloads : ∀ m ∈ messages, m.2.IsPlain
  lengths : ∀ m ∈ messages, (frame m.2).length ≤ limit + 2
  rest : IsContent rest

namespace Style

variable (style : Style) {limit : Nat} {payload : Text}

/-- A frame is longer than its block by the two bytes of a line end. -/
theorem length_frame (payload : Text) :
    (style.frame payload).length = (style.block payload).length + 2 := by
  rw [frame, List.length_append]
  rfl

/-- A frame is handed out as its block, whatever was coming in before. -/
theorem frames_frame (h : payload.IsPlain) (hlimit : (style.frame payload).length ≤ limit + 2)
    (framer : BlockFramer) : ∃ next, (Assembler.block framer).frames limit (style.frame payload) =
      (.block next, [style.block payload]) := by
  rw [length_frame] at hlimit
  obtain ⟨content, hcontent, heq⟩ := style.isWhole_block h
  have hbehind : IsContent [0x0D, 0x0A] := by decide
  obtain ⟨next, hnext⟩ := Assembler.frames_content limit hbehind .outside
  rw [heq] at hlimit
  rw [frame, heq, Assembler.frames_append,
    Assembler.frames_block hcontent framer (Nat.le_of_add_le_add_right hlimit), hnext]
  exact ⟨next, rfl⟩

/-- The blocks of a stream are handed out in their order, and nothing else. -/
theorem frames_stream {messages : List (Bytes × Text)} {rest : Bytes}
    (h : Sendable limit style.frame messages rest) (framer : BlockFramer) :
    ((Assembler.block framer).frames limit (stream style.frame messages rest)).2 =
      messages.map fun m => style.block m.2 := by
  induction messages generalizing framer with
  | nil =>
    obtain ⟨next, hnext⟩ := Assembler.frames_content limit h.rest framer
    rw [stream, List.flatMap_nil, List.nil_append, hnext]
    rfl
  | cons m messages ih =>
    -- What comes in front of a frame may change the state of the framer, but completes no block.
    obtain ⟨idle, hidle⟩ :=
      Assembler.frames_content limit (h.gaps m List.mem_cons_self) framer
    obtain ⟨next, hnext⟩ := style.frames_frame (h.payloads m List.mem_cons_self)
      (h.lengths m List.mem_cons_self) idle
    have hothers : Sendable limit style.frame messages rest :=
      ⟨fun m hm => h.gaps m (List.mem_cons_of_mem _ hm), fun m hm =>
        h.payloads m (List.mem_cons_of_mem _ hm), fun m hm =>
        h.lengths m (List.mem_cons_of_mem _ hm), h.rest⟩
    have hstream : stream style.frame (m :: messages) rest =
        m.1 ++ (style.frame m.2 ++ stream style.frame messages rest) := by
      simp only [stream, List.flatMap_cons, List.append_assoc]
    rw [hstream, Assembler.frames_append, hidle, Assembler.frames_append, hnext, ih hothers]
    rfl

/-- What is sent in a stream is read from the blocks that are handed out. -/
theorem carries_stream {messages : List (Bytes × Text)} {rest : Bytes}
    (h : Sendable limit style.frame messages rest) (framer : BlockFramer) :
    List.Forall₂ (Carries style.separator style.checksum)
      ((Assembler.block framer).frames limit (stream style.frame messages rest)).2
      (messages.map Prod.snd) := by
  rw [style.frames_stream h framer, List.forall₂_map_left_iff, List.forall₂_map_right_iff,
    List.forall₂_same]
  exact fun m hm => style.carries_block (h.payloads m hm)

end Style

/-- Frames are recovered from a stream, in their order and nothing else, whatever a framer was in
the middle of, and whatever bytes other than STX and ETX stand between them. Their payloads may hold
the separator, or end with it. -/
theorem recovers_stream (limit : Nat) (framer : BlockFramer) (messages : List (Bytes × Text))
    (rest : Bytes) :
    (Sendable limit LightningDetector.frame messages rest →
      List.Forall₂ (Carries LightningDetector.separator LightningDetector.checksum)
        ((Assembler.block framer).frames limit
          (stream LightningDetector.frame messages rest)).2 (messages.map Prod.snd)) ∧
    (Sendable limit VisibilitySensor.frame messages rest →
      List.Forall₂ (Carries VisibilitySensor.separator VisibilitySensor.checksum)
        ((Assembler.block framer).frames limit
          (stream VisibilitySensor.frame messages rest)).2 (messages.map Prod.snd)) :=
  ⟨fun h => LightningDetector.style.carries_stream h framer, fun h =>
    VisibilitySensor.style.carries_stream h framer⟩

/-- A block that is broken off, then two frames with separators at their ends, of which the second
one is as long as the limit permits. -/
theorem recovers_stream_separators :
    let broken := BlockFramer.inside (stx :: Utf8.encode "POLL:".toList)
    let messages := [(Utf8.encode "\n".toList, "MSG: ".toList), ([0xFF], ":  :a: :".toList)]
    Sendable 15 LightningDetector.frame messages [0x0D] ∧
    Sendable 16 VisibilitySensor.frame messages [0x0D] ∧
    List.Forall₂ (Carries LightningDetector.separator LightningDetector.checksum)
      ((Assembler.block broken).frames 15 (stream LightningDetector.frame messages [0x0D])).2
      ["MSG: ".toList, ":  :a: :".toList] ∧
    List.Forall₂ (Carries VisibilitySensor.separator VisibilitySensor.checksum)
      ((Assembler.block broken).frames 16 (stream VisibilitySensor.frame messages [0x0D])).2
      ["MSG: ".toList, ":  :a: :".toList] := by
  intro broken messages
  have hgaps : ∀ m ∈ messages, IsContent m.1 := by decide
  have hpayloads : ∀ m ∈ messages, Text.IsPlain m.2 := by decide
  have hrest : IsContent [0x0D] := by decide
  have hdetector : Sendable 15 LightningDetector.frame messages [0x0D] :=
    ⟨hgaps, hpayloads, by decide +kernel, hrest⟩
  have hsensor : Sendable 16 VisibilitySensor.frame messages [0x0D] :=
    ⟨hgaps, hpayloads, by decide +kernel, hrest⟩
  exact ⟨hdetector, hsensor, (recovers_stream 15 broken messages [0x0D]).1 hdetector,
    (recovers_stream 16 broken messages [0x0D]).2 hsensor⟩

end Block

end WeatherBus
