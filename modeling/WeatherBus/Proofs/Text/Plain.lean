import WeatherBus.Frame.Block

/-! # Texts that fit into a block

A text can travel in a block if it holds neither of the characters that delimit one. UTF-8 writes
every other character without these two bytes.

* **`Text.IsPlain`** — a text without STX and ETX;
* **`Text.isPlain_iff`** — that is a text whose bytes do not delimit a block. -/

namespace WeatherBus

/-- Bytes that do not delimit a block. -/
def Block.IsContent (bytes : Bytes) : Prop := ∀ b ∈ bytes, b ≠ stx ∧ b ≠ etx

instance (bytes : Bytes) : Decidable (Block.IsContent bytes) := List.decidableBAll _ bytes

/-- What can stand in a block does not end it. -/
theorem Block.IsContent.notMem_etx {bytes : Bytes} (h : IsContent bytes) : etx ∉ bytes :=
  fun hmem => (h etx hmem).2 rfl

/-- Two contents side by side are one. -/
theorem Block.IsContent.append {a b : Bytes} (ha : IsContent a) (hb : IsContent b) :
    IsContent (a ++ b) := List.forall_mem_append.2 ⟨ha, hb⟩

/-- Bytes that are a block: content between the two delimiters. -/
def Block.IsWhole (raw : Bytes) : Prop :=
  ∃ content, IsContent content ∧ raw = stx :: content ++ [etx]

/-- A byte of the basic alphabet stands for the character of the same number. -/
theorem Utf8.toNat_eq_of_mem {c : Char} {b : UInt8} (hb : b ∈ String.utf8EncodeChar c)
    (hbasic : b.toNat < 0x80) : b.toNat = c.toNat := by
  -- Wherever a character takes several bytes, each of them has its highest bit set.
  have hhigh : ∀ n, 0x80 ≤ n → n < 0x100 → b ≠ UInt8.ofNat n := by
    rintro n hlow hfits rfl
    rw [UInt8.toNat_ofNat_of_lt' hfits] at hbasic
    omega
  rw [String.utf8EncodeChar] at hb
  split at hb
  · rename_i hone
    rw [List.mem_singleton.1 hb]
    exact UInt8.toNat_ofNat_of_lt' (by show c.val.toNat < 256; omega)
  · exfalso
    split at hb
    · simp only [List.mem_cons, List.not_mem_nil, or_false] at hb
      rcases hb with hb | hb <;> exact hhigh _ (by omega) (by omega) hb
    · split at hb
      · simp only [List.mem_cons, List.not_mem_nil, or_false] at hb
        rcases hb with hb | hb | hb <;> exact hhigh _ (by omega) (by omega) hb
      · simp only [List.mem_cons, List.not_mem_nil, or_false] at hb
        rcases hb with hb | hb | hb | hb <;> exact hhigh _ (by omega) (by omega) hb

namespace Text

/-- A text without STX and ETX. -/
def IsPlain (t : Text) : Prop := ∀ c ∈ t, c ≠ '\x02' ∧ c ≠ '\x03'

instance (t : Text) : Decidable (IsPlain t) := List.decidableBAll _ t

/-- A text is plain by its first character and by the others. -/
theorem isPlain_cons_iff {c : Char} {t : Text} :
    IsPlain (c :: t) ↔ (c ≠ '\x02' ∧ c ≠ '\x03') ∧ IsPlain t := List.forall_mem_cons

/-- Two plain texts side by side are plain. -/
theorem IsPlain.append {s t : Text} (hs : IsPlain s) (ht : IsPlain t) : IsPlain (s ++ t) :=
  List.forall_mem_append.2 ⟨hs, ht⟩

/-- These are the texts whose bytes do not delimit a block. -/
theorem isPlain_iff {t : Text} : IsPlain t ↔ Block.IsContent (Utf8.encode t) := by
  constructor
  · intro h b hb
    obtain ⟨c, hc, hb⟩ := List.mem_flatMap.1 hb
    have hchar : ∀ d : UInt8, d.toNat < 0x80 → c ≠ Char.ofNat d.toNat → b ≠ d := by
      rintro d hbasic hne rfl
      rw [Utf8.toNat_eq_of_mem hb hbasic, Char.ofNat_toNat] at hne
      exact hne rfl
    exact ⟨hchar stx (by decide) (h c hc).1, hchar etx (by decide) (h c hc).2⟩
  · intro h c hc
    have hbyte : ∀ b ∈ String.utf8EncodeChar c, b ≠ stx ∧ b ≠ etx :=
      fun b hb => h b (List.mem_flatMap.2 ⟨c, hc, hb⟩)
    refine ⟨?_, ?_⟩
    · rintro rfl
      exact (hbyte stx (by decide)).1 rfl
    · rintro rfl
      exact (hbyte etx (by decide)).2 rfl

end Text

end WeatherBus
