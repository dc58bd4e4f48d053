import WeatherBus.Text.Basic

/-! # Letter case

* **`Text.toNat_toUpper`** — capital letters by their numbers;
* **`Text.forall_of_alike`** — what does not depend on the case of letters holds of all texts that
  are alike. -/

namespace WeatherBus

namespace Text

variable {s t : Text}

/-- Capital letters are 32 below the small ones. -/
theorem toNat_toUpper (c : Char) :
    c.toUpper.toNat = if 97 ≤ c.toNat ∧ c.toNat ≤ 122 then c.toNat - 32 else c.toNat := by
  split
  · rename_i h
    have hall : ∀ n < 26, (Char.ofNat (n + 97)).toUpper.toNat = n + 65 := by decide
    have hc : c = Char.ofNat (c.toNat - 97 + 97) := by
      rw [Nat.sub_add_cancel h.1, Char.ofNat_toNat]
    have hcase := hall (c.toNat - 97) (by omega)
    rw [← hc] at hcase
    omega
  · rename_i h
    have hsame : c.toUpper = c := by
      refine dif_neg fun hlower => h ?_
      have hlow : 97 ≤ c.val.toNat := UInt32.le_iff_toNat_le.1 hlower.1
      have hhigh : c.val.toNat ≤ 122 := UInt32.le_iff_toNat_le.1 hlower.2
      exact ⟨hlow, hhigh⟩
    rw [hsame]

/-- The capital of a letter is no digit, as the letter is none. -/
theorem isDigit_toUpper (c : Char) : c.toUpper.isDigit = c.isDigit := by
  rw [Bool.eq_iff_iff, Char.isDigit_iff_toNat, Char.isDigit_iff_toNat, toNat_toUpper]
  show 48 ≤ _ ∧ _ ≤ 57 ↔ 48 ≤ _ ∧ _ ≤ 57
  split
  · omega
  · rfl

/-- Texts are alike if their capitals are the same. -/
theorem alike_iff : alike s t = true ↔ upper s = upper t := beq_iff_eq

/-- What does not depend on the case of letters holds of all texts that are alike. -/
theorem forall_of_alike {p : Char → Prop} (hp : ∀ c, p c.toUpper ↔ p c) (h : alike s t = true)
    (ht : ∀ c ∈ t, p c) : ∀ c ∈ s, p c := by
  intro c hc
  have hmem : c.toUpper ∈ upper t := by
    rw [← alike_iff.1 h]
    exact List.mem_map_of_mem hc
  obtain ⟨d, hd, heq⟩ := List.mem_map.1 hmem
  rw [← hp, ← heq, hp]
  exact ht d hd

/-- Texts that are alike are of the same length. -/
theorem length_of_alike (h : alike s t = true) : s.length = t.length := by
  have hlength := congrArg List.length (alike_iff.1 h)
  rwa [upper, upper, List.length_map, List.length_map] at hlength

end Text

end WeatherBus
