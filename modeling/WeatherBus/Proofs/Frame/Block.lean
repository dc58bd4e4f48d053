import WeatherBus.Frame.Block
import WeatherBus.Proofs.Number.Hex
import WeatherBus.Proofs.Text.Plain

/-! # What is read from a block

Content travels in a block together with a checksum. It may be damaged on its way, and then it need
not be a text any more, nor need the checksum be its own.

* **`Block.Delimits`** — what stands between the delimiters, `Block.inner_eq_ok_iff`;
* **`Block.ofBytes`** — the block of any content with any checksum;
* **`Block.extract_ofBytes`** — the content that is a text is read back, other content is refused;
* **`Block.extract_eq_ok_iff`** — what any block is taken apart into;
* **`Block.received_hex`** — the checksum is read back;
* **`Block.isPlain_of_extract`** — what is read from any block can travel in a block again. -/

namespace WeatherBus

/-- Two steps succeed if each of them does, the second one with what the first one has found. -/
theorem bind_eq_ok_iff {ε α β : Type} {x : Except ε α} {f : α → Except ε β} {b : β} :
    x >>= f = .ok b ↔ ∃ a, x = .ok a ∧ f a = .ok b := by
  cases x with
  | error e => simp [bind, Except.bind]
  | ok a => simp [bind, Except.bind]

/-- A result that is worked on has to be there. -/
theorem map_eq_ok_iff {ε α β : Type} {f : α → β} {x : Except ε α} {b : β} :
    f <$> x = .ok b ↔ ∃ a, x = .ok a ∧ f a = b := by
  cases x with
  | error e => simp [Functor.map, Except.map]
  | ok a => simp [Functor.map, Except.map]

/-- A failure is no result. -/
theorem throw_ne_ok {ε α : Type} {e : ε} {a : α} : (throw e : Except ε α) ≠ .ok a := by
  simp [throw, throwThe, MonadExceptOf.throw]

/-- A list is cut apart at its last element with a property. -/
theorem splitLast?_eq_some_iff {α : Type} {p : α → Bool} {l front back : List α} :
    splitLast? p l = some (front, back) ↔
      ∃ a, l = front ++ a :: back ∧ p a = true ∧ ∀ b ∈ back, p b = false := by
  constructor
  · intro h
    induction l generalizing front with
    | nil => exact absurd h (by simp [splitLast?])
    | cons a rest ih =>
      simp only [splitLast?] at h
      split at h
      · rename_i first others hrest
        obtain ⟨rfl, rfl⟩ := Prod.mk.inj (Option.some.inj h)
        obtain ⟨b, rfl, hb⟩ := ih hrest
        exact ⟨b, rfl, hb⟩
      · rename_i hnone
        split at h
        · rename_i ha
          obtain ⟨rfl, rfl⟩ := Prod.mk.inj (Option.some.inj h)
          exact ⟨a, rfl, ha, splitLast?_eq_none.1 hnone⟩
        · exact absurd h (by simp)
  · rintro ⟨a, rfl, ha, hback⟩
    exact splitLast?_append front ha hback

/-- A list is cut apart at the last occurrence of an element. -/
theorem splitLast?_beq_eq_some_iff {α : Type} [BEq α] [LawfulBEq α] {a : α}
    {l front back : List α} :
    splitLast? (· == a) l = some (front, back) ↔ l = front ++ a :: back ∧ a ∉ back := by
  rw [splitLast?_eq_some_iff]
  constructor
  · rintro ⟨b, heq, hb, hback⟩
    obtain rfl := beq_iff_eq.1 hb
    exact ⟨heq, fun hmem => beq_eq_false_iff_ne.1 (hback b hmem) rfl⟩
  · rintro ⟨heq, hback⟩
    exact ⟨a, heq, beq_self_eq_true a,
      fun b hb => beq_eq_false_iff_ne.2 fun hsame => hback (hsame ▸ hb)⟩

namespace Block

variable {separator : UInt8} {trailer : Option UInt8} {content : Bytes} {checksum : Nat}

/-- The block of any content with a checksum of four digits, and with `trailer` behind it. -/
def ofBytes (separator : UInt8) (trailer : Option UInt8) (content : Bytes) (checksum : Nat) :
    Bytes :=
  stx :: content ++ separator :: Utf8.encode (Numeral.hex 4 checksum) ++ trailer.toList ++ [etx]

/-- The block of a text is the block of its bytes. -/
theorem build_eq_ofBytes (separator : UInt8) (trailer : Option UInt8) (payload : Text)
    (checksum : Nat) : build separator trailer payload checksum =
      ofBytes separator trailer (Utf8.encode payload) checksum := rfl

/-- A byte that is mistaken neither for a delimiter of a block nor for a digit of its checksum. -/
structure IsSeparator (b : UInt8) : Prop where
  ne_etx : b ≠ etx
  not_digit : Numeral.isHexByte b = false

/-! ## Between the delimiters -/

/-- Raw bytes with given content between their first STX and the first ETX behind it. -/
def Delimits (raw content : Bytes) : Prop :=
  ∃ front back, raw = front ++ stx :: content ++ etx :: back ∧ stx ∉ front ∧ etx ∉ content

/-- Without STX no block begins. -/
theorem inner_of_notMem {raw : Bytes} (h : stx ∉ raw) :
    inner raw = .error (.malformedFrame "missing STX") := by
  have hall : ∀ b ∈ raw, decide (b ≠ stx) = true := fun b hb => decide_eq_true fun he => h (he ▸ hb)
  have hdrop : raw.dropWhile (· ≠ stx) = [] := by
    rw [← List.append_nil raw, List.dropWhile_append_of_pos hall, List.dropWhile_nil]
  rw [inner, hdrop]

/-- What stands in front of the first STX does not matter. -/
theorem inner_append {front : Bytes} (h : stx ∉ front) (rest : Bytes) :
    inner (front ++ stx :: rest) = inner (stx :: rest) := by
  have hall : ∀ b ∈ front, decide (b ≠ stx) = true :=
    fun b hb => decide_eq_true fun he => h (he ▸ hb)
  rw [inner, inner, List.dropWhile_append_of_pos hall]

/-- A block without ETX is not over. -/
theorem inner_of_notMem_etx {rest : Bytes} (h : etx ∉ rest) :
    inner (stx :: rest) = .error (.malformedFrame "missing ETX") := by
  have hnone : rest.contains etx = false := by simpa using h
  rw [inner, List.dropWhile_cons, if_neg (by simp)]
  simp only [hnone, Bool.false_eq_true, if_false]

/-- Content without ETX is found between the delimiters, whatever comes behind them. -/
theorem inner_eq (h : etx ∉ content) (behind : Bytes) :
    inner (stx :: content ++ etx :: behind) = .ok content := by
  have hfound : (content ++ etx :: behind).contains etx = true := by simp
  have htake : (content ++ etx :: behind).takeWhile (· ≠ etx) = content := by
    have hall : ∀ b ∈ content, decide (b ≠ etx) = true := fun b hb =>
      decide_eq_true fun he => h (he ▸ hb)
    rw [List.takeWhile_append_of_pos hall, List.takeWhile_cons, if_neg (by simp), List.append_nil]
  rw [inner, List.cons_append, List.dropWhile_cons, if_neg (by simp)]
  simp only [hfound, htake, if_true]

/-- What is found between the delimiters stands there. -/
theorem inner_eq_ok_iff {raw : Bytes} : inner raw = .ok content ↔ Delimits raw content := by
  constructor
  · intro h
    by_cases hs : stx ∈ raw
    · obtain ⟨front, rest, rfl, hfront⟩ := List.eq_append_cons_of_mem hs
      rw [inner_append hfront] at h
      by_cases he : etx ∈ rest
      · obtain ⟨found, back, rfl, hfound⟩ := List.eq_append_cons_of_mem he
        rw [← List.cons_append, inner_eq hfound] at h
        obtain rfl := Except.ok.inj h
        exact ⟨front, back, by simp, hfront, hfound⟩
      · rw [inner_of_notMem_etx he] at h
        exact absurd h (by simp)
    · rw [inner_of_notMem hs] at h
      exact absurd h (by simp)
  · rintro ⟨front, back, rfl, hfront, hcontent⟩
    rw [List.append_assoc, List.cons_append, inner_append hfront, ← List.cons_append,
      inner_eq hcontent]

/-- The separator behind the checksum may be there or not. -/
theorem dropTrailer_append {bytes : Bytes} (ht : ∀ b ∈ trailer, b = separator)
    (hl : bytes.getLast? ≠ some separator) :
    dropTrailer separator (bytes ++ trailer.toList) = bytes := by
  cases trailer with
  | none =>
    rw [Option.toList_none, List.append_nil, dropTrailer, if_neg hl]
  | some b =>
    obtain rfl := ht b rfl
    rw [Option.toList_some, dropTrailer, List.getLast?_concat, if_pos rfl, List.dropLast_concat]

/-! ## The parts of a block -/

/-- The digits of a checksum are no separators. -/
theorem ne_of_mem_encode_hex (hs : IsSeparator separator) {b : UInt8}
    (hb : b ∈ Utf8.encode (Numeral.hex 4 checksum)) : b ≠ separator := by
  rintro rfl
  have hdigit := Numeral.isHexByte_of_mem_encode_hex hb
  rw [hs.not_digit] at hdigit
  exact absurd hdigit (by decide)

/-- A block is taken apart if its content is a text, and refused otherwise. -/
theorem extract_ofBytes (hs : IsSeparator separator) (ht : ∀ b ∈ trailer, b = separator)
    (hc : etx ∉ content) : extract separator (ofBytes separator trailer content checksum) =
      match Utf8.decode? content with
      | none => .error (.malformedFrame "payload is not valid text")
      | some payload => .ok {
          payload
          covered := content ++ [separator]
          checksumField := Numeral.hex 4 checksum } := by
  have hinner : inner (ofBytes separator trailer content checksum) = .ok
      (content ++ separator :: Utf8.encode (Numeral.hex 4 checksum) ++ trailer.toList) := by
    rw [ofBytes, List.cons_append, List.cons_append]
    refine inner_eq (fun hmem => ?_) []
    rw [List.mem_append, List.mem_append, List.mem_cons] at hmem
    rcases hmem with (hmem | hmem | hmem) | hmem
    · exact hc hmem
    · exact hs.ne_etx hmem.symm
    · have hdigit := Numeral.isHexByte_of_mem_encode_hex hmem
      exact absurd hdigit (by decide)
    · exact hs.ne_etx (ht etx (Option.mem_toList.1 hmem)).symm
  have htrailer : dropTrailer separator
      (content ++ separator :: Utf8.encode (Numeral.hex 4 checksum) ++ trailer.toList) =
        content ++ separator :: Utf8.encode (Numeral.hex 4 checksum) := by
    refine dropTrailer_append ht fun hlast => ?_
    -- The last byte in front of the trailer is a digit.
    have hfield :=
      List.getLast?_eq_some_getLast (Utf8.encode_ne_nil (Numeral.hex_ne_nil 4 checksum))
    rw [List.getLast?_append, List.getLast?_cons, hfield, Option.getD_some, Option.some_or] at hlast
    exact ne_of_mem_encode_hex hs (List.getLast_mem _) (Option.some.inj hlast)
  have hsplit : splitLast? (· == separator)
      (content ++ separator :: Utf8.encode (Numeral.hex 4 checksum)) =
        some (content, Utf8.encode (Numeral.hex 4 checksum)) :=
    splitLast?_append content (beq_self_eq_true separator) fun b hb =>
      beq_eq_false_iff_ne.2 (ne_of_mem_encode_hex hs hb)
  rw [extract, hinner]
  simp only [bind, Except.bind, htrailer, hsplit, Utf8.decode?_encode]
  cases Utf8.decode? content <;> rfl

/-- What a block is taken apart into: two texts, on both sides of the last separator that is not at
the very end. -/
theorem extract_eq_ok_iff {raw : Bytes} {block : Block} : extract separator raw = .ok block ↔
    ∃ content, inner raw = .ok content ∧
      dropTrailer separator content = block.covered ++ Utf8.encode block.checksumField ∧
      block.covered = Utf8.encode block.payload ++ [separator] ∧
      separator ∉ Utf8.encode block.checksumField := by
  constructor
  · intro h
    obtain ⟨content, hcontent, h⟩ := bind_eq_ok_iff.1 h
    dsimp only at h
    split at h
    · exact absurd h (by simp)
    · rename_i front back hsplit
      split at h
      · exact absurd h (by simp)
      · exact absurd h (by simp)
      · rename_i payload field hpayload hfield
        obtain rfl := Except.ok.inj h
        obtain rfl := Utf8.decode?_eq_some_iff.1 hpayload
        obtain rfl := Utf8.decode?_eq_some_iff.1 hfield
        obtain ⟨heq, hnot⟩ := splitLast?_beq_eq_some_iff.1 hsplit
        exact ⟨content, hcontent, by rw [heq, List.append_assoc]; rfl, rfl, hnot⟩
  · rintro ⟨content, hcontent, heq, hcovered, hnot⟩
    rw [hcovered, List.append_assoc, List.singleton_append] at heq
    have hsplit := splitLast?_beq_eq_some_iff.2 ⟨heq, hnot⟩
    refine bind_eq_ok_iff.2 ⟨content, hcontent, ?_⟩
    dsimp only
    rw [hsplit]
    simp only [Utf8.decode?_encode]
    rw [← hcovered]

/-- The payload of a block is a text without delimiters. -/
theorem isPlain_of_extract {raw : Bytes} {separator : UInt8} {block : Block} (h : IsWhole raw)
    (hextract : extract separator raw = .ok block) : block.payload.IsPlain := by
  obtain ⟨content, hcontent, rfl⟩ := h
  obtain ⟨found, hfound, heq, hcovered, -⟩ := extract_eq_ok_iff.1 hextract
  rw [inner_eq hcontent.notMem_etx []] at hfound
  obtain rfl := Except.ok.inj hfound
  have hsub : dropTrailer separator content ⊆ content := by
    rw [dropTrailer]
    split
    · exact List.dropLast_subset content
    · exact List.Subset.refl content
  refine Text.isPlain_iff.2 fun b hb => hcontent b (hsub ?_)
  rw [heq, hcovered]
  exact List.mem_append_left _ (List.mem_append_left _ hb)

/-- The checksum of a block is read back. -/
theorem received_hex (payload : Text) (covered : Bytes) (h : checksum < 16 ^ 4) :
    received { payload, covered, checksumField := Numeral.hex 4 checksum } = .ok checksum := by
  rw [received, Numeral.hexField?_hex (by decide) h]

/-- What is taken out of a block are its content and its checksum. -/
theorem of_extract_ofBytes {block : Block} (hs : IsSeparator separator)
    (ht : ∀ b ∈ trailer, b = separator) (hc : etx ∉ content) (hr : checksum < 16 ^ 4)
    (h : extract separator (ofBytes separator trailer content checksum) = .ok block) :
    block.covered = content ++ [separator] ∧ block.received = .ok checksum := by
  rw [extract_ofBytes hs ht hc] at h
  split at h
  · exact absurd h (by simp)
  · obtain rfl := Except.ok.inj h
    exact ⟨rfl, received_hex _ _ hr⟩

end Block

end WeatherBus
