import WeatherBus.LightningDetector.Command
import WeatherBus.Proofs.Frame.Block
import WeatherBus.Proofs.Number.Written
import WeatherBus.VisibilitySensor.Command

/-! # How instruments write their blocks

* **`Block.Carries`** — what the host reads from a block, and its checksum is right;
* **`Block.Style`** — what the blocks of one kind of instrument have in common, with
  `LightningDetector.style` and `VisibilitySensor.style` for the two kinds that send blocks;
* **`Block.Style.carries_block`**, **`Block.Style.carries_frame`** — every payload that fits into a
  block is read from it;
* **`LightningDetector.Command.exists_block_of_read`** and the same for the sensor — what a request
  was read from. -/

namespace WeatherBus

/-- A register of the check has four hexadecimal digits. -/
theorem Checksum.Convention.toNat_apply_lt (convention : Convention) (data : Bytes) :
    (convention.apply data).toNat < 16 ^ 4 := (convention.apply data).isLt

namespace Block

/-- A payload is read from raw bytes, with the checksum of the bytes that it covers. -/
def Carries (separator : UInt8) (checksum : Bytes → Nat) (raw : Bytes) (payload : Text) : Prop :=
  ∃ block, extract separator raw = .ok block ∧ block.payload = payload ∧
    block.received = .ok (checksum block.covered)

/-- How the blocks of a kind of instrument are written. -/
structure Style where
  /-- The byte at which a field ends. -/
  separator : UInt8
  /-- What follows the checksum. -/
  trailer : Option UInt8
  /-- How the checksum is sent. -/
  convention : Checksum.Convention
  isSeparator : IsSeparator separator
  separator_ne_stx : separator ≠ WeatherBus.stx
  trailer_eq : ∀ b ∈ trailer, b = separator

namespace Style

variable (style : Style) {payload : Text}

/-- The checksum of the bytes that it covers. -/
def checksum (covered : Bytes) : Nat := (style.convention.apply covered).toNat

/-- The parts of the block of a payload. -/
def parts (payload : Text) : Block where
  payload := payload
  covered := Utf8.encode payload ++ [style.separator]
  checksumField := Numeral.hex 4 (style.checksum (Utf8.encode payload ++ [style.separator]))

/-- The block of a payload, both delimiters included. -/
def block (payload : Text) : Bytes :=
  build style.separator style.trailer payload (style.checksum (style.parts payload).covered)

/-- The block of a payload with CR and LF behind it. -/
def frame (payload : Text) : Bytes := style.block payload ++ [0x0D, 0x0A]

/-- What is written in a block is read from it, also if it holds separators. -/
theorem carries_block (h : payload.IsPlain) :
    Carries style.separator style.checksum (style.block payload) payload := by
  refine ⟨style.parts payload, ?_, rfl, received_hex _ _ (style.convention.toNat_apply_lt _)⟩
  rw [block, build_eq_ofBytes, extract_ofBytes style.isSeparator style.trailer_eq
    (Text.isPlain_iff.1 h).notMem_etx, Utf8.decode?_encode]
  rfl

/-- Separators delimit the fields of a block, but not the block. -/
theorem isContent_separators {bytes : Bytes} (h : ∀ b ∈ bytes, b = style.separator) :
    IsContent bytes := by
  intro b hb
  rw [h b hb]
  exact ⟨style.separator_ne_stx, style.isSeparator.ne_etx⟩

/-- Between its delimiters a block holds neither of them. -/
theorem isWhole_block (h : payload.IsPlain) : IsWhole (style.block payload) := by
  have hseparator : IsContent [style.separator] :=
    style.isContent_separators fun _ hb => List.mem_singleton.1 hb
  have hdigits : IsContent
      (Utf8.encode (Numeral.hex 4 (style.checksum (style.parts payload).covered))) :=
    Text.isPlain_iff.1 (Numeral.isToken_hex _ _).isPlain
  have htrailer : IsContent style.trailer.toList :=
    style.isContent_separators fun b hb => style.trailer_eq b (Option.mem_toList.1 hb)
  have hpayload := Text.isPlain_iff.1 h
  refine ⟨_, (hpayload.append (hseparator.append hdigits)).append htrailer, ?_⟩
  rfl

/-- What comes behind a block does not matter. -/
theorem carries_frame (h : payload.IsPlain) :
    Carries style.separator style.checksum (style.frame payload) payload := by
  obtain ⟨content, hcontent, heq⟩ := style.isWhole_block h
  have hinner : inner (style.frame payload) = inner (style.block payload) := by
    rw [frame, heq, List.append_assoc]
    exact (inner_eq hcontent.notMem_etx [0x0D, 0x0A]).trans (inner_eq hcontent.notMem_etx []).symm
  obtain ⟨block, hextract, hparts⟩ := style.carries_block h
  have hsame : extract style.separator (style.frame payload) =
      extract style.separator (style.block payload) := by
    rw [extract, extract, hinner]
  exact ⟨block, hsame.trans hextract, hparts⟩

end Style

end Block

namespace LightningDetector

/-- The separator of the detector is one. -/
theorem isSeparator : Block.IsSeparator separator := ⟨by decide, by decide⟩

/-- How the lightning detector writes its blocks. -/
def style : Block.Style where
  separator := separator
  trailer := none
  convention := .complemented
  isSeparator := isSeparator
  separator_ne_stx := by decide
  trailer_eq := by simp

/-- The detector frames in its style. -/
theorem frame_eq (payload : Text) : frame payload = style.frame payload := rfl

/-- What a request was read from. -/
theorem Command.exists_block_of_read {raw : Bytes} {request : Request Command}
    (h : read raw = .ok request) : ∃ block received, Block.extract separator raw = .ok block ∧
      block.received = .ok received ∧ request = {
        target := .first
        checksum := .compare received (checksum block.covered)
        command := ofText (Text.trim block.payload)
        text := Text.trim block.payload } := by
  obtain ⟨block, hextract, h⟩ := bind_eq_ok_iff.1 h
  obtain ⟨received, hreceived, h⟩ := bind_eq_ok_iff.1 h
  dsimp only at h
  split at h
  · obtain ⟨_, hempty, -⟩ := bind_eq_ok_iff.1 h
    exact absurd hempty throw_ne_ok
  · exact ⟨block, received, hextract, hreceived, (Except.ok.inj h).symm⟩

end LightningDetector

namespace VisibilitySensor

/-- The separator of the sensor is one. -/
theorem isSeparator : Block.IsSeparator separator := ⟨by decide, by decide⟩

/-- How the visibility sensor writes its blocks. -/
def style : Block.Style where
  separator := separator
  trailer := some separator
  convention := .direct
  isSeparator := isSeparator
  separator_ne_stx := by decide
  trailer_eq := by simp

/-- The sensor frames in its style. -/
theorem frame_eq (payload : Text) : frame payload = style.frame payload := rfl

/-- What a request was read from. -/
theorem Command.exists_block_of_read {raw : Bytes} {request : Request Command}
    (h : read raw = .ok request) : ∃ block received keyword id fields,
      Block.extract separator raw = .ok block ∧ block.received = .ok received ∧ request = {
        target := .address id
        checksum := status received (checksum block.covered)
        command := ofFields keyword fields
        text := block.payload } := by
  obtain ⟨block, hextract, h⟩ := bind_eq_ok_iff.1 h
  obtain ⟨received, hreceived, h⟩ := bind_eq_ok_iff.1 h
  split at h
  · rename_i keyword field fields hfields
    obtain ⟨id, -, h⟩ := bind_eq_ok_iff.1 h
    exact ⟨block, received, keyword, id, fields, hextract, hreceived, (Except.ok.inj h).symm⟩
  · exact absurd h throw_ne_ok

end VisibilitySensor

end WeatherBus
