import WeatherBus.Text.Utf8

/-! # Checksums

Each checksum is a left fold over the bytes, so that the checksum of two runs of bytes is the one of
the second run, started from the one of the first.

* **`Checksum.xor`**, **`Checksum.sum`** — exclusive or and sum modulo 256; `Checksum.xor_append`;
* **`Checksum.crc`** — the cyclic redundancy check of 16 bits with the polynomial
  `x ^ 16 + x ^ 12 + x ^ 5 + 1`, most significant bit first; `Checksum.crc_append`;
* **`Checksum.Convention`** — whether the register is sent as it is or complemented. -/

namespace WeatherBus

namespace Checksum

/-! ## Single bytes -/

/-- The exclusive or of all bytes. -/
def xor (data : Bytes) : UInt8 := data.foldl (· ^^^ ·) 0

/-- The check of some bytes goes on with what has been taken in before. -/
theorem foldl_xor (start : UInt8) (data : Bytes) :
    data.foldl (· ^^^ ·) start = start ^^^ xor data := by
  induction data generalizing start with
  | nil => exact UInt8.xor_zero.symm
  | cons b data ih =>
    rw [xor, List.foldl_cons, List.foldl_cons, ih, ih (0 ^^^ b), UInt8.zero_xor, UInt8.xor_assoc]

/-- The check of two parts is put together from theirs. -/
theorem xor_append (a b : Bytes) : xor (a ++ b) = xor a ^^^ xor b := by
  rw [xor, List.foldl_append, foldl_xor]
  rfl

/-- A byte in front counts like any other. -/
theorem xor_cons (b : UInt8) (data : Bytes) : xor (b :: data) = b ^^^ xor data := by
  rw [xor, List.foldl_cons, foldl_xor, UInt8.zero_xor]

/-- The sum of all bytes modulo 256. -/
def sum (data : Bytes) : UInt8 := data.foldl (· + ·) 0

/-! ## The cyclic redundancy check -/

/-- The feedback taps of the shift register. -/
def taps : BitVec 16 := 0x1021#16

/-- Shift the register by one bit, feeding back the bit that falls out. -/
def shift (register : BitVec 16) : BitVec 16 :=
  if register.msb then (register <<< 1) ^^^ taps else register <<< 1

/-- Shift the register by a number of bits. -/
def shifts : (count : Nat) → (register : BitVec 16) → BitVec 16
  | 0, register => register
  | count + 1, register => shifts count (shift register)

/-- Take in one byte: it is added to the upper half, then eight bits are shifted out. -/
def feedByte (register : BitVec 16) (byte : UInt8) : BitVec 16 :=
  shifts 8 (register ^^^ (byte.toBitVec.setWidth 16 <<< 8))

/-- The register after all bytes, from an initial value. -/
def crc (initial : BitVec 16) (data : Bytes) : BitVec 16 := data.foldl feedByte initial

/-- The check can be taken in parts. -/
theorem crc_append (initial : BitVec 16) (a b : Bytes) :
    crc initial (a ++ b) = crc (crc initial a) b := by
  simp [crc]

/-- The check with all bits of the register set at first. -/
def ccitt (data : Bytes) : BitVec 16 := crc 0xFFFF#16 data

/-- The check with a cleared register at first. -/
def xmodem (data : Bytes) : BitVec 16 := crc 0#16 data

/-- How the register is sent. -/
inductive Convention where
  /-- As it is. -/
  | direct
  /-- All bits complemented. -/
  | complemented
deriving DecidableEq, Repr

/-- The check as it is sent. -/
def Convention.apply : Convention → Bytes → BitVec 16
  | .direct, data => ccitt data
  | .complemented, data => ~~~(ccitt data)

end Checksum

/-- What the check of a received frame found. -/
inductive ChecksumStatus where
  /-- The frame carries no checksum. -/
  | absent
  /-- The checksum matches. -/
  | valid
  /-- The checksum does not match. -/
  | invalid (received calculated : Nat)
deriving DecidableEq, Repr

/-- Compare a received checksum with the calculated one. -/
def ChecksumStatus.compare (received calculated : Nat) : ChecksumStatus :=
  if received = calculated then .valid else .invalid received calculated

/-- A checksum is valid if it is the one that was calculated. -/
theorem ChecksumStatus.compare_eq_valid_iff {received calculated : Nat} :
    compare received calculated = .valid ↔ received = calculated := by
  rw [compare]
  split <;> simp_all

end WeatherBus
