import WeatherBus.Text.Basic

/-! # Texts as bytes

On the line a text is its UTF-8 encoding.

* **`Utf8.encode`** and **`Utf8.decode?`** — the two directions; `Utf8.decode?_eq_some_iff` says
  that bytes are read as a text exactly if they are its encoding, so each text has one encoding;
* **`Utf8.size`** — the length of a text in bytes;
* **`Utf8.takeBytes`** — the longest front of a text that fits into a number of bytes, which
  `Utf8.takeBytes_prefix` and `Utf8.prefix_takeBytes` say;
* **`Utf8.takeBytes?`** and **`Utf8.dropBytes?`** — the front of a text of a number of bytes, and
  what follows it, `Utf8.takeBytes?_append` and `Utf8.dropBytes?_append`. -/

namespace WeatherBus

/-- What travels on a line. -/
abbrev Bytes := List UInt8

namespace Utf8

/-- The bytes of a text. -/
def encode (t : Text) : Bytes := t.flatMap String.utf8EncodeChar

/-- The text that has the given bytes, `none` if they are no valid encoding. -/
def decode? (b : Bytes) : Option Text := (ByteArray.utf8Decode? b.toByteArray).map Array.toList

/-- Nothing is encoded by no bytes. -/
@[simp] theorem encode_nil : encode [] = [] := rfl

/-- Two texts are encoded one after the other. -/
@[simp] theorem encode_append (s t : Text) : encode (s ++ t) = encode s ++ encode t := by
  simp [encode]

/-- A text is decoded from its bytes. -/
@[simp] theorem decode?_encode (t : Text) : decode? (encode t) = some t := by
  have h : (encode t).toByteArray = t.utf8Encode := rfl
  simp [decode?, h]

/-- No text but the empty one has no bytes. -/
theorem encode_ne_nil {t : Text} (h : t ≠ []) : encode t ≠ [] := by
  intro hnil
  have hread := decode?_encode t
  rw [hnil] at hread
  exact h (Option.some.inj (hread.symm.trans (decode?_encode [])))

/-- Bytes that are decoded are the code of the text. -/
theorem eq_encode_of_decode? {b : Bytes} {t : Text} (h : decode? b = some t) : b = encode t := by
  obtain ⟨a, ha, rfl⟩ := Option.map_eq_some_iff.1 h
  have hb := ByteArray.utf8Encode_get_utf8Decode? (b := b.toByteArray) (h := by simp [ha])
  simp only [ha, Option.get_some] at hb
  have he : (encode a.toList).toByteArray = a.toList.utf8Encode := rfl
  rw [← he] at hb
  simpa using (congrArg (fun x : ByteArray => x.data.toList) hb).symm

/-- Bytes are read as a text exactly if they are its encoding. -/
theorem decode?_eq_some_iff {b : Bytes} {t : Text} : decode? b = some t ↔ b = encode t :=
  ⟨eq_encode_of_decode?, fun h => h ▸ decode?_encode t⟩

/-- The length of a text in bytes. -/
def size : Text → Nat
  | [] => 0
  | c :: t => c.utf8Size + size t

/-- Two texts have the bytes of both. -/
theorem size_append (s t : Text) : size (s ++ t) = size s + size t := by
  induction s with
  | nil => simp [size]
  | cons c s ih => simp only [List.cons_append, size, ih, Nat.add_assoc]

/-- Every character takes at least one byte. -/
theorem length_le_size (t : Text) : t.length ≤ size t := by
  induction t with
  | nil => exact Nat.le_refl 0
  | cons c t ih =>
    have := c.utf8Size_pos
    simp only [List.length_cons, size]
    omega

/-- The longest front of a text that has at most `limit` bytes. -/
def takeBytes : (limit : Nat) → Text → Text
  | _, [] => []
  | limit, c :: t =>
    if c.utf8Size ≤ limit then c :: takeBytes (limit - c.utf8Size) t else []

/-- Not more bytes are taken than there may be. -/
theorem size_takeBytes_le (limit : Nat) (t : Text) : size (takeBytes limit t) ≤ limit := by
  induction t generalizing limit with
  | nil => simp [takeBytes, size]
  | cons c t ih =>
    simp only [takeBytes]
    split
    · have := ih (limit - c.utf8Size)
      simp only [size]
      omega
    · simp [size]

/-- A text that fits is taken whole. -/
theorem takeBytes_eq_self {limit : Nat} {t : Text} (h : size t ≤ limit) :
    takeBytes limit t = t := by
  induction t generalizing limit with
  | nil => rfl
  | cons c t ih =>
    simp only [size] at h
    rw [takeBytes, if_pos (by omega), ih (by omega)]

/-- What is taken is the front of the text. -/
theorem takeBytes_prefix (limit : Nat) (t : Text) : takeBytes limit t <+: t := by
  induction t generalizing limit with
  | nil => exact List.prefix_refl []
  | cons c t ih =>
    rw [takeBytes]
    split
    · exact List.cons_prefix_cons.2 ⟨rfl, ih _⟩
    · exact List.nil_prefix

/-- No front that fits is longer. -/
theorem prefix_takeBytes {limit : Nat} {front t : Text} (h : front <+: t)
    (hsize : size front ≤ limit) : front <+: takeBytes limit t := by
  induction t generalizing limit front with
  | nil => exact h
  | cons c t ih =>
    cases front with
    | nil => exact List.nil_prefix
    | cons d front =>
      obtain ⟨rfl, hrest⟩ := List.cons_prefix_cons.1 h
      simp only [size] at hsize
      rw [takeBytes, if_pos (by omega)]
      exact List.cons_prefix_cons.2 ⟨rfl, ih hrest (by omega)⟩

/-! ## Cuts between characters -/

/-- The front of a text that has `count` bytes, `none` if they end inside of a character. -/
def takeBytes? : (count : Nat) → Text → Option Text
  | 0, _ => some []
  | _ + 1, [] => none
  | count + 1, c :: t =>
    if c.utf8Size ≤ count + 1 then (takeBytes? (count + 1 - c.utf8Size) t).map (c :: ·) else none

/-- What follows the first `count` bytes of a text, `none` if they end inside of a character. -/
def dropBytes? : (count : Nat) → Text → Option Text
  | 0, t => some t
  | _ + 1, [] => none
  | count + 1, c :: t =>
    if c.utf8Size ≤ count + 1 then dropBytes? (count + 1 - c.utf8Size) t else none

/-- A front is taken by its number of bytes. -/
theorem takeBytes?_append (front back : Text) :
    takeBytes? (size front) (front ++ back) = some front := by
  induction front with
  | nil => simp [size, takeBytes?]
  | cons c front ih =>
    obtain ⟨n, hn⟩ : ∃ n, c.utf8Size + size front = n + 1 :=
      ⟨c.utf8Size + size front - 1, by have := c.utf8Size_pos; omega⟩
    have hle : c.utf8Size ≤ n + 1 := by omega
    have hrest : n + 1 - c.utf8Size = size front := by omega
    simp [size, hn, takeBytes?, hle, hrest, ih]

/-- What is behind it is left by that number. -/
theorem dropBytes?_append (front back : Text) :
    dropBytes? (size front) (front ++ back) = some back := by
  induction front with
  | nil => simp [size, dropBytes?]
  | cons c front ih =>
    obtain ⟨n, hn⟩ : ∃ n, c.utf8Size + size front = n + 1 :=
      ⟨c.utf8Size + size front - 1, by have := c.utf8Size_pos; omega⟩
    have hle : c.utf8Size ≤ n + 1 := by omega
    have hrest : n + 1 - c.utf8Size = size front := by omega
    simp [size, hn, dropBytes?, hle, hrest, ih]

end Utf8

end WeatherBus
