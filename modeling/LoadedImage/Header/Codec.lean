import LoadedImage.Fault
import LoadedImage.LittleEndian

/-!
# The stored form of a header

A header is stored as the words of its fields in order, each as eight bytes, the least
significant first. `Header.decode` reads the header at the front of a block of bytes
and looks at nothing behind it (`Header.decode_encode_append`); a block that is too
short is refused.
-/

namespace LoadedImage.Header

/-- The bytes of the header. -/
def encode (h : Header) : List UInt8 :=
  Field.all.flatMap fun f => LittleEndian.toBytes 8 (h.word f).toNat

/-- The word at the place of a field. -/
def storedWord (bytes : List UInt8) (f : Field) : UInt64 :=
  UInt64.ofNat (LittleEndian.toNat ((bytes.drop (8 * f.index)).take 8))

/-- The header at the front of `bytes`. -/
def decode (bytes : List UInt8) : Except Fault Header :=
  if bytes.length < byteCount then .error (.shortHeader bytes.length)
  else .ok (ofWords (storedWord bytes))

@[simp]
theorem length_encode (h : Header) : h.encode.length = byteCount := by
  simp [encode, Field.all, byteCount]

/-- The eight bytes at the place of a field are those of its word. -/
theorem take_drop_encode_append (h : Header) (rest : List UInt8) (f : Field) :
    ((h.encode ++ rest).drop (8 * f.index)).take 8 =
      LittleEndian.toBytes 8 (h.word f).toNat := by
  cases f <;> simp [encode, Field.all, Field.index, List.drop_append, List.drop_eq_nil_of_le]

theorem storedWord_encode_append (h : Header) (rest : List UInt8) (f : Field) :
    storedWord (h.encode ++ rest) f = h.word f := by
  have hlt : (h.word f).toNat < LittleEndian.capacity 8 := (h.word f).toNat_lt
  rw [storedWord, take_drop_encode_append, LittleEndian.toNat_toBytes, Nat.mod_eq_of_lt hlt]
  simp

/-- Whatever stands behind a stored header, it is read back. -/
theorem decode_encode_append (h : Header) (rest : List UInt8) :
    decode (h.encode ++ rest) = .ok h := by
  have hlong : ¬(h.encode ++ rest).length < byteCount := by
    rw [List.length_append, length_encode]
    omega
  rw [decode, if_neg hlong, funext (storedWord_encode_append h rest), ofWords_word]

theorem storedWord_take (bytes : List UInt8) (f : Field) :
    storedWord (bytes.take byteCount) f = storedWord bytes f := by
  have hindex : 8 ≤ byteCount - 8 * f.index := by
    cases f <;> decide
  rw [storedWord, List.drop_take, List.take_take, Nat.min_eq_left hindex]
  rfl

/-- Only the bytes of the header itself are looked at. -/
theorem decode_take (bytes : List UInt8) : decode (bytes.take byteCount) = decode bytes := by
  by_cases h : bytes.length < byteCount
  · rw [List.take_of_length_le (Nat.le_of_lt h)]
  · have htake : ¬(bytes.take byteCount).length < byteCount := by
      rw [List.length_take]
      omega
    rw [decode, decode, if_neg h, if_neg htake, funext (storedWord_take bytes)]

theorem decode_of_le_length {bytes : List UInt8} (h : byteCount ≤ bytes.length) :
    decode bytes = .ok (ofWords (storedWord bytes)) :=
  if_neg (Nat.not_lt.2 h)

/-- A header that was decoded has the words stored in data of sufficient length. -/
theorem of_decode_eq_ok {bytes : List UInt8} {h : Header} (hd : decode bytes = .ok h) :
    byteCount ≤ bytes.length ∧ ∀ f, h.word f = storedWord bytes f := by
  by_cases hshort : bytes.length < byteCount
  · rw [decode, if_pos hshort] at hd
    cases hd
  · rw [decode_of_le_length (Nat.not_lt.1 hshort)] at hd
    obtain rfl := Except.ok.inj hd
    exact ⟨Nat.not_lt.1 hshort, word_ofWords _⟩

end LoadedImage.Header
