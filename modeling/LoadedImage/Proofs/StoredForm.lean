import LoadedImage.Header.Codec
import Mathlib.Algebra.Group.Int.Defs
import Mathlib.Logic.Function.Basic

/-!
# The stored form of a header

The layout of a header says which bytes stand where: eight for each field, in the order of
declaration, and in them the field's value in two's complement (`LittleEndian.Holds`), the
least significant byte first. `Header.StoredAs` says this of a block without the help of the
encoder or the decoder, and each of the two turns out to be the only one the layout allows:
a header is stored as its encoding and as nothing else (`Header.storedAs_iff`), and what is
decoded from a block is the header the block is the stored form of
(`Header.decode_eq_ok_iff`).

It follows that headers and blocks of eighty bytes are in one-to-one correspondence, and that
the decoder refuses short data only (`Header.encode_decode_bijection`).
-/

namespace LoadedImage

/-! ## Two's complement -/

namespace LittleEndian

/-- The block holds the low digits of a number to the base 256, the least significant first.
For a negative number the division rounds down, so its digits are those of two's complement. -/
def Holds (block : List UInt8) (v : Int) : Prop :=
  ∀ j byte, block[j]? = some byte → (byte.toNat : Int) = v / 256 ^ j % 256

theorem holds_cons {b : UInt8} {bytes : List UInt8} {v : Int}
    (hb : (b.toNat : Int) = v % 256) (h : Holds bytes (v / 256)) : Holds (b :: bytes) v := by
  intro j byte hj
  cases j with
  | zero =>
    obtain rfl : b = byte := by simpa using hj
    rwa [pow_zero, Int.ediv_one]
  | succ j =>
    rw [pow_succ', ← Int.ediv_ediv_of_nonneg (by decide)]
    exact h j byte (by simpa using hj)

/-- A number is held by the bytes of any natural number that differs from it by a multiple of
the capacity of the block. -/
theorem holds_toBytes {width n : Nat} {v q : Int} (h : v = n + q * capacity width) :
    Holds (toBytes width n) v := by
  induction width generalizing n v with
  | zero =>
    intro j byte hj
    cases hj
  | succ width ih =>
    have hv : v = n + 256 * (q * capacity width) := by
      rw [h, capacity, Int.natCast_mul, Int.mul_left_comm]
      rfl
    have hlow : ((UInt8.ofNat n).toNat : Int) = n % 256 := by simp
    refine holds_cons ?_ (ih ?_)
    · rw [hlow]
      omega
    · omega

/-- The bytes of a block are determined by the number it holds. -/
theorem Holds.unique {a b : List UInt8} {v : Int} (ha : Holds a v) (hb : Holds b v)
    (hlength : a.length = b.length) : a = b := by
  refine List.ext_getElem hlength fun j hja hjb => UInt8.toNat_inj.1 ?_
  have hbyte := ha j _ (List.getElem?_eq_getElem hja)
  rw [← hb j _ (List.getElem?_eq_getElem hjb)] at hbyte
  exact Int.ofNat.inj hbyte

end LittleEndian

namespace Header

/-! ## The layout -/

/-- The values of the fields in the order of declaration. -/
def values (h : Header) : List Int :=
  [h.linkAddress.word.toNat, h.imageBase.toInt, h.activate.toInt, h.mainExitTask.toInt,
    h.unwind.toInt, h.yield.toInt, h.debugInfo.toInt, h.debugInfoSize.toNat,
    h.debugAbbrev.toInt, h.debugAbbrevSize.toNat]

/-- The eight bytes at the place `k`. -/
def block (bytes : List UInt8) (k : Nat) : List UInt8 :=
  (bytes.drop (8 * k)).take 8

/-- The bytes are laid out as those of the header: eighty of them, eight for each field. -/
structure StoredAs (h : Header) (bytes : List UInt8) : Prop where
  length_eq : bytes.length = 80
  holds : ∀ k v, h.values[k]? = some v → LittleEndian.Holds (block bytes k) v

theorem values_eq_map (h : Header) : h.values = Field.all.map h.value := by
  simp [values, Field.all, value, Field.isSigned, word]

theorem length_block {bytes : List UInt8} {k : Nat} (h : 8 * (k + 1) ≤ bytes.length) :
    (block bytes k).length = 8 := by
  rw [block, List.length_take, List.length_drop]
  omega

theorem flatMap_block (bytes : List UInt8) (n : Nat) :
    (List.range n).flatMap (block bytes) = bytes.take (8 * n) := by
  induction n with
  | zero => rfl
  | succ n ih =>
    rw [List.range_succ, List.flatMap_append, ih, List.flatMap_singleton, block,
      ← List.take_add, Nat.mul_succ]

/-- The blocks of the ten fields make up the bytes of the header. -/
theorem flatMap_block_index (bytes : List UInt8) :
    (Field.all.flatMap fun f => block bytes f.index) = bytes.take 80 :=
  flatMap_block bytes 10

/-- A value is the word of its field, up to a multiple of the number of words. -/
theorem holds_value (h : Header) (f : Field) :
    LittleEndian.Holds (LittleEndian.toBytes 8 (h.word f).toNat) (h.value f) := by
  unfold value
  split
  · have hword : (h.word f).toInt64.toBitVec.toNat = (h.word f).toNat := by
      rw [Int64.toNat_toBitVec, UInt64.toUInt64_toInt64]
    -- a signed value is the residue of the word that lies nearest to zero
    have hvalue := Int.bmod_eq_self_sub_bdiv_mul (h.word f).toNat (2 ^ 64)
    rw [← hword, ← BitVec.toInt_eq_toNat_bmod, Int64.toInt_toBitVec, hword,
      Int.sub_eq_add_neg, ← Int.neg_mul] at hvalue
    exact LittleEndian.holds_toBytes hvalue
  · exact LittleEndian.holds_toBytes (q := 0) (by simp)

theorem getElem?_values_index (h : Header) (f : Field) :
    h.values[f.index]? = some (h.value f) := by
  rw [values_eq_map, List.getElem?_map, Field.all_index, Option.map_some]

/-- Each place among the values is that of a field. -/
theorem exists_field_of_getElem?_values {h : Header} {k : Nat} {v : Int}
    (hv : h.values[k]? = some v) : ∃ f : Field, f.index = k ∧ h.value f = v := by
  have hindex : ∀ k : Fin Field.all.length, Field.all[k].index = k := by decide
  rw [values_eq_map, List.getElem?_map] at hv
  obtain ⟨f, hf, rfl⟩ := Option.map_eq_some_iff.1 hv
  obtain ⟨hk, rfl⟩ := List.getElem?_eq_some_iff.1 hf
  exact ⟨_, hindex ⟨k, hk⟩, rfl⟩

/-- The layout leaves no choice: it holds of the encoding and of no other block. -/
theorem storedAs_iff {h : Header} {bytes : List UInt8} :
    h.StoredAs bytes ↔ bytes = h.encode := by
  refine ⟨fun hs => ?_, ?_⟩
  · have hlength := hs.length_eq
    have hblock : ∀ f : Field,
        block bytes f.index = LittleEndian.toBytes 8 (h.word f).toNat := by
      intro f
      have hindex : f.index < 10 := by
        cases f <;> decide
      refine (hs.holds _ _ (h.getElem?_values_index f)).unique (h.holds_value f) ?_
      rw [length_block (by omega), LittleEndian.length_toBytes]
    calc bytes = bytes.take 80 := (List.take_of_length_le (Nat.le_of_eq hlength)).symm
      _ = Field.all.flatMap fun f => block bytes f.index := (flatMap_block_index bytes).symm
      _ = h.encode := by rw [funext hblock, encode]
  · rintro rfl
    refine ⟨h.length_encode, fun k v hv => ?_⟩
    obtain ⟨f, rfl, rfl⟩ := exists_field_of_getElem?_values hv
    have hblock := h.take_drop_encode_append [] f
    rw [List.append_nil] at hblock
    rw [block, hblock]
    exact h.holds_value f

/-! ## The codec -/

theorem toBytes_storedWord {bytes : List UInt8} (h : 80 ≤ bytes.length) (f : Field) :
    LittleEndian.toBytes 8 (storedWord bytes f).toNat = block bytes f.index := by
  have hindex : f.index < 10 := by
    cases f <;> decide
  have hlength : (block bytes f.index).length = 8 := length_block (by omega)
  have hlt := LittleEndian.toNat_lt (block bytes f.index)
  rw [hlength] at hlt
  have hword : (storedWord bytes f).toNat = LittleEndian.toNat (block bytes f.index) := by
    rw [storedWord, UInt64.toNat_ofNat']
    exact Nat.mod_eq_of_lt hlt
  have hblock := LittleEndian.toBytes_toNat (block bytes f.index)
  rwa [hlength, ← hword] at hblock

/-- Encoding what was decoded gives the bytes it was decoded from. -/
theorem encode_ofWords_storedWord {bytes : List UInt8} (h : 80 ≤ bytes.length) :
    (ofWords (storedWord bytes)).encode = bytes.take 80 := by
  have hblock : ∀ f : Field,
      LittleEndian.toBytes 8 ((ofWords (storedWord bytes)).word f).toNat =
        block bytes f.index := by
    intro f
    rw [word_ofWords, toBytes_storedWord h]
  rw [encode, funext hblock, flatMap_block_index]

/-- A header is decoded from the data that begin with its stored form. -/
theorem decode_eq_ok_iff {bytes : List UInt8} {h : Header} :
    decode bytes = .ok h ↔ h.StoredAs (bytes.take 80) := by
  rw [storedAs_iff]
  refine ⟨fun hd => ?_, fun hs => ?_⟩
  · by_cases hshort : bytes.length < byteCount
    · rw [decode, if_pos hshort] at hd
      cases hd
    · have hlong : 80 ≤ bytes.length := Nat.not_lt.1 hshort
      rw [decode_of_le_length hlong] at hd
      obtain rfl := Except.ok.inj hd
      exact (encode_ofWords_storedWord hlong).symm
  · rw [← List.take_append_drop 80 bytes, hs]
    exact decode_encode_append h _

theorem decode_eq_error_iff {bytes : List UInt8} {fault : Fault} :
    decode bytes = .error fault ↔
      bytes.length < 80 ∧ fault = .shortHeader bytes.length := by
  by_cases hshort : bytes.length < byteCount
  · rw [decode, if_pos hshort, Except.error.injEq, eq_comm]
    exact (and_iff_right hshort).symm
  · rw [decode_of_le_length (Nat.not_lt.1 hshort)]
    refine iff_of_false (fun h => ?_) (fun h => hshort h.1)
    cases h

theorem exists_decode_eq_ok {bytes : List UInt8} (h : 80 ≤ bytes.length) :
    ∃ h, decode bytes = .ok h ∧ h.encode = bytes.take 80 :=
  ⟨_, decode_of_le_length h, encode_ofWords_storedWord h⟩

/-- Headers correspond to blocks of eighty bytes, one to one. -/
theorem bijective_encode : Function.Bijective fun h : Header =>
    (⟨h.encode, h.length_encode⟩ : { block : List UInt8 // block.length = 80 }) := by
  refine ⟨fun h k hhk => ?_, fun ⟨bytes, hlength⟩ => ?_⟩
  · have hencode : h.encode = k.encode := congrArg Subtype.val hhk
    have hh := decode_encode_append h []
    rw [hencode, decode_encode_append] at hh
    exact (Except.ok.inj hh).symm
  · obtain ⟨h, -, hencode⟩ := exists_decode_eq_ok (Nat.le_of_eq hlength.symm)
    rw [List.take_of_length_le (Nat.le_of_eq hlength)] at hencode
    exact ⟨h, Subtype.ext hencode⟩

/-- What follows a stored header does not disturb the decoder, any eighty bytes are the
encoding of what is decoded from them, and data are refused for being short and for nothing
else. So encoding is one to one between headers and blocks of eighty bytes, and it is what
the layout describes. -/
theorem encode_decode_bijection :
    (∀ (h : Header) (rest : List UInt8), decode (h.encode ++ rest) = .ok h) ∧
      (∀ bytes : List UInt8, 80 ≤ bytes.length →
        ∃ h, decode bytes = .ok h ∧ h.encode = bytes.take 80) ∧
      (∀ bytes : List UInt8, (∃ fault, decode bytes = .error fault) ↔ bytes.length < 80) ∧
      (∀ (bytes : List UInt8) (fault : Fault), decode bytes = .error fault →
        fault = .shortHeader bytes.length ∧ fault.kind = .header) ∧
      (Function.Bijective fun h : Header =>
        (⟨h.encode, h.length_encode⟩ : { block : List UInt8 // block.length = 80 })) ∧
      ∀ (h : Header) (bytes : List UInt8), h.StoredAs bytes ↔ bytes = h.encode := by
  refine ⟨decode_encode_append, fun _ => exists_decode_eq_ok, fun bytes => ?_,
    fun bytes fault hf => ?_, bijective_encode, fun _ _ => storedAs_iff⟩
  · simp only [decode_eq_error_iff, exists_and_left, exists_eq, and_true]
  · obtain ⟨-, rfl⟩ := decode_eq_error_iff.1 hf
    exact ⟨rfl, rfl⟩

/-- A negative distance is stored in two's complement. -/
example : block (encode { zero with unwind := -8 }) 4 =
    [0xf8, 0xff, 0xff, 0xff, 0xff, 0xff, 0xff, 0xff] := by
  decide

end Header

end LoadedImage
