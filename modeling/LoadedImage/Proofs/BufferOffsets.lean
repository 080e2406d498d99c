import LoadedImage.Binary
import LoadedImage.Proofs.RegionSpan
import LoadedImage.Proofs.Restriction
import LoadedImage.Proofs.TableCorrection

/-!
# Checks of a binary are checks of offsets

The image in a buffer is bounded by the buffer, and its header stands at the front. What
the bounded image checks are absolute addresses, each the sum of the buffer's address and a
distance of the header, and the sum may wrap. As no buffer is longer than half the address
space, a distance that leads out of the buffer never leads back into it from the other side
(`Extent.mem_move_start_iff`, `Extent.covers_move_start_iff`).

`Binary.bounded_answersByOffset` says what is left of the checks: the distances are offsets
into the buffer, compared with its length. Nothing depends on where the buffer lies. A
section that passes reads as that part of the buffer (`Buffer.read?_ofSize`), and a table
entry as far behind the start of the buffer as it was behind the link address.
-/

namespace LoadedImage

/-! ## Moving from the start of an extent -/

namespace Extent

variable {e : Extent}

theorem covers_move_start_iff (hlength : e.length.toNat ≤ Int64.maxValue.toInt)
    (hfit : e.start.word.toNat + e.length.toNat < UInt64.size) (d : Int64)
    (size : UInt64) :
    e.Covers (e.start.move d) size ↔
      0 ≤ d.toInt ∧ d.toInt + size.toNat ≤ e.length.toNat := by
  have hmove := e.start.toNat_move d
  have hmax := d.toInt_lt
  have hmin := d.le_toInt
  rw [Int64.toInt_maxValue] at hlength
  rw [covers_iff_toNat]
  -- a sum below zero wraps to half the address space above the start, or more, and one
  -- beyond the top wraps to below the start
  unfold UInt64.size at *
  omega

theorem mem_move_start_iff (hlength : e.length.toNat ≤ Int64.maxValue.toInt)
    (hfit : e.start.word.toNat + e.length.toNat < UInt64.size) (d : Int64) :
    e.start.move d ∈ e ↔ 0 ≤ d.toInt ∧ d.toInt < e.length.toNat := by
  rw [mem_iff_covers_one]
  exact covers_move_start_iff hlength hfit d 1

theorem mem_advance_start_iff
    (hfit : e.start.word.toNat + e.length.toNat < UInt64.size) (count : UInt64) :
    e.start.advance count ∈ e ↔ count.toNat < e.length.toNat := by
  have hcount : e.depth (e.start.advance count) = count := e.start.word_advance_sub_word count
  refine ⟨?_, ?_⟩
  · rintro ⟨-, hlt⟩
    rwa [hcount, UInt64.lt_iff_toNat_lt] at hlt
  · intro hlt
    refine ⟨(Address.le_advance_iff _ _).2 (by omega), ?_⟩
    rwa [hcount, UInt64.lt_iff_toNat_lt]

end Extent

/-! ## Reading a region of a buffer -/

namespace Buffer

variable {b : Buffer}

theorem toNat_length_extent (h : b.bytes.length ≤ Int64.maxValue.toInt) :
    b.extent.length.toNat = b.bytes.length := by
  change (UInt64.ofNat b.bytes.length).toNat = _
  rw [Int64.toInt_maxValue] at h
  rw [UInt64.toNat_ofNat']
  omega

/-- A region that lies in the buffer reads as the bytes at its offset. -/
theorem read?_of_le {r : Region} {offset : Nat}
    (hbase : r.base.word.toNat = b.start.word.toNat + offset) (hle : r.base ≤ r.limit)
    (hroom : offset + r.length.toNat ≤ b.bytes.length) :
    b.read? r = some ((b.bytes.drop offset).take r.length.toNat) := by
  have hstart : b.start ≤ r.base := by
    rw [Address.le_iff_toNat]
    omega
  have hfirst : r.base.word.toNat - b.start.word.toNat = offset := by omega
  unfold read?
  split
  · next hempty =>
    have hlength : r.length = 0 := by
      rw [Region.length, ← of_decide_eq_true hempty, UInt64.sub_self]
    rw [hlength]
    rfl
  · rw [hfirst, if_pos ⟨hstart, hle, hroom⟩]

/-- A region made inside the buffer reads as the bytes at its offset. -/
theorem read?_ofSize {offset : Nat} {base : Address} {size : UInt64}
    (hbase : base.word.toNat = b.start.word.toNat + offset)
    (hroom : offset + size.toNat ≤ b.bytes.length)
    (hfit : b.start.word.toNat + b.bytes.length < UInt64.size) :
    b.read? (.ofSize base size) = some ((b.bytes.drop offset).take size.toNat) := by
  have hle : base ≤ base.advance size := (Address.le_advance_iff _ _).2 (by omega)
  rw [read?_of_le hbase hle (by rwa [Region.length_ofSize]), Region.length_ofSize]

end Buffer

/-! ## An image at the front of its extent -/

namespace BoundedImage

variable {b : BoundedImage}

section AtFront

variable (hfront : b.image.address = b.extent.start)
  (hlength : b.extent.length.toNat ≤ Int64.maxValue.toInt)
  (hfit : b.extent.start.word.toNat + b.extent.length.toNat < UInt64.size)

include hfront

theorem move_drift_eq_advance (a : Address) :
    a.move b.drift = b.extent.start.advance (a.word - b.linkAddress.word) := by
  rw [← hfront]
  exact a.move_distance_comm b.image.address b.image.linkAddress

include hfit

/-- An entry is not stray if it lay behind the link address by less than the length of the
extent. -/
theorem not_isStray_iff (a : Address) :
    ¬b.IsStray a ↔ a ≠ .null →
      (a.word - b.linkAddress.word).toNat < b.extent.length.toNat := by
  rw [isStray_iff, not_and_not_right, move_drift_eq_advance hfront]
  exact imp_congr_right fun _ => Extent.mem_advance_start_iff hfit _

theorem toNat_move_drift {a : Address} (h : a.move b.drift ∈ b.extent) :
    (a.move b.drift).word.toNat =
      b.extent.start.word.toNat + (a.word - b.linkAddress.word).toNat := by
  rw [move_drift_eq_advance hfront] at h ⊢
  rw [Extent.mem_advance_start_iff hfit] at h
  exact Address.toNat_advance_of_lt (by omega)

include hlength

theorem locate_mem_iff (d : Int64) :
    b.image.locate d ∈ b.extent ↔ 0 ≤ d.toInt ∧ d.toInt < b.extent.length.toNat := by
  rw [Image.locate, hfront]
  exact Extent.mem_move_start_iff hlength hfit d

theorem covers_locate_iff (d : Int64) (size : UInt64) :
    b.extent.Covers (b.image.locate d) size ↔
      0 ≤ d.toInt ∧ d.toInt + size.toNat ≤ b.extent.length.toNat := by
  rw [Image.locate, hfront]
  exact Extent.covers_move_start_iff hlength hfit d size

end AtFront

/-- The checks of a bounded image in terms of its header and of offsets into a buffer, and
the bytes and addresses it hands out, which lie as far behind the start of the buffer as the
offsets say. No condition has an address in it. -/
structure AnswersByOffset (b : BoundedImage) (header : Header) (buffer : Buffer) : Prop where
  base : (∃ a, b.base = .ok a) ↔
    0 ≤ header.imageBase.toInt ∧ header.imageBase.toInt < buffer.bytes.length
  toNat_base : ∀ a, b.base = .ok a →
    (a.word.toNat : Int) = buffer.start.word.toNat + header.imageBase.toInt
  glue : ∀ g, (∃ entry, b.glue g = .ok entry) ↔
    0 ≤ (g.distance header).toInt ∧ (g.distance header).toInt < buffer.bytes.length
  toNat_glue : ∀ g entry, b.glue g = .ok entry → entry.glue = g ∧
    (entry.address.word.toNat : Int) = buffer.start.word.toNat + (g.distance header).toInt
  debugSection : ∀ s sink, (∃ r, (b.debugSection s sink).value = .ok r) ↔
    0 ≤ (s.distance header).toInt ∧
      (s.distance header).toInt + (s.size header).toNat ≤ buffer.bytes.length
  read?_debugSection : ∀ s sink r, (b.debugSection s sink).value = .ok r →
    buffer.read? r =
      some ((buffer.bytes.drop (s.distance header).toInt.toNat).take (s.size header).toNat)
  correct : ∀ table place, (∃ n, (b.correct table place).value.1 = .ok n) ↔
    ∀ a ∈ table, a ≠ .null →
      (a.word - header.linkAddress.word).toNat < buffer.bytes.length
  table_correct : ∀ table place n, (b.correct table place).value.1 = .ok n →
    List.Forall₂
      (fun old new =>
        if old = .null then new = .null
        else new.word.toNat =
          buffer.start.word.toNat + (old.word - header.linkAddress.word).toNat)
      table (b.correct table place).value.2

/-- A place behind the header that does not pass the top is where the sum says. -/
theorem toNat_locate {start : Address} {d : Int64} (hstart : b.image.address = start)
    (hoffset : 0 ≤ d.toInt) (hfit : start.word.toNat + d.toInt < UInt64.size) :
    ((b.image.locate d).word.toNat : Int) = start.word.toNat + d.toInt := by
  rw [Image.locate, Address.toNat_move, hstart]
  exact Int.emod_eq_of_lt (by omega) hfit

/-- A region handed out from inside the buffer reads as the bytes at its offset. -/
theorem read?_of_debugSection_eq_ok {buffer : Buffer} {s : DebugSection} {sink : Sink}
    {r : Region} (hstart : b.image.address = buffer.start)
    (hfit : buffer.start.word.toNat + buffer.bytes.length < UInt64.size)
    (hoffset : 0 ≤ (s.distance b.header).toInt)
    (hroom : (s.distance b.header).toInt + (s.size b.header).toNat ≤ buffer.bytes.length)
    (hr : (b.debugSection s sink).value = .ok r) :
    buffer.read? r =
      some ((buffer.bytes.drop (s.distance b.header).toInt.toNat).take
        (s.size b.header).toNat) := by
  obtain rfl := eq_ofSize_of_debugSection_eq_ok hr
  have hplace := toNat_locate hstart hoffset (by omega)
  have hbase : (b.image.sectionBase s).word.toNat =
      buffer.start.word.toNat + (s.distance b.header).toInt.toNat := by
    change (b.image.locate (s.distance b.header)).word.toNat = _
    omega
  exact Buffer.read?_ofSize hbase (by omega) hfit

/-- Corrected entries lie as far behind the start of the extent as the entries did behind the
link address. -/
theorem forall₂_correct_of_eq_ok {table : Table} {place : Address} {n : Nat}
    (hfront : b.image.address = b.extent.start)
    (hfit : b.extent.start.word.toNat + b.extent.length.toNat < UInt64.size)
    (hn : (b.correct table place).value.1 = .ok n) :
    List.Forall₂
      (fun old new =>
        if old = .null then new = .null
        else new.word.toNat =
          b.extent.start.word.toNat + (old.word - b.linkAddress.word).toNat)
      table (b.correct table place).value.2 := by
  have hclean := (b.exists_correct_eq_ok_iff table).1 ⟨n, hn⟩
  rw [b.correct_of_not_stray table hclean, Traced.value_map]
  refine (b.forall₂_correct_of_not_stray table hclean).imp fun old new h => ?_
  split
  · next hnull =>
    rwa [if_pos hnull] at h
  · next hnull =>
    rw [if_neg hnull] at h
    obtain ⟨rfl, hmem⟩ := h
    exact toNat_move_drift hfront hfit hmem

/-- An image whose header stands at the front of a buffer, bounded by the buffer, answers by
offsets into it. -/
theorem answersByOffset {buffer : Buffer} (hstart : b.image.address = buffer.start)
    (hextent : b.extent = buffer.extent) (hlength : buffer.bytes.length ≤ Int64.maxValue.toInt)
    (hfit : buffer.start.word.toNat + buffer.bytes.length < UInt64.size) :
    b.AnswersByOffset b.header buffer := by
  have hbuffer : b.extent.start = buffer.start := congrArg Extent.start hextent
  have hfront : b.image.address = b.extent.start := hstart.trans hbuffer.symm
  have hcount : b.extent.length.toNat = buffer.bytes.length := by
    rw [hextent, Buffer.toNat_length_extent hlength]
  have hshort : b.extent.length.toNat ≤ Int64.maxValue.toInt := by rwa [hcount]
  have hroom : b.extent.start.word.toNat + b.extent.length.toNat < UInt64.size := by
    rwa [hcount, hbuffer]
  have hsection : ∀ s sink, (∃ r, (b.debugSection s sink).value = .ok r) ↔
      0 ≤ (s.distance b.header).toInt ∧
        (s.distance b.header).toInt + (s.size b.header).toNat ≤ buffer.bytes.length := by
    intro s sink
    rw [(b.debugSection_restricts s sink).value.exists_ok_iff, ← hcount]
    exact covers_locate_iff hfront hshort hroom _ _
  have hbase : (∃ a, b.base = .ok a) ↔
      0 ≤ b.header.imageBase.toInt ∧ b.header.imageBase.toInt < buffer.bytes.length := by
    rw [b.base_restricts.exists_ok_iff, ← hcount]
    exact locate_mem_iff hfront hshort hroom _
  have hglue : ∀ g, (∃ entry, b.glue g = .ok entry) ↔
      0 ≤ (g.distance b.header).toInt ∧
        (g.distance b.header).toInt < buffer.bytes.length := by
    intro g
    rw [(b.glue_restricts g).exists_ok_iff, ← hcount]
    exact locate_mem_iff hfront hshort hroom _
  refine ⟨hbase, ?_, hglue, ?_, hsection, ?_, ?_, ?_⟩
  · intro a ha
    obtain ⟨hoffset, hlt⟩ := hbase.1 ⟨a, ha⟩
    have hplace := toNat_locate hstart hoffset (by omega)
    rwa [b.base_restricts.eq_of_ok ha]
  · intro g entry hentry
    obtain ⟨hoffset, hlt⟩ := (hglue g).1 ⟨entry, hentry⟩
    have hplace := toNat_locate hstart hoffset (by omega)
    rw [(b.glue_restricts g).eq_of_ok hentry]
    exact ⟨rfl, hplace⟩
  · intro s sink r hr
    obtain ⟨hoffset, hspan⟩ := (hsection s sink).1 ⟨r, hr⟩
    exact read?_of_debugSection_eq_ok hstart hfit hoffset hspan hr
  · intro table place
    rw [exists_correct_eq_ok_iff, ← hcount]
    exact forall₂_congr fun a _ => not_isStray_iff hfront hroom a
  · intro table place n hn
    rw [← hbuffer]
    exact forall₂_correct_of_eq_ok hfront hroom hn

end BoundedImage

/-! ## The image in a binary -/

namespace Binary

variable (b : Binary)

theorem value_image :
    b.image.value = b.header.map fun header => ⟨header, b.buffer.start⟩ := by
  unfold image
  cases b.header <;> rfl

theorem value_bounded :
    b.bounded.value =
      b.header.bind fun header =>
        BoundedImage.ofImage ⟨header, b.buffer.start⟩ b.buffer.extent := by
  rw [bounded, Traced.value_map, value_image]
  cases b.header <;> rfl

variable {bytes : List UInt8}

/-- A buffer with room for a header is the extent of an image at its front. -/
theorem covers_extent (hheader : 80 ≤ bytes.length)
    (hlength : bytes.length ≤ Int64.maxValue.toInt) (start : Address) :
    (Buffer.mk start bytes).extent.Covers start Header.storedSize := by
  have hcount := Buffer.toNat_length_extent (b := ⟨start, bytes⟩) hlength
  rw [Extent.covers_iff_toNat, hcount, Header.toNat_storedSize]
  change start.word.toNat ≤ start.word.toNat ∧
    start.word.toNat + 80 ≤ start.word.toNat + bytes.length
  omega

/-- A buffer with room for a header holds an image. Wherever the buffer lies and whatever the
binary is called, the image can be bounded, and its checks are checks of the header's
distances against the length of the buffer. -/
theorem bounded_answersByOffset (hheader : 80 ≤ bytes.length)
    (hlength : bytes.length ≤ Int64.maxValue.toInt) :
    ∃ header, Header.decode (bytes.take 80) = .ok header ∧
      ∀ (name : String) (start : Address),
        start.word.toNat + bytes.length < UInt64.size →
          ∃ b, (Binary.bounded ⟨name, start, bytes⟩).value = .ok b ∧
            b.AnswersByOffset header ⟨start, bytes⟩ := by
  have hdecode := Header.decode_of_le_length hheader
  refine ⟨_, (Header.decode_take bytes).trans hdecode, fun name start hfit => ?_⟩
  have hcovers := covers_extent hheader hlength start
  refine ⟨⟨⟨_, start⟩, _, hcovers⟩, ?_, BoundedImage.answersByOffset rfl rfl hlength hfit⟩
  rw [value_bounded, header, hdecode]
  exact dif_pos hcovers

/-- A header whose base is the last byte of a buffer of 96 bytes, whose activation glue lies
before the buffer, and whose debug information is the last 16 bytes. -/
def sampleBytes : List UInt8 :=
  Header.encode { Header.zero with
    linkAddress := ⟨0xfffffffffffffff8⟩
    imageBase := 95
    activate := -1
    debugInfo := 80
    debugInfoSize := 16 } ++ List.replicate 16 7

/-- A buffer that leaves just the last address free. -/
theorem bounded_answersByOffset_sampleBytes :
    80 ≤ sampleBytes.length ∧ sampleBytes.length ≤ Int64.maxValue.toInt ∧
      (0xffffffffffffff9f : UInt64).toNat + sampleBytes.length < UInt64.size ∧
      ∃ header b, Header.decode (sampleBytes.take 80) = .ok header ∧
        (Binary.bounded ⟨"sample", ⟨0xffffffffffffff9f⟩, sampleBytes⟩).value = .ok b ∧
        b.AnswersByOffset header ⟨⟨0xffffffffffffff9f⟩, sampleBytes⟩ := by
  have hheader : 80 ≤ sampleBytes.length := by decide
  have hlength : sampleBytes.length ≤ Int64.maxValue.toInt := by decide
  have hfit : (0xffffffffffffff9f : UInt64).toNat + sampleBytes.length < UInt64.size := by
    decide
  obtain ⟨header, hdecode, hbounded⟩ := bounded_answersByOffset hheader hlength
  obtain ⟨b, hb, hanswers⟩ := hbounded "sample" ⟨0xffffffffffffff9f⟩ hfit
  exact ⟨hheader, hlength, hfit, header, b, hdecode, hb, hanswers⟩

end Binary

end LoadedImage
