import LoadedImage.Proofs.BufferOffsets
import LoadedImage.Proofs.StoredForm

/-!
# Loading an image from a buffer

A binary gives out its header, its image and its bounded image, and an image can also be made at
an address of the buffer without a binary. These ways look at the buffer differently: the decoder
asks for eighty bytes, the bounds ask whether the header lies in the extent, and an address is
read as what is stored there. In a buffer they come to the same, for the header stands at the
front and the extent is the whole buffer.

What is stored at an address is said by the layout alone (`Buffer.HasHeaderAt`), and that is what
the address reads as (`Buffer.headerAt?_eq_some_iff`). `Binary.loads_or_short` puts the ways
together: each of them leads to the one image the buffer holds, or the buffer is short and is
refused for that and for nothing else.
-/

namespace LoadedImage

/-! ## The header at an address -/

namespace Buffer

variable {b : Buffer} {a : Address} {h : Header}

/-- The bytes of the buffer from the address on are laid out as those of the header. -/
def HasHeaderAt (b : Buffer) (a : Address) (h : Header) : Prop :=
  ∃ offset, a.word.toNat = b.start.word.toNat + offset ∧
    h.StoredAs ((b.bytes.drop offset).take 80)

/-- Reading an address of the buffer gives the header that is laid out there. -/
theorem headerAt?_eq_some_iff (hlength : b.bytes.length ≤ Int64.maxValue.toInt) :
    b.headerAt? a = some h ↔ b.HasHeaderAt a h := by
  have hcount := toNat_length_extent hlength
  unfold headerAt?
  constructor
  · intro hsome
    split at hsome
    · next hcovers =>
      have hdepth := Extent.toNat_depth hcovers.1
      have hstart := Address.le_iff_toNat.1 hcovers.1
      cases hdecode : Header.decode (b.bytes.drop (b.extent.depth a).toNat) with
      | ok h' =>
        rw [hdecode] at hsome
        obtain rfl := Option.some.inj hsome
        exact ⟨_, (Nat.add_sub_cancel' hstart).symm, by
          rw [← hdepth]
          exact Header.decode_eq_ok_iff.1 hdecode⟩
      | error fault =>
        rw [hdecode] at hsome
        cases hsome
    · cases hsome
  · rintro ⟨offset, haddress, hstored⟩
    have hroom := hstored.length_eq
    rw [List.length_take, List.length_drop] at hroom
    have hcovers : b.extent.Covers a Header.storedSize := by
      rw [Extent.covers_iff_toNat, hcount, Header.toNat_storedSize]
      change b.start.word.toNat ≤ _ ∧ _ ≤ b.start.word.toNat + _
      omega
    have hdepth : (b.extent.depth a).toNat = offset := by
      rw [Extent.toNat_depth hcovers.1]
      change _ - b.start.word.toNat = _
      omega
    rw [if_pos hcovers, hdepth, Header.decode_eq_ok_iff.2 hstored]
    rfl

/-- What is laid out at the front is what is decoded from the whole buffer. -/
theorem hasHeaderAt_start_iff : b.HasHeaderAt b.start h ↔ Header.decode b.bytes = .ok h := by
  rw [Header.decode_eq_ok_iff]
  constructor
  · rintro ⟨offset, haddress, hstored⟩
    obtain rfl : offset = 0 := by omega
    exact hstored
  · intro hstored
    exact ⟨0, rfl, hstored⟩

end Buffer

/-! ## The ways of a binary -/

namespace Binary

variable {b : Binary}

/-- The binary gives out the bounded image, the image in it and the header of that. -/
structure Loads (b : Binary) (c : BoundedImage) : Prop where
  header : b.header = .ok c.header
  image : b.image.value = .ok c.image
  bounded : b.bounded.value = .ok c

/-- The binary gives out nothing, each time for the same fault. -/
structure RefusedFor (b : Binary) (fault : Fault) : Prop where
  header : b.header = .error fault
  image : b.image.value = .error fault
  bounded : b.bounded.value = .error fault

/-- If there is a header, it is the header of an image at the front of the buffer, and bounds
refuse nothing. -/
theorem loads_of_header {c : BoundedImage} (hheader : b.header = .ok c.header)
    (haddress : c.address = b.buffer.start) (hextent : c.extent = b.buffer.extent) :
    b.Loads c := by
  have himage : c.image = ⟨c.header, b.buffer.start⟩ := by
    rw [← haddress]
    rfl
  refine ⟨hheader, ?_, ?_⟩
  · rw [value_image, hheader, himage]
    rfl
  · rw [value_bounded, hheader]
    exact BoundedImage.ofImage_eq_ok_iff.2 ⟨himage, hextent⟩

theorem refusedFor_of_header {fault : Fault} (hheader : b.header = .error fault) :
    b.RefusedFor fault where
  header := hheader
  image := by
    rw [value_image, hheader]
    rfl
  bounded := by
    rw [value_bounded, hheader]
    rfl

/-- The bounded image at the front of a buffer with room for a header. It is what every binary
with this buffer gives out. -/
theorem exists_loads {buffer : Buffer} (hheader : 80 ≤ buffer.bytes.length)
    (hlength : buffer.bytes.length ≤ Int64.maxValue.toInt) :
    ∃ c : BoundedImage, c.address = buffer.start ∧ c.extent = buffer.extent ∧
      Header.decode buffer.bytes = .ok c.header ∧
        ∀ b : Binary, b.buffer = buffer → b.Loads c := by
  obtain ⟨h, hdecode, -⟩ := Header.exists_decode_eq_ok hheader
  refine ⟨⟨⟨h, buffer.start⟩, buffer.extent, covers_extent hheader hlength _⟩, rfl, rfl,
    hdecode, ?_⟩
  rintro b rfl
  exact loads_of_header hdecode rfl rfl

/-- A buffer with room for a header is loaded in every way, and a shorter one in none. Whatever
the binary is called, it gives out the one image that has the layout's header, the address and
the extent of the buffer, and so does the address of the buffer without a binary; or each way is
refused for the missing bytes, and the bounds never come to refuse anything. -/
theorem loads_or_short (buffer : Buffer)
    (hlength : buffer.bytes.length ≤ Int64.maxValue.toInt) :
    (∀ name, ((∃ h, (ofBuffer buffer name).header = .ok h) ↔ 80 ≤ buffer.bytes.length) ∧
        ((∃ i, (ofBuffer buffer name).image.value = .ok i) ↔ 80 ≤ buffer.bytes.length) ∧
        ((∃ c, (ofBuffer buffer name).bounded.value = .ok c) ↔ 80 ≤ buffer.bytes.length)) ∧
      (buffer.bytes.length < 80 → ∀ name,
        (ofBuffer buffer name).RefusedFor (.shortHeader buffer.bytes.length)) ∧
      (∀ name fault, (ofBuffer buffer name).bounded.value = .error fault →
        fault.kind = .header) ∧
      (80 ≤ buffer.bytes.length → ∃ c : BoundedImage,
        (∀ name, (ofBuffer buffer name).Loads c) ∧
          (∀ h, buffer.HasHeaderAt buffer.start h ↔ h = c.header) ∧
          c.address = buffer.start ∧ c.extent.start = buffer.start ∧
          c.extent.length.toNat = buffer.bytes.length ∧
          ∃ t, buffer.imageAt? buffer.start = some t ∧ t.value = c.image) := by
  have hshort : buffer.bytes.length < 80 → ∀ name,
      (ofBuffer buffer name).RefusedFor (.shortHeader buffer.bytes.length) := fun h name =>
    refusedFor_of_header (Header.decode_eq_error_iff.2 ⟨h, rfl⟩)
  by_cases hlong : 80 ≤ buffer.bytes.length
  · obtain ⟨c, haddress, hextent, hdecode, hall⟩ := exists_loads hlong hlength
    have hloads : ∀ name, (ofBuffer buffer name).Loads c := fun name => hall _ rfl
    refine ⟨fun name => ?_, hshort, fun name fault hf => ?_, fun _ => ⟨c, hloads, fun h => ?_,
      haddress, congrArg Extent.start hextent, ?_, ?_⟩⟩
    · simp only [(hloads name).header, (hloads name).image, (hloads name).bounded, hlong,
        Except.ok.injEq, exists_eq', and_self]
    · rw [(hloads name).bounded] at hf
      cases hf
    · rw [Buffer.hasHeaderAt_start_iff, hdecode, Except.ok.injEq, eq_comm]
    · rw [hextent, Buffer.toNat_length_extent hlength]
    · have hat := (Buffer.headerAt?_eq_some_iff hlength).2 (Buffer.hasHeaderAt_start_iff.2 hdecode)
      refine ⟨Image.load c.header buffer.start, ?_, ?_⟩
      · rw [Buffer.imageAt?, hat, Option.map_some]
      · rw [← haddress]
        rfl
  · have hrefused := hshort (Nat.not_le.1 hlong)
    refine ⟨fun name => ?_, hshort, fun name fault hf => ?_, fun h => absurd h hlong⟩
    · simp only [(hrefused name).header, (hrefused name).image, (hrefused name).bounded, hlong,
        reduceCtorEq, exists_false, and_self]
    · rw [(hrefused name).bounded] at hf
      obtain rfl := Except.error.inj hf
      rfl

/-- A buffer whose last byte is the last address, under two names. -/
theorem loads_or_short_sampleBytes :
    sampleBytes.length ≤ Int64.maxValue.toInt ∧ 80 ≤ sampleBytes.length ∧
      (0xffffffffffffffa0 : UInt64).toNat + sampleBytes.length = UInt64.size ∧
      ∃ c : BoundedImage, c.address = ⟨0xffffffffffffffa0⟩ ∧
        (ofBuffer ⟨⟨0xffffffffffffffa0⟩, sampleBytes⟩ (some "lib/sample.so")).Loads c ∧
        (ofBuffer ⟨⟨0xffffffffffffffa0⟩, sampleBytes⟩ none).Loads c := by
  have hlength : sampleBytes.length ≤ Int64.maxValue.toInt := by decide
  have hlong : 80 ≤ sampleBytes.length := by decide
  obtain ⟨-, -, -, hloads⟩ := loads_or_short ⟨⟨0xffffffffffffffa0⟩, sampleBytes⟩ hlength
  obtain ⟨c, hname, -, haddress, -⟩ := hloads hlong
  exact ⟨hlength, hlong, by decide, c, haddress, hname _, hname _⟩

end Binary

end LoadedImage
