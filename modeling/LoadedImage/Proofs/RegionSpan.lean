import LoadedImage.Proofs.Restriction

/-!
# Regions as spans of addresses

A region made from a base and a size is meant to be the span of `size` bytes from the base
on (`Region.Spans`). It keeps its length and is empty only for the size zero, whatever the
size. But a span that ends at the top of the address space has no address behind it: the
limit wraps, lies below the base, and the region has no address in it any more, though it is
not empty. `Region.spans_ofSize_iff` says that this is the only way to go wrong.

A bounded image hands out regions whose bytes lie in its extent. If the extent fits into
the address space, such a region is a span but for the case that its last byte is the last
address of all (`BoundedImage.spans_iff_of_debugSection_eq_ok`). The extent itself, which
counts distances from its start, does contain that byte.
-/

namespace LoadedImage

namespace Region

variable {base a : Address} {size : UInt64}

/-- The region is the span of `size` bytes from its base on. -/
structure Spans (r : Region) (size : UInt64) : Prop where
  base_le_limit : r.base ≤ r.limit
  length_eq : r.length = size
  isEmpty_iff : r.isEmpty = true ↔ size = 0
  mem_iff : ∀ a, a ∈ r ↔ r.base ≤ a ∧ a.word - r.base.word < size

theorem isEmpty_ofSize (base : Address) (size : UInt64) :
    (ofSize base size).isEmpty = true ↔ size = 0 := by
  have hlength := length_ofSize base size
  unfold isEmpty
  rw [decide_eq_true_iff]
  refine ⟨?_, ?_⟩
  · intro h
    rw [length, ← h, UInt64.sub_self] at hlength
    exact hlength.symm
  · rintro rfl
    exact base.advance_zero.symm

/-- Below the top the region has the addresses at a distance less than the size. -/
theorem mem_ofSize_iff (h : base.word.toNat + size.toNat < UInt64.size) :
    a ∈ ofSize base size ↔ base ≤ a ∧ a.word - base.word < size := by
  have hlimit := Address.toNat_advance_of_lt h
  change base ≤ a ∧ a < base.advance size ↔ _
  refine and_congr_right fun hle => ?_
  rw [Address.lt_iff_toNat, UInt64.lt_iff_toNat_lt, UInt64.toNat_sub_of_le _ _ hle]
  rw [Address.le_iff_toNat] at hle
  omega

/-- A limit that has wrapped lies below the base. -/
theorem limit_lt_base (h : UInt64.size ≤ base.word.toNat + size.toNat) :
    (ofSize base size).limit < (ofSize base size).base := by
  have hnot := mt (Address.le_advance_iff base size).1 (Nat.not_lt.2 h)
  exact UInt64.not_le.1 hnot

theorem limit_eq_null (h : base.word.toNat + size.toNat = UInt64.size) :
    (ofSize base size).limit = .null := by
  have hzero : (base.word + size).toNat = 0 := by
    rw [UInt64.toNat_add]
    exact (congrArg (· % UInt64.size) h).trans (Nat.mod_self _)
  exact congrArg Address.mk (UInt64.toNat_inj.1 hzero)

theorem not_mem_of_limit_lt_base {r : Region} (h : r.limit < r.base) (a : Address) :
    a ∉ r := by
  rintro ⟨hbase, hlimit⟩
  rw [Address.lt_iff_toNat] at h hlimit
  rw [Address.le_iff_toNat] at hbase
  omega

/-- A region is the span it is made for if and only if there is an address behind the
span. -/
theorem spans_ofSize_iff :
    (ofSize base size).Spans size ↔ base.word.toNat + size.toNat < UInt64.size := by
  refine ⟨?_, ?_⟩
  · intro h
    exact (Address.le_advance_iff base size).1 h.base_le_limit
  · intro h
    exact
      { base_le_limit := (Address.le_advance_iff base size).2 h
        length_eq := length_ofSize base size
        isEmpty_iff := isEmpty_ofSize base size
        mem_iff := fun _ => mem_ofSize_iff h }

end Region

/-! ## Regions from a bounded image -/

/-- Each byte of a covered span lies in the extent. -/
theorem Extent.mem_of_covers {e : Extent} {base a : Address} {size : UInt64}
    (h : e.Covers base size) (hle : base ≤ a) (hlt : a.word - base.word < size) : a ∈ e := by
  obtain ⟨hstart, hstop⟩ := covers_iff_toNat.1 h
  rw [UInt64.lt_iff_toNat_lt, UInt64.toNat_sub_of_le _ _ hle] at hlt
  rw [Address.le_iff_toNat] at hle
  rw [mem_iff_toNat]
  omega

namespace BoundedImage

variable {b : BoundedImage} {s : DebugSection} {sink : Sink} {r : Region}

theorem eq_ofSize_of_debugSection_eq_ok (h : (b.debugSection s sink).value = .ok r) :
    r = .ofSize (b.image.sectionBase s) (s.size b.header) :=
  (b.debugSection_restricts s sink).value.eq_of_ok h

theorem covers_of_debugSection_eq_ok (h : (b.debugSection s sink).value = .ok r) :
    b.extent.Covers r.base (s.size b.header) := by
  rw [eq_ofSize_of_debugSection_eq_ok h]
  exact (b.debugSection_restricts s sink).value.exists_ok_iff.1 ⟨r, h⟩

/-- Let the extent fit into the address space. A region that the bounded image hands out has
the stored size, is empty only for the size zero, and has its bytes in the extent. It is
the span of its bytes if and only if its last byte is not the last address; otherwise its
limit is null, below the base, and the region has no address in it. -/
theorem spans_iff_of_debugSection_eq_ok
    (hfit : b.extent.start.word.toNat + b.extent.length.toNat ≤ UInt64.size)
    (hr : (b.debugSection s sink).value = .ok r) :
    (r.Spans (s.size b.header) ↔
        r.base.word.toNat + (s.size b.header).toNat ≠ UInt64.size) ∧
      r.length = s.size b.header ∧
      (r.isEmpty = true ↔ s.size b.header = 0) ∧
      (∀ a, r.base ≤ a → a.word - r.base.word < s.size b.header → a ∈ b.extent) ∧
      (r.base.word.toNat + (s.size b.header).toNat = UInt64.size →
        r.limit = .null ∧ r.limit < r.base ∧ ∀ a, a ∉ r) := by
  have hcovers := covers_of_debugSection_eq_ok hr
  have hroom : r.base.word.toNat + (s.size b.header).toNat ≤ UInt64.size :=
    Nat.le_trans (Extent.covers_iff_toNat.1 hcovers).2 hfit
  obtain rfl := eq_ofSize_of_debugSection_eq_ok hr
  refine ⟨?_, Region.length_ofSize _ _, Region.isEmpty_ofSize _ _,
    fun _ hle hlt => Extent.mem_of_covers hcovers hle hlt, ?_⟩
  · rw [Region.spans_ofSize_iff]
    exact Nat.lt_iff_le_and_ne.trans (and_iff_right hroom)
  · intro htop
    have hlimit := Region.limit_lt_base (Nat.le_of_eq htop.symm)
    exact ⟨Region.limit_eq_null htop, hlimit, Region.not_mem_of_limit_lt_base hlimit⟩

/-- An image in the last 96 bytes of the address space: a header, and right behind it `size`
bytes of debug information. -/
def atTop (size : UInt64) : BoundedImage where
  image := ⟨{ Header.zero with debugInfo := 80, debugInfoSize := size },
    ⟨0xffffffffffffffa0⟩⟩
  extent := ⟨⟨0xffffffffffffffa0⟩, 96⟩
  header_covered :=
    show Extent.Covers ⟨⟨0xffffffffffffffa0⟩, 96⟩ ⟨0xffffffffffffffa0⟩ Header.storedSize by
      decide

/-- Fifteen bytes leave the last address free, and the region is their span. -/
theorem spans_atTop_fifteen :
    (atTop 15).extent.start.word.toNat + (atTop 15).extent.length.toNat ≤ UInt64.size ∧
      ((atTop 15).debugSection .info .recorder).value =
        .ok (.ofSize ⟨0xfffffffffffffff0⟩ 15) ∧
      (Region.ofSize ⟨0xfffffffffffffff0⟩ 15).Spans 15 := by
  have hfit : (atTop 15).extent.start.word.toNat + (atTop 15).extent.length.toNat ≤
      UInt64.size := by decide
  have hr : ((atTop 15).debugSection .info .recorder).value =
      .ok (.ofSize ⟨0xfffffffffffffff0⟩ 15) := rfl
  exact ⟨hfit, hr, (spans_iff_of_debugSection_eq_ok hfit hr).1.2 (by decide)⟩

/-- Sixteen bytes reach the last address. They are in the extent and the region is handed
out with their number as its length, but it is upside down and does not even have its own
base in it. -/
theorem not_spans_atTop_sixteen :
    (atTop 16).extent.start.word.toNat + (atTop 16).extent.length.toNat ≤ UInt64.size ∧
      ∃ r, ((atTop 16).debugSection .info .recorder).value = .ok r ∧
        r.length = 16 ∧ r.base ∈ (atTop 16).extent ∧ ¬r.base ≤ r.limit ∧
        ¬(r.base ∈ r ↔ r.base ≤ r.base ∧ r.base.word - r.base.word < 16) := by
  refine ⟨by decide, .ofSize ⟨0xfffffffffffffff0⟩ 16, rfl, ?_⟩
  decide

end BoundedImage

end LoadedImage
