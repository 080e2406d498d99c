import LoadedImage.Proofs.Placement
import LoadedImage.Proofs.RegionSpan

/-!
# Intervals of addresses

A base and a size can be tested for an address in three ways: a region compares with a limit
that may have wrapped, an extent counts the distance from its start, and the stop of the extent,
which never lies above the last address, can be compared with as well (`Extent.Brackets`). They
give the same answers if and only if there is an address behind the interval. Otherwise the
region has no address at all, and the comparison with the stop misses the last address and no
other (`Region.interval_tests`).

Spans are tested by the distance of their base and the room behind it. In an extent that fits
into the address space, a span that is not empty is covered if and only if each of its bytes is
in the extent; and in any extent, a span is covered if and only if both parts are into which it
is cut (`Extent.covers_bytewise_and_cut`).
-/

namespace LoadedImage

/-! ## Tests for an address -/

namespace Extent

variable {e : Extent} {a base : Address} {size : UInt64}

/-- The address lies between the start and the stop. -/
def Brackets (e : Extent) (a : Address) : Prop :=
  e.start ≤ a ∧ a < e.stop

theorem brackets_iff_mem (h : e.EndsBelowTop) : e.Brackets a ↔ a ∈ e := by
  have hstop := e.toNat_stop
  rw [mem_iff_toNat, Brackets, Address.le_iff_toNat, Address.lt_iff_toNat]
  unfold EndsBelowTop UInt64.size at *
  omega

/-- Without an address behind it, the extent has every address from its start on. -/
theorem mem_iff_start_le (h : ¬e.EndsBelowTop) : a ∈ e ↔ e.start ≤ a := by
  have ha := a.word.toNat_lt
  rw [mem_iff_toNat, Address.le_iff_toNat]
  unfold EndsBelowTop UInt64.size at h
  omega

theorem stop_eq_top (h : ¬e.EndsBelowTop) : e.stop = .top := by
  have hstop := e.toNat_stop
  rw [Nat.min_eq_right (Nat.le_trans (Nat.sub_le _ _) (Nat.not_lt.1 h)), ← Address.toNat_top]
    at hstop
  exact Address.word_inj.1 (UInt64.toNat_inj.1 hstop)

/-- Compared with the stop, the extent loses its last byte. -/
theorem brackets_iff_mem_and_ne_top (h : ¬e.EndsBelowTop) :
    e.Brackets a ↔ a ∈ e ∧ a ≠ .top := by
  rw [Brackets, stop_eq_top h, mem_iff_start_le h, Address.lt_top_iff]

theorem top_mem (h : ¬e.EndsBelowTop) : .top ∈ e :=
  (mem_iff_start_le h).2 e.start.le_top

theorem not_brackets_iff_mem_iff (h : ¬e.EndsBelowTop) :
    ¬(e.Brackets a ↔ a ∈ e) ↔ a = .top := by
  rw [brackets_iff_mem_and_ne_top h]
  constructor
  · intro hdiffers
    by_contra hne
    exact hdiffers (and_iff_left hne)
  · rintro rfl hsame
    exact (hsame.2 (top_mem h)).2 rfl

end Extent

namespace Region

variable {base a : Address} {size : UInt64}

theorem mem_ofSize_iff_mem_extent (h : Extent.EndsBelowTop ⟨base, size⟩) :
    a ∈ ofSize base size ↔ a ∈ (⟨base, size⟩ : Extent) :=
  mem_ofSize_iff h

theorem not_mem_ofSize (h : ¬Extent.EndsBelowTop ⟨base, size⟩) : a ∉ ofSize base size :=
  not_mem_of_limit_lt_base (limit_lt_base (Nat.not_lt.1 h)) a

/-- A new region keeps its size, and is empty for the size zero only. The region, the extent with
the same base and size and the comparison with the stop of that extent give the same answer for
each address if and only if base and size add up to an address. Otherwise the region has none,
the extent has all from the base to the last one, and the comparison with the stop differs from
the extent in the last one. -/
theorem interval_tests (sink : Sink) (base : Address) (size : UInt64) :
    let r := (create sink base size).value
    let e : Extent := ⟨base, size⟩
    r.length = size ∧ (r.isEmpty = true ↔ size = 0) ∧
      ((∀ a, (a ∈ r ↔ a ∈ e) ∧ (a ∈ e ↔ base ≤ a ∧ a < e.stop)) ↔
        base.word.toNat + size.toNat < UInt64.size) ∧
      (UInt64.size ≤ base.word.toNat + size.toNat →
        (∀ a, a ∉ r) ∧ (∀ a, a ∈ e ↔ base ≤ a ∧ a ≤ .top) ∧
          ∀ a, ¬(a ∈ e ↔ base ≤ a ∧ a < e.stop) ↔ a = .top) := by
  intro r e
  refine ⟨length_ofSize base size, isEmpty_ofSize base size, ⟨fun hsame => ?_, fun hbelow a => ?_⟩,
    fun hpast => ?_⟩
  · by_contra hpast
    have hnot : ¬e.EndsBelowTop := hpast
    exact not_mem_ofSize hnot ((hsame .top).1.2 (Extent.top_mem hnot))
  · have hend : e.EndsBelowTop := hbelow
    exact ⟨mem_ofSize_iff_mem_extent hend, (Extent.brackets_iff_mem hend).symm⟩
  · have hnot : ¬e.EndsBelowTop := Nat.not_lt.2 hpast
    refine ⟨fun _ => not_mem_ofSize hnot, fun a => ?_, fun a => ?_⟩
    · rw [Extent.mem_iff_start_le hnot]
      exact (and_iff_left a.le_top).symm
    · rw [iff_comm (a := a ∈ e)]
      exact Extent.not_brackets_iff_mem_iff hnot

end Region

/-! ## Tests for a span -/

namespace Extent

variable {e : Extent} {base : Address} {size s t : UInt64}

/-- In an extent that fits into the address space, a covered span does so too. -/
theorem Fits.room_of_covers (h : e.Fits) (hcovers : e.Covers base size) :
    base.word.toNat + size.toNat ≤ UInt64.size :=
  Nat.le_trans (covers_iff_toNat.1 hcovers).2 h

theorem mem_advance_of_covers (h : e.Covers base size)
    (hroom : base.word.toNat + size.toNat ≤ UInt64.size) {i : UInt64} (hi : i < size) :
    base.advance i ∈ e := by
  have hnat := UInt64.lt_iff_toNat_lt.1 hi
  have hle : base ≤ base.advance i := (base.le_advance_iff i).2 (by omega)
  refine mem_of_covers h hle ?_
  rwa [Address.word_advance_sub_word]

/-- The first and the last byte are enough for the whole span. -/
theorem covers_of_mem_ends (hone : 1 ≤ size)
    (hroom : base.word.toNat + size.toNat ≤ UInt64.size) (hfirst : base ∈ e)
    (hlast : base.advance (size - 1) ∈ e) : e.Covers base size := by
  have hsub : (size - 1).toNat = size.toNat - 1 := UInt64.toNat_sub_of_le _ _ hone
  have hpos : 1 ≤ size.toNat := hone
  have hadvance : (base.advance (size - 1)).word.toNat = base.word.toNat + (size - 1).toNat :=
    Address.toNat_advance_of_lt (by omega)
  rw [mem_iff_toNat] at hfirst hlast
  rw [covers_iff_toNat]
  omega

theorem covers_iff_forall_mem (hfit : e.Fits) (hone : 1 ≤ size) :
    e.Covers base size ↔ base.word.toNat + size.toNat ≤ UInt64.size ∧
      ∀ i < size, base.advance i ∈ e := by
  constructor
  · intro h
    have hroom := hfit.room_of_covers h
    exact ⟨hroom, fun i hi => mem_advance_of_covers h hroom hi⟩
  · rintro ⟨hroom, hbytes⟩
    have hfirst := hbytes 0 (UInt64.lt_of_lt_of_le (by decide) hone)
    rw [Address.advance_zero] at hfirst
    refine covers_of_mem_ends hone hroom hfirst (hbytes (size - 1) ?_)
    rw [UInt64.lt_iff_toNat_lt, UInt64.toNat_sub_of_le _ _ hone]
    exact Nat.sub_lt hone Nat.zero_lt_one

theorem covers_add_iff (hbase : base.word.toNat + s.toNat < UInt64.size)
    (hsize : s.toNat + t.toNat < UInt64.size) :
    e.Covers base (s + t) ↔ e.Covers base s ∧ e.Covers (base.advance s) t := by
  have hsum : (s + t).toNat = s.toNat + t.toNat := by
    rw [UInt64.toNat_add]
    exact Nat.mod_eq_of_lt hsize
  rw [covers_iff_toNat, covers_iff_toNat, covers_iff_toNat, hsum,
    Address.toNat_advance_of_lt hbase]
  omega

/-- In an extent that fits into the address space, a span of at least one byte is covered if and
only if it fits as well and each of its bytes is in the extent. In any extent at all, a span is
covered if and only if its first part and the rest behind that are, the place of the cut being an
address. -/
theorem covers_bytewise_and_cut (e : Extent) :
    (e.Fits → ∀ (base : Address) (size : UInt64), 1 ≤ size →
        (e.Covers base size ↔ base.word.toNat + size.toNat ≤ UInt64.size ∧
          ∀ i < size, base.advance i ∈ e)) ∧
      ∀ (base : Address) (s t : UInt64), base.word.toNat + s.toNat < UInt64.size →
        s.toNat + t.toNat < UInt64.size →
          (e.Covers base (s + t) ↔ e.Covers base s ∧ e.Covers (base.advance s) t) :=
  ⟨fun hfit _ _ hone => covers_iff_forall_mem hfit hone,
    fun _ _ _ hbase hsize => covers_add_iff hbase hsize⟩

/-- The last two addresses: both bytes are in the extent, and it can be cut between them. -/
theorem covers_bytewise_and_cut_atTop :
    let e : Extent := ⟨⟨0xfffffffffffffffe⟩, 2⟩
    e.Fits ∧ e.Covers e.start (1 + 1) ∧ (∀ i < (1 + 1 : UInt64), e.start.advance i ∈ e) ∧
      e.Covers e.start 1 ∧ e.Covers (e.start.advance 1) 1 := by
  intro e
  have hfit : e.Fits := by
    unfold Extent.Fits
    decide
  have hcovers : e.Covers e.start (1 + 1) := by decide
  obtain ⟨hbytewise, hcut⟩ := covers_bytewise_and_cut e
  exact ⟨hfit, hcovers, ((hbytewise hfit e.start (1 + 1) (by decide)).1 hcovers).2,
    (hcut e.start 1 1 (by decide) (by decide)).1 hcovers⟩

/-- A span without bytes has none outside, but is not covered if it begins beyond the end. -/
example : ¬Extent.Covers ⟨⟨0x1000⟩, 16⟩ ⟨0x1011⟩ 0 := by decide

end Extent

end LoadedImage
