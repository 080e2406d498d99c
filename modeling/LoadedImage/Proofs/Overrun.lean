import LoadedImage.Proofs.Placement

/-!
# Spans that run past the last address

A span is checked against the start and the length of an extent, and nothing ties these two
to the size of the address space. An extent may itself run past the last address
(it does not fit, `Extent.Fits`), and then it covers spans that do so: it accepts what runs
over its top by no more than the extent does (`Extent.covers_iff_toNat`).

`BoundedImage.refusesPastTop_iff` says for which extents a span that runs past the last
address is refused: for those that fit, and for those with no room for a header, which bound
no image at all. In every other extent some header and some debug section pass that wrap
around to the low addresses.
-/

namespace LoadedImage.BoundedImage

/-- A header that runs past the last address is refused for the bounds. -/
def RefusesHeaderPastTop (e : Extent) : Prop :=
  ∀ i : Image, UInt64.size < i.address.word.toNat + 80 →
    ∃ fault, ofImage i e = .error fault ∧ fault.kind = .bounds

/-- A debug section that runs past the last address is refused for the bounds, and not
reported. -/
def RefusesSectionPastTop (e : Extent) : Prop :=
  ∀ (i : Image) (b : BoundedImage) (s : DebugSection) (sink : Sink), ofImage i e = .ok b →
    UInt64.size <
        (i.address.move (s.distance i.header)).word.toNat + (s.size i.header).toNat →
      ∃ fault, b.debugSection s sink = pure (.error fault) ∧ fault.kind = .bounds

variable {e : Extent}

/-! ## Extents that refuse -/

theorem refusesHeaderPastTop (h : e.Fits ∨ e.length.toNat < 80) : RefusesHeaderPastTop e := by
  intro i hpast
  refine (ofImage_restricts i e).2.1 ?_
  rintro ⟨hstart, hstop⟩
  unfold Extent.Fits at h
  omega

theorem eighty_le_length_extent (b : BoundedImage) : 80 ≤ b.extent.length.toNat := by
  obtain ⟨hstart, hstop⟩ := Extent.covers_iff_toNat.1 b.header_covered
  rw [Header.toNat_storedSize] at hstop
  omega

theorem refusesSectionPastTop (h : e.Fits ∨ e.length.toNat < 80) :
    RefusesSectionPastTop e := by
  intro i b s sink hb hpast
  obtain ⟨rfl, rfl⟩ := ofImage_eq_ok_iff.1 hb
  refine (b.restrictsImage_self.debugSection s sink).refuses ?_
  rintro ⟨-, hstop⟩
  rcases h with hfit | hshort
  · unfold Extent.Fits at hfit
    omega
  · exact absurd hshort (Nat.not_lt.2 b.eighty_le_length_extent)

/-! ## Extents that accept -/

section PastTop

variable (hpast : UInt64.size < e.start.word.toNat + e.length.toNat)
  (hroom : 80 ≤ e.length.toNat)

include hpast hroom

/-- The header as far up as the extent and the address space allow. -/
theorem exists_header_pastTop :
    ∃ (i : Image) (b : BoundedImage), ofImage i e = .ok b ∧
      UInt64.size < i.address.word.toNat + 80 := by
  have hsub : (e.length - 80).toNat = e.length.toNat - 80 := UInt64.toNat_sub_of_le _ _ hroom
  have haddress := e.start.toNat_advanceToTop (e.length - 80)
  have hstart := e.start.word.toNat_lt
  have hsize : 80 ≤ UInt64.size := by decide
  obtain ⟨b, hb⟩ : ∃ b, ofImage ⟨.zero, e.start.advanceToTop (e.length - 80)⟩ e = .ok b := by
    rw [exists_ofImage_eq_ok_iff, Extent.covers_iff_toNat, Header.toNat_storedSize, haddress]
    unfold UInt64.size at *
    omega
  refine ⟨_, b, hb, ?_⟩
  rw [haddress]
  omega

end PastTop

/-- An image at the front of an extent that takes all of it for its debug information. -/
def claimingAll (e : Extent) : Image :=
  ⟨{ Header.zero with debugInfoSize := e.length }, e.start⟩

theorem sectionBase_claimingAll (e : Extent) : (claimingAll e).sectionBase .info = e.start :=
  e.start.move_zero

theorem exists_section_claimingAll (hroom : 80 ≤ e.length.toNat) (sink : Sink) :
    ∃ b, ofImage (claimingAll e) e = .ok b ∧
      (b.debugSection .info sink).value = .ok (.ofSize e.start e.length) := by
  have hheader : e.Covers (claimingAll e).address Header.storedSize := by
    rw [Extent.covers_iff_toNat, Header.toNat_storedSize]
    exact ⟨Nat.le_refl _, Nat.add_le_add_left hroom _⟩
  have hsection : e.Covers ((claimingAll e).sectionBase .info) e.length := by
    rw [sectionBase_claimingAll, Extent.covers_iff_toNat]
    exact ⟨Nat.le_refl _, Nat.le_refl _⟩
  refine ⟨⟨claimingAll e, e, hheader⟩, dif_pos hheader, ?_⟩
  rw [← sectionBase_claimingAll e, value_debugSection]
  exact if_pos hsection

/-! ## Which extents refuse -/

/-- Headers and debug sections that run past the last address are refused by the extents that
fit into the address space and by those with no room for a header. Every other extent accepts
some such header and some such debug section. -/
theorem refusesPastTop_iff (e : Extent) :
    (RefusesHeaderPastTop e ↔ e.Fits ∨ e.length.toNat < 80) ∧
      (RefusesSectionPastTop e ↔ e.Fits ∨ e.length.toNat < 80) := by
  have hlarge : ¬(e.Fits ∨ e.length.toNat < 80) →
      UInt64.size < e.start.word.toNat + e.length.toNat ∧ 80 ≤ e.length.toNat := by
    rw [not_or, Extent.Fits]
    omega
  refine ⟨⟨fun hrefuses => ?_, refusesHeaderPastTop⟩,
    ⟨fun hrefuses => ?_, refusesSectionPastTop⟩⟩
  · by_contra hnot
    obtain ⟨hpast, hroom⟩ := hlarge hnot
    obtain ⟨i, b, hb, hi⟩ := exists_header_pastTop hpast hroom
    obtain ⟨fault, hfault, -⟩ := hrefuses i hi
    rw [hb] at hfault
    cases hfault
  · by_contra hnot
    obtain ⟨hpast, hroom⟩ := hlarge hnot
    obtain ⟨b, hb, hr⟩ := exists_section_claimingAll hroom .discard
    obtain ⟨fault, hfault, -⟩ := hrefuses _ b .info .discard hb (by
      change UInt64.size < ((claimingAll e).sectionBase .info).word.toNat + e.length.toNat
      rwa [sectionBase_claimingAll])
    rw [hfault] at hr
    cases hr

/-- An image at the start of the last 96 bytes, with an extent of 200 bytes from there on. Its
debug information takes the last 16 bytes and the first 16. -/
def pastTop : BoundedImage where
  image := ⟨{ Header.zero with debugInfo := 80, debugInfoSize := 32 }, ⟨0xffffffffffffffa0⟩⟩
  extent := ⟨⟨0xffffffffffffffa0⟩, 200⟩
  header_covered :=
    show Extent.Covers ⟨⟨0xffffffffffffffa0⟩, 200⟩ ⟨0xffffffffffffffa0⟩ Header.storedSize by
      decide

/-- The debug information is handed out with a limit among the low addresses, and a header
that has only its first 16 bytes below the top is bounded by the same extent. -/
theorem not_refusesPastTop_pastTop :
    (ofImage pastTop.image pastTop.extent = .ok pastTop ∧
        (pastTop.debugSection .info .recorder).value =
          .ok ⟨⟨0xfffffffffffffff0⟩, ⟨0x10⟩⟩ ∧
        UInt64.size < (0xfffffffffffffff0 : UInt64).toNat + 32) ∧
      (∃ b, ofImage ⟨.zero, ⟨0xfffffffffffffff0⟩⟩ pastTop.extent = .ok b) ∧
      UInt64.size < (0xfffffffffffffff0 : UInt64).toNat + 80 ∧
      ¬RefusesSectionPastTop pastTop.extent ∧ ¬RefusesHeaderPastTop pastTop.extent := by
  have hb : ofImage pastTop.image pastTop.extent = .ok pastTop := ofImage_eq_ok_iff.2 ⟨rfl, rfl⟩
  have hr : (pastTop.debugSection .info .recorder).value =
      .ok ⟨⟨0xfffffffffffffff0⟩, ⟨0x10⟩⟩ := rfl
  have hheader : ∃ b, ofImage ⟨.zero, ⟨0xfffffffffffffff0⟩⟩ pastTop.extent = .ok b :=
    exists_ofImage_eq_ok_iff.2 (by decide)
  refine ⟨⟨hb, hr, by decide⟩, hheader, by decide, fun hrefuses => ?_, fun hrefuses => ?_⟩
  · obtain ⟨fault, hfault, -⟩ := hrefuses _ pastTop .info .recorder hb (by decide)
    rw [hfault] at hr
    cases hr
  · obtain ⟨b, hb⟩ := hheader
    obtain ⟨fault, hfault, -⟩ := hrefuses ⟨.zero, ⟨0xfffffffffffffff0⟩⟩ (by decide)
    rw [hb] at hfault
    cases hfault

end LoadedImage.BoundedImage
