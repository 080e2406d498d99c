import LoadedImage.Address

/-!
# Extents

An extent is the stretch of memory an image occupies: a start and a length. Membership
is decided by the distance from the start, so that an extent that ends at the top of
the address space keeps its last byte. `a ∈ e` asks for one byte and `e.Covers base
size` for a whole span, which may be empty and may then stand right behind the last
byte. Both agree with the interval of natural numbers that the extent spans
(`Extent.mem_iff_toNat`, `Extent.covers_iff_toNat`).
-/

namespace LoadedImage

/-- The bytes from `start` on, `length` of them. -/
structure Extent where
  start : Address
  length : UInt64
deriving DecidableEq

namespace Extent

variable {e : Extent} {a base : Address} {size : UInt64}

/-- The address behind the last byte, or the last address if there is none behind. -/
def stop (e : Extent) : Address :=
  e.start.advanceToTop e.length

/-- Whether the extent has no bytes. -/
def isEmpty (e : Extent) : Bool :=
  e.length = 0

/-- The extent as a half-open interval. -/
def text (e : Extent) : String :=
  "[" ++ e.start.text ++ "," ++ e.stop.text ++ ")"

/-- The distance of `a` from the start. It has wrapped if `a` lies below the start. -/
def depth (e : Extent) (a : Address) : UInt64 :=
  a.word - e.start.word

/-- An address is in the extent if it lies no lower than the start and not as far on from
it as the length. -/
instance : Membership Address Extent :=
  ⟨fun e a => e.start ≤ a ∧ e.depth a < e.length⟩

instance (e : Extent) (a : Address) : Decidable (a ∈ e) :=
  inferInstanceAs (Decidable (e.start ≤ a ∧ e.depth a < e.length))

/-- The `size` bytes from `base` on lie in the extent. The room behind `base` is compared
with the size, so no sum can wrap. -/
def Covers (e : Extent) (base : Address) (size : UInt64) : Prop :=
  e.start ≤ base ∧ e.depth base ≤ e.length ∧ size ≤ e.length - e.depth base

instance (e : Extent) (base : Address) (size : UInt64) : Decidable (e.Covers base size) :=
  inferInstanceAs
    (Decidable (e.start ≤ base ∧ e.depth base ≤ e.length ∧ size ≤ e.length - e.depth base))

theorem toNat_stop (e : Extent) :
    e.stop.word.toNat = min (e.start.word.toNat + e.length.toNat) (UInt64.size - 1) :=
  e.start.toNat_advanceToTop e.length

theorem toNat_depth (h : e.start ≤ a) :
    (e.depth a).toNat = a.word.toNat - e.start.word.toNat :=
  UInt64.toNat_sub_of_le _ _ h

theorem mem_iff_toNat : a ∈ e ↔ e.start.word.toNat ≤ a.word.toNat ∧
    a.word.toNat < e.start.word.toNat + e.length.toNat := by
  change e.start ≤ a ∧ e.depth a < e.length ↔ _
  rw [← Address.le_iff_toNat]
  refine and_congr_right fun h => ?_
  rw [UInt64.lt_iff_toNat_lt, toNat_depth h]
  rw [Address.le_iff_toNat] at h
  omega

/-- The null address lies in an extent only as its first byte. -/
theorem null_not_mem (h : e.start ≠ .null) : .null ∉ e := by
  intro hmem
  have hle := Address.le_iff_toNat.1 hmem.1
  have hzero : e.start.word.toNat = (0 : UInt64).toNat := Nat.le_zero.1 hle
  exact h (congrArg Address.mk (UInt64.toNat_inj.1 hzero))

theorem covers_iff_toNat : e.Covers base size ↔ e.start.word.toNat ≤ base.word.toNat ∧
    base.word.toNat + size.toNat ≤ e.start.word.toNat + e.length.toNat := by
  unfold Covers
  rw [← Address.le_iff_toNat]
  refine and_congr_right fun h => ?_
  have hd := toNat_depth h
  rw [Address.le_iff_toNat] at h
  constructor
  · rintro ⟨hl, hs⟩
    rw [UInt64.le_iff_toNat_le, UInt64.toNat_sub_of_le _ _ hl] at hs
    rw [UInt64.le_iff_toNat_le] at hl
    omega
  · intro hs
    have hl : e.depth base ≤ e.length := by
      rw [UInt64.le_iff_toNat_le]
      omega
    refine ⟨hl, ?_⟩
    rw [UInt64.le_iff_toNat_le, UInt64.toNat_sub_of_le _ _ hl]
    omega

/-- A byte is a span of size one. -/
theorem mem_iff_covers_one : a ∈ e ↔ e.Covers a 1 := by
  rw [mem_iff_toNat, covers_iff_toNat]
  rfl

end Extent

end LoadedImage
