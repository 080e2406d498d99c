import LoadedImage.Address
import LoadedImage.Diagnostics.Sink

/-!
# Regions

A region is a stretch of memory with an inclusive base and an exclusive limit, handed
out to be read. It is made from a base and a size, and each region made is reported to
the caller's sink. If the size leads past the top of the address space, the limit has
wrapped: the region keeps its length (`Region.length_ofSize`) and has no address in it.
-/

namespace LoadedImage

/-- The bytes from `base` up to but not including `limit`. -/
structure Region where
  base : Address
  limit : Address
deriving DecidableEq

namespace Region

/-- The region of `size` bytes from `base` on. -/
def ofSize (base : Address) (size : UInt64) : Region :=
  ⟨base, base.advance size⟩

/-- The number of bytes, counted around the top if the limit has wrapped. -/
def length (r : Region) : UInt64 :=
  r.limit.word - r.base.word

/-- Whether base and limit are the same. -/
def isEmpty (r : Region) : Bool :=
  r.base = r.limit

/-- An address is in the region from the base up to but not including the limit. -/
instance : Membership Address Region :=
  ⟨fun r a => r.base ≤ a ∧ a < r.limit⟩

instance (r : Region) (a : Address) : Decidable (a ∈ r) :=
  inferInstanceAs (Decidable (r.base ≤ a ∧ a < r.limit))

/-- The record by which a new region is reported. -/
def record (r : Region) : Record where
  category := .single .mem
  message := "new mem_area [" ++ r.base.text ++ "," ++ r.limit.text ++ "]"

/-- Makes the region of `size` bytes from `base` on and reports it. -/
def create (sink : Sink) (base : Address) (size : UInt64) : Traced Region := do
  let r := ofSize base size
  sink.send r.record
  pure r

theorem mem_iff {r : Region} {a : Address} : a ∈ r ↔ r.base ≤ a ∧ a < r.limit := Iff.rfl

@[simp]
theorem length_ofSize (base : Address) (size : UInt64) : (ofSize base size).length = size :=
  base.word_advance_sub_word size

@[simp]
theorem value_create (sink : Sink) (base : Address) (size : UInt64) :
    (create sink base size).value = ofSize base size := rfl

end Region

end LoadedImage
