import LoadedImage.Header.Codec
import LoadedImage.Region

/-!
# Buffers

A buffer is a block of bytes at an address. It answers the bytes of a region that lies
in it, and parts of it can be overwritten.
-/

namespace LoadedImage

/-- Bytes in memory. -/
structure Buffer where
  start : Address
  bytes : List UInt8
deriving DecidableEq

namespace Buffer

/-- The buffer without bytes at the null address. -/
def empty : Buffer := ⟨.null, []⟩

/-- The whole buffer as an extent. -/
def extent (b : Buffer) : Extent :=
  ⟨b.start, UInt64.ofNat b.bytes.length⟩

/-- The bytes of a region: none for an empty one wherever it is, else those of the
buffer, if the region lies in it. -/
def read? (b : Buffer) (r : Region) : Option (List UInt8) :=
  let first := r.base.word.toNat - b.start.word.toNat
  if r.isEmpty then some []
  else if b.start ≤ r.base ∧ r.base ≤ r.limit ∧ first + r.length.toNat ≤ b.bytes.length then
    some ((b.bytes.drop first).take r.length.toNat)
  else none

/-- The buffer with `bytes` written over it from an offset on, if they fit. -/
def overwrite? (b : Buffer) (offset : Nat) (bytes : List UInt8) : Option Buffer :=
  if offset + bytes.length ≤ b.bytes.length then
    some { b with
      bytes := b.bytes.take offset ++ bytes ++ b.bytes.drop (offset + bytes.length) }
  else none

/-- The header that is stored at an address of the buffer. -/
def headerAt? (b : Buffer) (a : Address) : Option Header :=
  if b.extent.Covers a Header.storedSize then
    (Header.decode (b.bytes.drop (b.extent.depth a).toNat)).toOption
  else none

end Buffer

end LoadedImage
