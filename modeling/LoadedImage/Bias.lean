import LoadedImage.Address
import LoadedImage.Diagnostics.Traced

/-!
# Biases and table correction

An image runs at an address other than the one it was linked at. The bias is the signed
distance between the two: it turns an address as linked into the address as loaded.
`Bias.correct` does so for a table of link-time addresses, in which null entries stand
for absent ones and stay null.
-/

namespace LoadedImage

/-- A table of addresses, null where there is none. -/
abbrev Table := List Address

/-- The signed distance from the address linked at to the address loaded at. -/
structure Bias where
  distance : Int64
deriving DecidableEq

namespace Bias

/-- The bias of something linked at one address and loaded at another. -/
def between (linked loaded : Address) : Bias :=
  ⟨loaded.distance linked⟩

/-- The bias of something loaded where it was linked. -/
def zero : Bias := ⟨0⟩

/-- The address as loaded. -/
def apply (b : Bias) (linked : Address) : Address :=
  linked.move b.distance

/-- The address as linked. -/
def revert (b : Bias) (loaded : Address) : Address :=
  loaded.move (-b.distance)

theorem revert_apply (b : Bias) (linked : Address) : b.revert (b.apply linked) = linked :=
  linked.move_move_neg b.distance

/-- Places at the same distance from the two addresses correspond. -/
theorem apply_between_move (linked loaded : Address) (d : Int64) :
    (between linked loaded).apply (linked.move d) = loaded.move d := by
  rw [apply, between, Address.move_comm, Address.move_distance]

/-! ## Tables

A table has its entries, which a correction replaces, and a place in memory, which only the
log is told. -/

/-- The corrected form of a table entry. -/
def correctEntry (b : Bias) (entry : Address) : Address :=
  if entry = .null then entry else b.apply entry

/-- The number of entries a correction touches. -/
def liveCount (table : Table) : Nat :=
  table.countP (· ≠ .null)

/-- The log entry for a correction of the table at `place`, which has `entries` entries,
`corrected` of them live. -/
def correctionEntry (b : Bias) (place : Address) (entries corrected : Nat) : LogEntry where
  level := .trace
  target := .correction
  message :=
    "[Reloc] table: " ++ place.shortText ++ ", entries: " ++ Radix.decimal.write entries ++
      ", corrected: " ++ Radix.decimal.write corrected ++ ", bias: " ++
        Address.distanceText b.distance

/-- Corrects all live entries of the table that lies at `place`; answers how many there
were and the table after. A bias of zero leaves the table alone, counts nothing and logs
nothing. -/
def correct (b : Bias) (table : Table) (place : Address) : Traced (Nat × Table) :=
  if b = .zero then pure (0, table)
  else do
    let count := liveCount table
    .log (b.correctionEntry place table.length count)
    pure (count, table.map b.correctEntry)

end Bias

end LoadedImage
