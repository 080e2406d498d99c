import LoadedImage.Fault
import LoadedImage.Image

/-!
# Bounded images

A bounded image knows the extent of memory it occupies, and its header lies in that
extent. It answers what the bare image answers, but refuses an answer that leads out of
the extent: with a fault that names the numbers, without a record and without touching
a table.
-/

namespace LoadedImage

/-- An image with its extent. -/
structure BoundedImage where
  image : Image
  extent : Extent
  header_covered : extent.Covers image.address Header.storedSize
deriving DecidableEq

namespace BoundedImage

/-- Bounds an image by an extent its header lies in. -/
def ofImage (image : Image) (extent : Extent) : Except Fault BoundedImage :=
  if h : extent.Covers image.address Header.storedSize then .ok ⟨image, extent, h⟩
  else .error (.headerOutside image.address extent)

/-! ## What bounds cannot refuse -/

/-- The header of the image. -/
def header (b : BoundedImage) : Header := b.image.header

/-- The address the header was loaded at. -/
def address (b : BoundedImage) : Address := b.image.address

/-- The address the image was linked at. -/
def linkAddress (b : BoundedImage) : Address := b.image.linkAddress

/-- The distance by which the image has moved since it was linked. -/
def drift (b : BoundedImage) : Int64 := b.image.drift

/-- The drift as a bias. -/
def bias (b : BoundedImage) : Bias := b.image.bias

/-! ## Checked answers -/

/-- The base of the image, if it lies in the extent. -/
def base (b : BoundedImage) : Except Fault Address :=
  let base := b.image.base
  if base ∈ b.extent then .ok base else .error (.baseOutside base b.extent)

/-- A piece of glue at its address, if that lies in the extent. -/
def glue (b : BoundedImage) (g : Glue) : Except Fault Glue.Entry :=
  let entry := b.image.glue g
  if entry.address ∈ b.extent then .ok entry
  else .error (.glueOutside g entry.address b.extent)

/-- The glue table, or the fault of the first piece of glue that is outside. -/
def glueTable (b : BoundedImage) : Except Fault Glue.Table := do
  forM Glue.all fun g => discard (b.glue g)
  return b.image.glueTable

/-- The glue that activates the image, if it lies in the extent. -/
def activateGlue (b : BoundedImage) : Except Fault Glue.Entry := b.glue .activate

/-- The glue that ends the main task, if it lies in the extent. -/
def mainExitTaskGlue (b : BoundedImage) : Except Fault Glue.Entry := b.glue .mainExitTask

/-- The glue that unwinds, if it lies in the extent. -/
def unwindGlue (b : BoundedImage) : Except Fault Glue.Entry := b.glue .unwind

/-- The glue that yields, if it lies in the extent. -/
def yieldGlue (b : BoundedImage) : Except Fault Glue.Entry := b.glue .yield

/-- The region of a debug section, reported to the sink if it lies in the extent. -/
def debugSection (b : BoundedImage) (s : DebugSection) (sink : Sink) :
    Traced (Except Fault Region) :=
  let base := b.image.sectionBase s
  let size := s.size b.image.header
  if b.extent.Covers base size then .ok <$> Region.create sink base size
  else pure (.error (.sectionOutside s base size b.extent))

/-- The region of the debug information, if it lies in the extent. -/
def debugInfo (b : BoundedImage) (sink : Sink) : Traced (Except Fault Region) :=
  b.debugSection .info sink

/-- The region of the debug abbreviations, if it lies in the extent. -/
def debugAbbreviations (b : BoundedImage) (sink : Sink) : Traced (Except Fault Region) :=
  b.debugSection .abbreviations sink

/-! ## Tables -/

/-- A live table entry is stray if it would be corrected to an address outside the
extent. -/
def IsStray (b : BoundedImage) (entry : Address) : Prop :=
  entry ≠ .null ∧ b.image.bias.apply entry ∉ b.extent

instance (b : BoundedImage) (entry : Address) : Decidable (b.IsStray entry) :=
  inferInstanceAs (Decidable (entry ≠ .null ∧ b.image.bias.apply entry ∉ b.extent))

/-- The first stray entry with its index. -/
def firstStray? (b : BoundedImage) (table : Table) : Option (Address × Nat) :=
  table.zipIdx.find? fun p => b.IsStray p.1

/-- Corrects the table that lies at `place` by the bias of the image, or refuses it as a
whole for its first stray entry; answers the outcome and the table after. -/
def correct (b : BoundedImage) (table : Table) (place : Address) :
    Traced (Except Fault Nat × Table) :=
  match b.firstStray? table with
  | some (entry, index) =>
    pure (.error (.strayEntry index entry (b.image.bias.apply entry) b.extent), table)
  | none => (fun p => (.ok p.1, p.2)) <$> b.image.bias.correct table place

end BoundedImage

end LoadedImage
