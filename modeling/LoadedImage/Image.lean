import LoadedImage.Bias
import LoadedImage.DebugSection
import LoadedImage.Glue
import LoadedImage.Region

/-!
# Images

An image is a header and the address the header was loaded at. Every part of the image
is found by moving from that address by a distance of the header. Nothing is checked
here: the answers are as good as the header.
-/

namespace LoadedImage

/-- A header at the address it was loaded at. -/
structure Image where
  header : Header
  address : Address
deriving DecidableEq

namespace Image

/-- The address the image was linked at. -/
def linkAddress (i : Image) : Address :=
  i.header.linkAddress

/-- The place a signed distance from the header. -/
def locate (i : Image) (distance : Int64) : Address :=
  i.address.move distance

/-- The address from which the image counts its own offsets. -/
def base (i : Image) : Address :=
  i.locate i.header.imageBase

/-- The distance by which the image has moved since it was linked. -/
def drift (i : Image) : Int64 :=
  i.address.distance i.linkAddress

/-- The drift as a bias. -/
def bias (i : Image) : Bias :=
  ⟨i.drift⟩

/-- The bias is that between the image as linked and the image as loaded. -/
theorem bias_eq_between (i : Image) : i.bias = .between i.linkAddress i.address := rfl

/-- A piece of glue at its address. -/
def glue (i : Image) (g : Glue) : Glue.Entry :=
  ⟨g, i.locate (g.distance i.header)⟩

/-- All glue at its addresses. -/
def glueTable (i : Image) : Glue.Table :=
  .ofFn i.glue

/-- The glue that activates the image. -/
def activateGlue (i : Image) : Glue.Entry := i.glue .activate

/-- The glue that ends the main task. -/
def mainExitTaskGlue (i : Image) : Glue.Entry := i.glue .mainExitTask

/-- The glue that unwinds. -/
def unwindGlue (i : Image) : Glue.Entry := i.glue .unwind

/-- The glue that yields. -/
def yieldGlue (i : Image) : Glue.Entry := i.glue .yield

/-- The base of a debug section. -/
def sectionBase (i : Image) (s : DebugSection) : Address :=
  i.locate (s.distance i.header)

/-- The region of a debug section, reported to the sink. -/
def debugSection (i : Image) (s : DebugSection) (sink : Sink) : Traced Region :=
  Region.create sink (i.sectionBase s) (s.size i.header)

/-- The region of the debug information. -/
def debugInfo (i : Image) (sink : Sink) : Traced Region := i.debugSection .info sink

/-- The region of the debug abbreviations. -/
def debugAbbreviations (i : Image) (sink : Sink) : Traced Region :=
  i.debugSection .abbreviations sink

/-- The log entry for the image of a header at an address. It is written before there is an
image to ask, so the distance is taken here. -/
def loadEntry (header : Header) (address : Address) : LogEntry where
  level := .debug
  target := .image
  message :=
    "[Crate] header: " ++ address.text ++ ", self_addr: " ++ header.linkAddress.shortText ++
      ", relocation diff: " ++ Address.distanceText (address.distance header.linkAddress)

/-- The image of a header at an address, noted in the log. -/
def load (header : Header) (address : Address) : Traced Image := do
  .log (loadEntry header address)
  pure ⟨header, address⟩

end Image

end LoadedImage
