import LoadedImage.Binary
import LoadedImage.Text.Outline

/-!
# Descriptions

The outline of each type of the library, as it is shown to someone who debugs a loader.
Addresses and categories have a text of their own that no style of number changes.
-/

namespace LoadedImage

/-- A record type with named fields. -/
def Outline.record (name : String) (fields : List (String × Outline)) : Outline :=
  .group name .curly (fields.map fun f => .field f.1 f.2)

/-- A type that wraps one value. -/
def Outline.wrapper (name : String) (content : Outline) : Outline :=
  .group name .round [content]

/-- An address is shown by its shorter text, whatever the style. -/
def Address.outline (a : Address) : Outline :=
  .word ("Address(" ++ a.shortText ++ ")")

/-- A header is shown field by field. -/
def Header.outline (h : Header) : Outline :=
  .record "CrateHeader" (Field.all.map fun f =>
    (f.label, .number (h.value f) (h.word f).toNat))

/-- An extent is shown by its start and its length. -/
def Extent.outline (e : Extent) : Outline :=
  .record "MemoryExtent"
    [("start", e.start.outline), ("len", .unsigned e.length.toNat)]

/-- A region is shown by its ends. -/
def Region.outline (r : Region) : Outline :=
  .record "MemoryRegion" [("base", r.base.outline), ("limit", r.limit.outline)]

/-- A bias is shown as its distance. -/
def Bias.outline (b : Bias) : Outline :=
  .wrapper "RelocationBias" (.signed b.distance)

/-- Glue is shown by its name in one word. -/
def Glue.outline : Glue → Outline
  | activate => .word "Activate"
  | mainExitTask => .word "MainExitTask"
  | unwind => .word "Unwind"
  | yield => .word "Yield"

/-- An entry is shown by its glue and its address. -/
def Glue.Entry.outline (e : Glue.Entry) : Outline :=
  .record "GlueEntry" [("glue", e.glue.outline), ("addr", e.address.outline)]

/-- A table is shown as the list of its entries. -/
def Glue.Table.outline (t : Glue.Table) : Outline :=
  .record "GlueTable" [("entries", .group "" .square (t.toList.map Entry.outline))]

/-- A section is shown by a short name. -/
def DebugSection.outline : DebugSection → Outline
  | .info => .word "Info"
  | .abbreviations => .word "Abbrev"

/-- An image is shown by its header and its address. -/
def Image.outline (i : Image) : Outline :=
  .record "CrateImage" [("header", i.header.outline), ("addr", i.address.outline)]

/-- A bounded image is shown by its image and its extent. -/
def BoundedImage.outline (b : BoundedImage) : Outline :=
  .record "CheckedCrateImage" [("image", b.image.outline), ("extent", b.extent.outline)]

/-- A report is shown by its kind and its sentence in quotes. -/
def Report.outline (r : Report) : Outline :=
  .record r.kind.label [("msg", .quoted r.detail)]

/-- The outcome of something that can be refused. -/
def Fault.outcomeOutline {α : Type} (outline : α → Outline) : Except Fault α → Outline
  | .ok a => .wrapper "Ok" (outline a)
  | .error f => .wrapper "Err" f.report.outline

/-- A category is shown by its text. -/
def Category.outline (c : Category) : Outline :=
  .wrapper "LogCategory" (.word c.text)

/-- A sink is shown with all filters in front of it. -/
def Sink.outline : Sink → Outline
  | recorder => .word "Recorder"
  | log => .word "LogDomain"
  | discard => .word "NullDomain"
  | filtered inner mask =>
    .record "FilterDomain" [("inner", inner.outline), ("mask", mask.outline)]

/-- A binary is shown by its name in quotes and its bytes. -/
def Binary.outline (b : Binary) : Outline :=
  .record "CrateBinary"
    [("name", .quoted b.name),
     ("bytes", .group "" .square (b.buffer.bytes.map fun byte => .unsigned byte.toNat))]

end LoadedImage
