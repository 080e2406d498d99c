import LoadedImage.DebugSection
import LoadedImage.Extent
import LoadedImage.Glue

/-!
# Faults

A fault is the cause for which an image, or an answer about it, is refused, with the
numbers that led to it. `Fault.report` is what the user reads: one of three kinds and
a sentence. A report can also be made of any kind and any sentence.
-/

namespace LoadedImage

/-- The causes of a refusal. -/
inductive Fault where
  /-- The data are too short to hold a header. -/
  | shortHeader (length : Nat)
  /-- The header does not lie in the extent. -/
  | headerOutside (address : Address) (extent : Extent)
  /-- The base of the image does not lie in the extent. -/
  | baseOutside (address : Address) (extent : Extent)
  /-- A piece of glue does not lie in the extent. -/
  | glueOutside (glue : Glue) (address : Address) (extent : Extent)
  /-- A debug section does not lie in the extent with all its bytes. -/
  | sectionOutside (part : DebugSection) (base : Address) (size : UInt64) (extent : Extent)
  /-- A table entry would be corrected to an address that is not in the extent. -/
  | strayEntry (index : Nat) (entry corrected : Address) (extent : Extent)
deriving DecidableEq

/-- The kinds of refusal a report tells apart. -/
inductive Report.Kind where
  | header
  | bounds
  | relocation
deriving DecidableEq

namespace Report.Kind

/-- All kinds. -/
def all : List Report.Kind := [header, bounds, relocation]

/-- The short name of the kind. -/
def label : Report.Kind → String
  | header => "ParseHeader"
  | bounds => "OutOfBounds"
  | relocation => "Relocation"

/-- The kind with the given short name. -/
def ofLabel? (label : String) : Option Report.Kind :=
  all.find? fun k => k.label = label

/-- The words a report of the kind begins with. -/
def heading : Report.Kind → String
  | header => "Crate header parsing error: "
  | bounds => "Out of bounds: "
  | relocation => "Relocation error: "

end Report.Kind

/-- What a refusal is reported as. -/
structure Report where
  kind : Report.Kind
  detail : String
deriving DecidableEq

/-- What the user reads: the heading of the kind and then the sentence. -/
def Report.text (r : Report) : String :=
  r.kind.heading ++ r.detail

namespace Fault

/-- The kind of refusal a fault is reported as. -/
def kind : Fault → Report.Kind
  | shortHeader _ => .header
  | headerOutside .. | baseOutside .. | glueOutside .. | sectionOutside .. => .bounds
  | strayEntry .. => .relocation

/-- The sentence that tells what `subject` is outside of. -/
def outside (subject : String) (extent : Extent) : String :=
  subject ++ "outside image " ++ extent.text

/-- The sentence that names the cause and its numbers. -/
def detail : Fault → String
  | shortHeader length =>
    "crate header needs " ++ Radix.decimal.write Header.byteCount ++ " bytes, got " ++
      Radix.decimal.write length
  | headerOutside address extent => outside ("crate header at " ++ address.text ++ " is ") extent
  | baseOutside address extent => outside ("image base " ++ address.text ++ " is ") extent
  | glueOutside glue address extent =>
    outside (glue.name ++ " glue at " ++ address.text ++ " is ") extent
  | sectionOutside part base size extent =>
    outside (part.name ++ " at " ++ base.text ++ " with size " ++
      Radix.hex.writeMarked size.toNat ++ " is ") extent
  | strayEntry index entry corrected extent =>
    outside ("entry " ++ Radix.decimal.write index ++ ": " ++ entry.shortText ++
      " relocates to " ++ corrected.text ++ ", ") extent

/-- The report of a fault. -/
def report (f : Fault) : Report :=
  ⟨f.kind, f.detail⟩

/-- The text of the fault's report. -/
def text (f : Fault) : String :=
  f.report.text

end Fault

end LoadedImage
