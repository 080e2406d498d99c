import LoadedImage.Header.Basic

/-!
# Debug sections

Two sections of an image hold debug information. The header stores the distance and
the size of each.
-/

namespace LoadedImage

/-- The debug sections of an image. -/
inductive DebugSection where
  | info
  | abbreviations
deriving DecidableEq

namespace DebugSection

/-- Both sections. -/
def all : List DebugSection := [.info, .abbreviations]

/-- The name the section has in an object file. -/
def name : DebugSection → String
  | .info => ".debug_info"
  | .abbreviations => ".debug_abbrev"

/-- The distance of the section from the header. -/
def distance : DebugSection → Header → Int64
  | .info, h => h.debugInfo
  | .abbreviations, h => h.debugAbbrev

/-- The number of bytes in the section. -/
def size : DebugSection → Header → UInt64
  | .info, h => h.debugInfoSize
  | .abbreviations, h => h.debugAbbrevSize

end DebugSection

end LoadedImage
