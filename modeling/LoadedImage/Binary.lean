import LoadedImage.BoundedImage
import LoadedImage.Buffer

/-!
# Binaries

A binary is a buffer that holds an image, under the name of the file it came from. The
image's header stands at the front of the buffer, and the extent of the image is the
whole buffer.
-/

namespace LoadedImage

/-- The image whose header is stored at an address of the buffer. -/
def Buffer.imageAt? (b : Buffer) (a : Address) : Option (Traced Image) :=
  (b.headerAt? a).map fun header => Image.load header a

/-- A named buffer with an image in it. -/
structure Binary where
  name : String
  buffer : Buffer
deriving DecidableEq

namespace Binary

/-- A binary with a buffer; one that came from no file is named for the memory. -/
def ofBuffer (buffer : Buffer) (name : Option String := none) : Binary :=
  ⟨name.getD "<memory>", buffer⟩

/-- The part of the name behind its last slash. -/
def shortName (b : Binary) : String :=
  String.ofList (b.name.toList.reverse.takeWhile (· ≠ '/')).reverse

/-- The header at the front of the buffer. -/
def header (b : Binary) : Except Fault Header :=
  Header.decode b.buffer.bytes

/-- The log entry for an image found in the binary. -/
def loadEntry (b : Binary) : LogEntry where
  level := .debug
  target := .binary
  message :=
    "[Load] " ++ b.shortName ++ ": header at " ++ b.buffer.start.text ++ ", length: " ++
      Radix.decimal.write b.buffer.bytes.length

/-- The image in the binary. -/
def image (b : Binary) : Traced (Except Fault Image) :=
  match b.header with
  | .error fault => pure (.error fault)
  | .ok header => do
    .log b.loadEntry
    .ok <$> Image.load header b.buffer.start

/-- The image in the binary, bounded by the buffer. -/
def bounded (b : Binary) : Traced (Except Fault BoundedImage) :=
  (fun image => image.bind fun i => BoundedImage.ofImage i b.buffer.extent) <$> b.image

end Binary

end LoadedImage
