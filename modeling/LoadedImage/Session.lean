import LoadedImage.Binary

/-!
# Sessions

A session holds what someone at work on an image has at hand: a header to edit, an
image with and without bounds, a region, a table, a buffer and a sink. Each command
uses or replaces some of these and has an answer. A command that is refused leaves the
session as it was, but not its log.
-/

namespace LoadedImage

/-- What is at hand; the buffer and the table are empty at first. -/
structure Session where
  header : Header := .zero
  image : Option Image := none
  bounded : Option BoundedImage := none
  region : Option Region := none
  table : Table := []
  /-- Where the table lies. -/
  place : Address := .null
  buffer : Buffer := .empty
  sink : Sink := .recorder

namespace Session

/-- What can be asked for. -/
inductive Command where
  | setHeader (header : Header)
  | setField (field : Header.Field) (word : UInt64)
  | setBuffer (buffer : Buffer)
  /-- Take a table to hand, which lies at a place. -/
  | setTable (table : Table) (place : Address)
  | setSink (sink : Sink)
  /-- Write bytes into the buffer. -/
  | poke (offset : Nat) (bytes : List UInt8)
  /-- Write the header into the buffer. -/
  | pokeHeader (offset : Nat)
  /-- Read the header from the front of the buffer. -/
  | decodeHeader
  /-- Make an image of the header. -/
  | load (address : Address)
  /-- Make an image of the header stored at an offset of the buffer. -/
  | loadAt (offset : UInt64)
  /-- Take the image out of the buffer as a binary. -/
  | openImage (name : Option String)
  | openBounded (name : Option String)
  /-- Bound the image. -/
  | bound (extent : Extent)
  /-- Take the image out of its bounds. -/
  | unbound
  | base
  | glue (glue : Glue)
  | glueTable
  | boundedBase
  | boundedGlue (glue : Glue)
  | boundedGlueTable
  | debugSection (part : DebugSection)
  | boundedDebugSection (part : DebugSection)
  | regionBytes
  | regionContains (address : Address)
  /-- Correct the table by the bias of the image. -/
  | correct
  | correctBy (bias : Bias)
  | boundedCorrect
  | apply (address : Address)
  | revert (address : Address)
  /-- Compare the bounded image with the bare one, and its header with the one at hand. -/
  | compare

/-- What a command answers. -/
inductive Answer where
  | done
  | length (length : Nat)
  | header (header : Header)
  | bias (bias : Bias)
  | image (image : Image)
  | extent (extent : Extent)
  | address (address : Address)
  | entry (entry : Glue.Entry)
  | glueTable (table : Glue.Table)
  | region (region : Region)
  | bytes (bytes : Option (List UInt8))
  | truth (truth : Bool)
  | corrected (count : Except Fault Nat) (table : Table)
  | same (images headers : Bool)

/-- Why a command is refused. -/
inductive Refusal where
  | fault (fault : Fault)
  /-- The session does not hold what the command needs. -/
  | missing

/-- A command at work: it changes the session, may be refused and leaves a trace. -/
abbrev Action := StateT Session (ExceptT Refusal Traced)

namespace Action

/-- A traced answer as part of an action. -/
def trace {α : Type} (t : Traced α) : Action α :=
  StateT.lift (ExceptT.lift t)

/-- An answer that may be a fault. -/
def accept {α : Type} : Except Fault α → Action α
  | .ok a => pure a
  | .error f => throw (.fault f)

/-- Something that must be at hand. -/
def require {α : Type} : Option α → Action α
  | some a => pure a
  | none => throw .missing

/-- The image at hand. -/
def image : Action Image := do require (← get).image

/-- The bounded image at hand. -/
def bounded : Action BoundedImage := do require (← get).bounded

/-- The region at hand. -/
def region : Action Region := do require (← get).region

/-- The buffer at hand as a binary. -/
def binary (name : Option String) : Action Binary := do
  return .ofBuffer (← get).buffer name

/-- Puts an image in place of the one at hand. -/
def putImage (image : Image) : Action Answer := do
  modify fun s => { s with image := some image }
  return .image image

/-- Puts a bounded image in place of the one at hand. -/
def putBounded (bounded : BoundedImage) : Action Answer := do
  modify fun s => { s with bounded := some bounded }
  return .extent bounded.extent

/-- Puts a region in place of the one at hand. -/
def putRegion (region : Region) : Action Answer := do
  modify fun s => { s with region := some region }
  return .region region

/-- Writes bytes over the buffer at hand. -/
def overwrite (offset : Nat) (bytes : List UInt8) : Action Answer := do
  let buffer ← require ((← get).buffer.overwrite? offset bytes)
  modify fun s => { s with buffer := buffer }
  return .done

/-- Corrects the table at hand. -/
def correct (bias : Bias) : Action Answer := do
  let s ← get
  let (count, table) ← trace (bias.correct s.table s.place)
  modify fun s => { s with table := table }
  return .corrected (.ok count) table

/-- What a command does. -/
def perform : Command → Action Answer
  | .setHeader header => do
    modify fun s => { s with header := header }
    return .done
  | .setField field word => do
    modify fun s => { s with header := s.header.setWord field word }
    return .done
  | .setBuffer buffer => do
    modify fun s => { s with buffer := buffer }
    return .length buffer.bytes.length
  | .setTable table place => do
    modify fun s => { s with table := table, place := place }
    return .done
  | .setSink sink => do
    modify fun s => { s with sink := sink }
    return .done
  | .poke offset bytes => overwrite offset bytes
  | .pokeHeader offset => do overwrite offset (← get).header.encode
  | .decodeHeader => do
    let header ← accept (Header.decode (← get).buffer.bytes)
    modify fun s => { s with header := header }
    return .header header
  | .load address => do
    let image ← trace (Image.load (← get).header address)
    modify fun s => { s with image := some image }
    return .bias image.bias
  | .loadAt offset => do
    let buffer := (← get).buffer
    putImage (← trace (← require (buffer.imageAt? (buffer.start.advance offset))))
  | .openImage name => do putImage (← accept (← trace (← binary name).image))
  | .openBounded name => do putBounded (← accept (← trace (← binary name).bounded))
  | .bound extent => do putBounded (← accept (BoundedImage.ofImage (← image) extent))
  | .unbound => do
    let image := (← bounded).image
    modify fun s => { s with image := some image }
    return .address image.address
  | .base => return .address (← image).base
  | .glue glue => return .entry ((← image).glue glue)
  | .glueTable => return .glueTable (← image).glueTable
  | .boundedBase => return .address (← accept (← bounded).base)
  | .boundedGlue glue => return .entry (← accept ((← bounded).glue glue))
  | .boundedGlueTable => return .glueTable (← accept (← bounded).glueTable)
  | .debugSection part => do
    putRegion (← trace ((← image).debugSection part (← get).sink))
  | .boundedDebugSection part => do
    putRegion (← accept (← trace ((← bounded).debugSection part (← get).sink)))
  | .regionBytes => return .bytes ((← get).buffer.read? (← region))
  | .regionContains address => return .truth (address ∈ (← region))
  | .correct => do correct (← image).bias
  | .correctBy bias => correct bias
  | .boundedCorrect => do
    let s ← get
    let (count, table) ← trace ((← bounded).correct s.table s.place)
    modify fun s => { s with table := table }
    return .corrected count table
  | .apply address => return .address ((← image).bias.apply address)
  | .revert address => return .address ((← image).bias.revert address)
  | .compare => do
    let bounded ← bounded
    return .same (bounded.image = (← image)) (bounded.image.header = (← get).header)

end Action

/-- The answer to a command, or why it is refused, and the session after. -/
def run (s : Session) (c : Command) : Traced (Except Refusal Answer × Session) :=
  (fun
    | .ok (answer, after) => (.ok answer, after)
    | .error refusal => (.error refusal, s)) <$> (Action.perform c |>.run s |>.run)

end Session

end LoadedImage
