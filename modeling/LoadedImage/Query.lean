import LoadedImage.BoundedImage

/-!
# Queries

Everything that can be asked of an image, bare or bounded, as data. `Image.ask` and
`BoundedImage.ask` give a query to the operation it names, and their answers are of one type:
an answer of a bounded image that is refused is one of its answers. Two images, two sinks or
two runs can so be compared on all queries at once.
-/

namespace LoadedImage

/-- What can be asked of an image. -/
inductive Query where
  | address
  | linkAddress
  | drift
  | bias
  | base
  | glue (g : Glue)
  | glueTable
  | activateGlue
  | mainExitTaskGlue
  | unwindGlue
  | yieldGlue
  | debugSection (s : DebugSection)
  | debugInfo
  | debugAbbreviations
  /-- Correct a table, which lies at a place, by the bias of the image. -/
  | correct (table : Table) (place : Address)

/-- What a query is answered with. -/
inductive Answer where
  | address (a : Address)
  | distance (d : Int64)
  | bias (b : Bias)
  | entry (entry : Glue.Entry)
  | glueTable (t : Glue.Table)
  | region (r : Region)
  /-- The outcome of a correction and the table after. -/
  | corrected (outcome : Except Fault Nat) (after : Table)
  | refused (fault : Fault)

namespace Answer

/-- The answer that is given if nothing is refused. -/
def ofExcept {α : Type} (give : α → Answer) : Except Fault α → Answer
  | .ok a => give a
  | .error fault => refused fault

/-- The region that is handed out by the answer. -/
def region? : Answer → Option Region
  | region r => some r
  | _ => none

end Answer

/-- The answer of a bare image. Nothing is refused. -/
def Image.ask (i : Image) (sink : Sink) : Query → Traced Answer
  | .address => pure (.address i.address)
  | .linkAddress => pure (.address i.linkAddress)
  | .drift => pure (.distance i.drift)
  | .bias => pure (.bias i.bias)
  | .base => pure (.address i.base)
  | .glue g => pure (.entry (i.glue g))
  | .glueTable => pure (.glueTable i.glueTable)
  | .activateGlue => pure (.entry i.activateGlue)
  | .mainExitTaskGlue => pure (.entry i.mainExitTaskGlue)
  | .unwindGlue => pure (.entry i.unwindGlue)
  | .yieldGlue => pure (.entry i.yieldGlue)
  | .debugSection s => .region <$> i.debugSection s sink
  | .debugInfo => .region <$> i.debugInfo sink
  | .debugAbbreviations => .region <$> i.debugAbbreviations sink
  | .correct table place => (fun p => .corrected (.ok p.1) p.2) <$> i.bias.correct table place

/-- The answer of a bounded image. -/
def BoundedImage.ask (b : BoundedImage) (sink : Sink) : Query → Traced Answer
  | .address => pure (.address b.address)
  | .linkAddress => pure (.address b.linkAddress)
  | .drift => pure (.distance b.drift)
  | .bias => pure (.bias b.bias)
  | .base => pure (.ofExcept .address b.base)
  | .glue g => pure (.ofExcept .entry (b.glue g))
  | .glueTable => pure (.ofExcept .glueTable b.glueTable)
  | .activateGlue => pure (.ofExcept .entry b.activateGlue)
  | .mainExitTaskGlue => pure (.ofExcept .entry b.mainExitTaskGlue)
  | .unwindGlue => pure (.ofExcept .entry b.unwindGlue)
  | .yieldGlue => pure (.ofExcept .entry b.yieldGlue)
  | .debugSection s => .ofExcept .region <$> b.debugSection s sink
  | .debugInfo => .ofExcept .region <$> b.debugInfo sink
  | .debugAbbreviations => .ofExcept .region <$> b.debugAbbreviations sink
  | .correct table place => (fun p => .corrected p.1 p.2) <$> b.correct table place

end LoadedImage
