import LoadedImage.Diagnostics.Category
import LoadedImage.Diagnostics.LogEntry

/-!
# Records

A record is a message under a category, as a part of the library sends it to the sink
of its caller. `Record.entry` is what becomes of it in the log of the program: the
category decides on the level and on the target.
-/

namespace LoadedImage

/-- A message about some topics. -/
structure Record where
  category : Category
  message : String
deriving DecidableEq

namespace Record

/-- The topics that are written about in bulk. -/
def bulk : Category :=
  ((Category.single .mem).union (.single .trace)).union (.single .dwarf)

/-- Errors come first, and what is written in bulk last. -/
def level (r : Record) : Level :=
  if .err ∈ r.category then .error
  else if r.category.Meets bulk then .trace
  else .debug

/-- The target of the topic that names the category. -/
def target (r : Record) : Target :=
  match r.category.lowest? with
  | some .mem => .mem
  | some .dwarf => .dwarf
  | some .err => .err
  | _ => .general

/-- The record as a log entry. Under the general target the message begins with the
name of the category in square brackets. -/
def entry (r : Record) : LogEntry where
  level := r.level
  target := r.target
  message :=
    if r.target = .general then "[" ++ r.category.name ++ "] " ++ r.message else r.message

end Record

end LoadedImage
