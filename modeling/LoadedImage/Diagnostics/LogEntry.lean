/-!
# Log entries

A log entry is a message under a level and a target, as it stands in the log of the
program. A log keeps entries down to a threshold and drops those that are less urgent.
-/

namespace LoadedImage

/-- How urgent a log entry is, the most urgent first. -/
inductive Level where
  | error
  | warn
  | info
  | debug
  | trace
deriving DecidableEq

namespace Level

/-- All levels, the most urgent first. -/
def all : List Level := [error, warn, info, debug, trace]

/-- The name of the level. -/
def name : Level → String
  | error => "error"
  | warn => "warn"
  | info => "info"
  | debug => "debug"
  | trace => "trace"

/-- The place of the level, counted from the most urgent. -/
def rank : Level → Nat
  | error => 1
  | warn => 2
  | info => 3
  | debug => 4
  | trace => 5

end Level

/-- The least urgent level a log keeps; `none` keeps nothing. -/
abbrev Threshold := Option Level

namespace Threshold

/-- The threshold called `off`, or the one that bears the name of its level. -/
def ofName? (name : String) : Option Threshold :=
  if name = "off" then some none else (Level.all.find? fun l => l.name = name).map some

/-- Whether a log with this threshold keeps an entry of the level. -/
def admits : Threshold → Level → Bool
  | none, _ => false
  | some least, level => level.rank ≤ least.rank

end Threshold

/-- The parts of the library and the topics that have a log target of their own. -/
inductive Target where
  | image
  | correction
  | binary
  | err
  | mem
  | dwarf
  | general
deriving DecidableEq

/-- The path by which a log is filtered. -/
def Target.path : Target → String
  | image => "crate_image::image"
  | correction => "crate_image::reloc"
  | binary => "crate_image::input::backend"
  | err => "crate_image::err"
  | mem => "crate_image::mem"
  | dwarf => "crate_image::dwarf"
  | general => "crate_image"

/-- One line of a log. -/
structure LogEntry where
  level : Level
  target : Target
  message : String
deriving DecidableEq

end LoadedImage
