import LoadedImage.Text.NumberFormat

/-!
# Categories

A category is a set of topics, kept as 32 bits; twelve of the bits have a topic and the
others are kept as they are. `Category.name` is the name of the lowest topic in the set.

Topics, their names and the name of a set belong to this library. The operations and tests
on sets are those of the flag-set package it imports, and are assumed to do what the package
documents, which is to act on the word bit by bit. `union`, `inter`, `symmDiff` and `diff` are
the bitwise or, and, exclusive or, and the and with the complement, and `set` is `union` or
`diff`. A set contains another one (`⊆`, and `∈` for a single topic) if their intersection is
the whole of that one, and it intersects another one (`Meets`) if the intersection is not
empty. All of these keep and count bits without a topic. `compl` and `truncate` alone answer
topics only, and `ofBits?` refuses a word that has other bits. To list a set (`topics`,
`parts`, `text`) is to go through the topics from the lowest one on, and to give what is left
as one number.
-/

namespace LoadedImage

/-- What a diagnostic can be about. -/
inductive Topic where
  | err
  | mem
  | comm
  | task
  | dom
  | ulog
  | trace
  | dwarf
  | link
  | upcall
  | rt
  | cache
deriving DecidableEq

namespace Topic

/-- All topics, the one of the lowest bit first. -/
def all : List Topic :=
  [err, mem, comm, task, dom, ulog, trace, dwarf, link, upcall, rt, cache]

/-- The position of the topic's bit. -/
def index : Topic → Nat
  | err => 0
  | mem => 1
  | comm => 2
  | task => 3
  | dom => 4
  | ulog => 5
  | trace => 6
  | dwarf => 7
  | link => 8
  | upcall => 9
  | rt => 10
  | cache => 11

/-- The name of the topic, as it stands in messages. -/
def name : Topic → String
  | err => "err"
  | mem => "mem"
  | comm => "comm"
  | task => "task"
  | dom => "dom"
  | ulog => "ulog"
  | trace => "trace"
  | dwarf => "dwarf"
  | link => "link"
  | upcall => "upcall"
  | rt => "rt"
  | cache => "cache"

/-- The name in capital letters, by which the topic is listed in a set. -/
def label : Topic → String
  | err => "ERR"
  | mem => "MEM"
  | comm => "COMM"
  | task => "TASK"
  | dom => "DOM"
  | ulog => "ULOG"
  | trace => "TRACE"
  | dwarf => "DWARF"
  | link => "LINK"
  | upcall => "UPCALL"
  | rt => "RT"
  | cache => "CACHE"

/-- The topic with the given label. -/
def ofLabel? (label : String) : Option Topic :=
  all.find? fun t => t.label = label

/-- The bit of the topic. -/
def bit (t : Topic) : UInt32 :=
  UInt32.ofNat (1 <<< t.index)

theorem mem_all (t : Topic) : t ∈ all := by
  cases t <;> decide

end Topic

/-- A set of topics, with room for bits that have none. -/
structure Category where
  bits : UInt32
deriving DecidableEq

namespace Category

/-- The category without bits. -/
def empty : Category := ⟨0⟩

/-- The category of one topic. -/
def single (t : Topic) : Category := ⟨t.bit⟩

/-! ## Set operations -/

/-- The bits of either category. -/
def union (c d : Category) : Category := ⟨c.bits ||| d.bits⟩

/-- The bits of both categories. -/
def inter (c d : Category) : Category := ⟨c.bits &&& d.bits⟩

/-- The bits of one category and not the other. -/
def symmDiff (c d : Category) : Category := ⟨c.bits ^^^ d.bits⟩

/-- What is in `c` and not in `d`. -/
def diff (c d : Category) : Category := ⟨c.bits &&& ~~~d.bits⟩

/-- The union of a list of categories. -/
def unionAll (cs : List Category) : Category :=
  cs.foldl union empty

/-- All twelve topics. -/
def all : Category := unionAll (Topic.all.map single)

/-- The category without the bits that have no topic. -/
def truncate (c : Category) : Category := c.inter all

/-- The topics that are not in the category. -/
def compl (c : Category) : Category := all.diff c

/-- The category with `d` put in or taken out. -/
def set (c d : Category) (present : Bool) : Category :=
  if present then c.union d else c.diff d

/-! ## Tests -/

/-- Whether no bit is set. -/
def isEmpty (c : Category) : Bool := c = empty

/-- One category is part of another if each of its bits is in the other. -/
instance : HasSubset Category := ⟨fun d c => c.inter d = d⟩

instance (c d : Category) : Decidable (d ⊆ c) :=
  inferInstanceAs (Decidable (c.inter d = d))

/-- A topic is in a category if its bit is. -/
instance : Membership Topic Category := ⟨fun c t => single t ⊆ c⟩

instance (c : Category) (t : Topic) : Decidable (t ∈ c) :=
  inferInstanceAs (Decidable (single t ⊆ c))

/-- The categories have a bit in common. -/
def Meets (c d : Category) : Prop := c.inter d ≠ empty

instance (c d : Category) : Decidable (c.Meets d) :=
  inferInstanceAs (Decidable (c.inter d ≠ empty))

/-- The category of a bit pattern in which only topics are set. -/
def ofBits? (bits : UInt32) : Option Category :=
  let c : Category := ⟨bits⟩
  if c.truncate = c then some c else none

/-! ## Listing -/

/-- The topics in the set, the lowest first. -/
def topics (c : Category) : List Topic :=
  Topic.all.filter (· ∈ c)

/-- The bits of the category that have no topic. -/
def rest (c : Category) : Category := c.diff all

/-- One category for each topic in the set, then the bits without a topic, if any. -/
def parts (c : Category) : List Category :=
  c.topics.map single ++ if c.rest.isEmpty then [] else [c.rest]

/-- The lowest topic in the set. -/
def lowest? (c : Category) : Option Topic :=
  Topic.all.find? (· ∈ c)

/-- The name of the lowest topic in the set. -/
def name (c : Category) : String :=
  (c.lowest?.map Topic.name).getD "none"

/-- The labels of the topics and then the remaining bits as a number, with bars between.
The empty category is written as the number zero. -/
def text (c : Category) : String :=
  let rest := if c.rest.isEmpty then [] else [Radix.hex.writeMarked c.rest.bits.toNat]
  match c.topics.map Topic.label ++ rest with
  | [] => Radix.hex.writeMarked 0
  | parts => String.intercalate " | " parts

/-- The bits in a chosen number format. -/
def write (c : Category) (f : NumberFormat) : String :=
  f.write c.bits.toNat

end Category

end LoadedImage
