import LoadedImage.Text.Quoted

/-!
# Outlines of structured values

An outline is what is shown of a value: words, quoted text and numbers, grouped under a
heading in brackets. `Outline.write` sets it on one line, or spread over lines with one
item a line, each a level further in and with a comma behind it. Numbers are written in
the radix of the style; in base sixteen a negative number is shown as the word that
stores it.
-/

namespace LoadedImage

/-- The brackets around a group. -/
inductive Bracket where
  | round
  | square
  | curly
deriving DecidableEq

namespace Bracket

/-- The opening bracket; a blank keeps a curly one off its heading. -/
def opening : Bracket → String
  | round => "("
  | square => "["
  | curly => " \x7b"

/-- The bracket that ends a group. -/
def closing : Bracket → String
  | round => ")"
  | square => "]"
  | curly => "\x7d"

/-- What keeps the items off the brackets on one line. -/
def inset : Bracket → String
  | curly => " "
  | _ => ""

end Bracket

/-- What is shown of a value. -/
inductive Outline where
  /-- Text that stands as it is. -/
  | word (text : String)
  | quoted (text : String)
  /-- A number, with the word that stores it. -/
  | number (value : Int) (stored : Nat)
  | field (label : String) (content : Outline)
  | group (heading : String) (bracket : Bracket) (items : List Outline)

/-- How an outline is set. -/
structure Outline.Style where
  radix : Radix
  /-- One item a line, and numbers with the mark of the radix. -/
  spread : Bool
deriving DecidableEq

namespace Outline

namespace Style

/-- A number in the radix of the style: by its value in base ten, in another base by the word
that stores it. -/
def number (s : Style) (value : Int) (stored : Nat) : String :=
  if s.radix = .decimal then s.radix.writeInt value
  else if s.spread then s.radix.writeMarked stored
  else s.radix.write stored

/-- The blanks in front of a line at a depth. -/
def indentation (depth : Nat) : String :=
  String.ofList (List.replicate (4 * depth) ' ')

/-- The items of a group at a depth, in its brackets. -/
def enclose (s : Style) (depth : Nat) (bracket : Bracket) (items : List String) : String :=
  if items.isEmpty then bracket.opening ++ bracket.closing
  else if s.spread then
    let lines := items.map fun item => indentation (depth + 1) ++ item ++ ",\n"
    bracket.opening ++ "\n" ++ String.join lines ++ indentation depth ++ bracket.closing
  else
    bracket.opening ++ bracket.inset ++ String.intercalate ", " items ++ bracket.inset ++
      bracket.closing

end Style

mutual

/-- The text of an outline whose first line stands at a depth. -/
def writeAt (s : Style) (depth : Nat) : Outline → String
  | word text => text
  | quoted text => Text.quoted text
  | number value stored => s.number value stored
  | field label content => label ++ ": " ++ writeAt s depth content
  | group heading bracket items =>
    heading ++ s.enclose depth bracket (writeAllAt s (depth + 1) items)

/-- The texts of the items of a group. -/
def writeAllAt (s : Style) (depth : Nat) : List Outline → List String
  | [] => []
  | item :: items => writeAt s depth item :: writeAllAt s depth items

end

/-- The text of an outline. -/
def write (o : Outline) (s : Style) : String :=
  writeAt s 0 o

/-- A word of storage, shown as an unsigned number. -/
def unsigned (n : Nat) : Outline := number n n

/-- A word of storage, shown as a signed number. -/
def signed (d : Int64) : Outline := number d.toInt d.toUInt64.toNat

end Outline

end LoadedImage
