import LoadedImage.Text.Radix

/-!
# Numbers in a column

A number is written in a radix, with or without the mark of the radix, and filled up
to a width. `Padding.beside` puts fill characters on one side of the whole numeral or
on both; `Padding.zeros` puts zeros between the mark and the digits. A numeral wider
than the width is never cut (`Padding.length_beside`, `Padding.length_zeros`).
-/

namespace LoadedImage

/-- Where a text stands in its column. -/
inductive Alignment where
  | left
  | right
  | centre
deriving DecidableEq

/-- How many of `room` fill characters go in front of the text. The odd one of a
centred text goes behind it. -/
def Alignment.before : Alignment → (room : Nat) → Nat
  | .left, _ => 0
  | .right, room => room
  | .centre, room => room / 2

/-- How a numeral is filled up to a width. -/
inductive Padding where
  | none
  | beside (alignment : Alignment) (fill : Char) (width : Nat)
  | zeros (width : Nat)
deriving DecidableEq

/-- The mark and the digits of a numeral, filled up. -/
def Padding.apply (p : Padding) (mark digits : List Char) : List Char :=
  let length := mark.length + digits.length
  match p with
  | .none => mark ++ digits
  | .beside alignment fill width =>
    let room := width - length
    let before := alignment.before room
    List.replicate before fill ++ mark ++ digits ++ List.replicate (room - before) fill
  | .zeros width => mark ++ List.replicate (width - length) '0' ++ digits

/-- How a number is written. -/
structure NumberFormat where
  radix : Radix
  /-- Whether the mark of the radix stands before the digits. -/
  marked : Bool := false
  padding : Padding := .none
deriving DecidableEq

/-- The text of `n`. -/
def NumberFormat.write (f : NumberFormat) (n : Nat) : String :=
  let mark := if f.marked then f.radix.mark.toList else []
  String.ofList (f.padding.apply mark (f.radix.digits n))

theorem Alignment.before_le (a : Alignment) (room : Nat) : a.before room ≤ room := by
  cases a <;> simp only [Alignment.before] <;> omega

theorem Padding.length_beside (a : Alignment) (fill : Char) (width : Nat)
    (mark digits : List Char) : ((Padding.beside a fill width).apply mark digits).length =
      max width (mark.length + digits.length) := by
  have := a.before_le (width - (mark.length + digits.length))
  simp only [Padding.apply, List.length_append, List.length_replicate]
  omega

theorem Padding.length_zeros (width : Nat) (mark digits : List Char) :
    ((Padding.zeros width).apply mark digits).length =
      max width (mark.length + digits.length) := by
  simp only [Padding.apply, List.length_append, List.length_replicate]
  omega

end LoadedImage
