/-!
# Numerals in a base

A radix fixes a base, the digit characters and the mark that announces the base.
`Radix.digits` writes a number with as few digits as it needs, `Radix.fixed` with a
given number of digits, and `Radix.read?` reads either back: the value of
`r.digits n` is `n` (`Radix.read?_digits`), and no numeral is empty
(`Radix.digits_ne_nil`).
-/

namespace LoadedImage

/-- A base with its digit characters. -/
inductive Radix where
  | binary
  | octal
  | decimal
  | hex
  /-- Base sixteen with capital letters as digits. -/
  | hexCapital
deriving DecidableEq

namespace Radix

/-- The number of digits. -/
def base : Radix → Nat
  | binary => 2
  | octal => 8
  | decimal => 10
  | hex => 16
  | hexCapital => 16

/-- The mark before a numeral; decimal numerals have none. -/
def mark : Radix → String
  | binary => "0b"
  | octal => "0o"
  | decimal => ""
  | hex => "0x"
  | hexCapital => "0x"

/-- The first letter digit, which stands for ten. -/
def letterTen : Radix → Char
  | hexCapital => 'A'
  | _ => 'a'

/-- The character of the digit `d`. -/
def digit (r : Radix) (d : Nat) : Char :=
  if d < 10 then Char.ofNat ('0'.toNat + d) else Char.ofNat (r.letterTen.toNat + (d - 10))

/-- The digit a character stands for. -/
def digit? (r : Radix) (c : Char) : Option Nat :=
  (List.range r.base).find? fun d => r.digit d = c

theorem two_le_base (r : Radix) : 2 ≤ r.base := by
  cases r <;> decide

theorem digit?_digit (r : Radix) : ∀ d < r.base, r.digit? (r.digit d) = some d := by
  cases r <;> decide

/-- The numeral of `n` with no more digits than it needs; zero is written with one. -/
def digits (r : Radix) (n : Nat) : List Char :=
  if n < r.base then [r.digit n] else r.digits (n / r.base) ++ [r.digit (n % r.base)]
termination_by n
decreasing_by
  have := r.two_le_base
  exact Nat.div_lt_self (by omega) (by omega)

/-- The numeral of the last `width` digits of `n`, leading zeros included. -/
def fixed (r : Radix) : (width : Nat) → (n : Nat) → List Char
  | 0, _ => []
  | width + 1, n => r.fixed width (n / r.base) ++ [r.digit (n % r.base)]

/-- The value of a string of digits, or nothing if some character is no digit. -/
def read? (r : Radix) (cs : List Char) : Option Nat :=
  cs.foldlM (fun acc c => (r.digit? c).map (acc * r.base + ·)) 0

/-- The numeral of `n` without its mark. -/
def write (r : Radix) (n : Nat) : String :=
  String.ofList (r.digits n)

/-- The numeral of a number that may be negative, without its mark. -/
def writeInt (r : Radix) (z : Int) : String :=
  (if z < 0 then "-" else "") ++ r.write z.natAbs

/-- The numeral of `n` after its mark. -/
def writeMarked (r : Radix) (n : Nat) : String :=
  r.mark ++ r.write n

theorem digits_ne_nil (r : Radix) (n : Nat) : r.digits n ≠ [] := by
  rw [digits]
  split <;> simp

theorem length_fixed (r : Radix) (width n : Nat) : (r.fixed width n).length = width := by
  induction width generalizing n with
  | zero => rfl
  | succ w ih => simp [fixed, ih]

theorem read?_append_digit (r : Radix) {cs : List Char} {n d : Nat} (hd : d < r.base)
    (h : r.read? cs = some n) : r.read? (cs ++ [r.digit d]) = some (n * r.base + d) := by
  unfold read? at h ⊢
  simp [List.foldlM_append, h, r.digit?_digit d hd]

/-- Reading a numeral gives back the number it was written for. -/
theorem read?_digits (r : Radix) (n : Nat) : r.read? (r.digits n) = some n := by
  have hb := r.two_le_base
  fun_induction r.digits n with
  | case1 n h => simpa using @read?_append_digit r [] 0 n h rfl
  | case2 n h ih =>
    have := r.read?_append_digit (Nat.mod_lt n (by omega)) ih
    rwa [Nat.div_add_mod'] at this

end Radix

end LoadedImage
