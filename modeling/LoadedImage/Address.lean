import LoadedImage.Text.NumberFormat

/-!
# Addresses

An address is a 64-bit word. Signed distances and byte counts act on it modulo the
size of the address space; `Address.advance?` is the sum that refuses to pass the top,
and a sum that has passed it is told by its result (`Address.advance?_eq_ite_le`). Moving
by the distance from `b` to `a` leads from `b` to `a` (`Address.move_distance`), and a
movement is the distance it covers (`Address.distance_move`).
-/

namespace LoadedImage

/-- A place in a 64-bit address space. -/
structure Address where
  word : UInt64
deriving DecidableEq, Inhabited

namespace Address

/-- The address no object has. -/
def null : Address := ⟨0⟩

/-- Addresses are ordered as numbers. -/
instance : LE Address := ⟨fun a b => a.word ≤ b.word⟩

instance : LT Address := ⟨fun a b => a.word < b.word⟩

instance : DecidableLE Address := fun a b => inferInstanceAs (Decidable (a.word ≤ b.word))

instance : DecidableLT Address := fun a b => inferInstanceAs (Decidable (a.word < b.word))

/-- Addresses are compared as numbers. -/
instance : Ord Address := ⟨fun a b => compare a.word b.word⟩

/-- The higher of two addresses. -/
instance : Max Address := maxOfLe

theorem word_inj {a b : Address} : a.word = b.word ↔ a = b :=
  ⟨congrArg mk, congrArg word⟩

theorem le_iff_toNat {a b : Address} : a ≤ b ↔ a.word.toNat ≤ b.word.toNat :=
  UInt64.le_iff_toNat_le

theorem lt_iff_toNat {a b : Address} : a < b ↔ a.word.toNat < b.word.toNat :=
  UInt64.lt_iff_toNat_lt

/-! ## Movement -/

/-- The address a signed distance away. -/
def move (a : Address) (distance : Int64) : Address :=
  ⟨a.word + distance.toUInt64⟩

/-- The signed distance that leads from `origin` to `a`. -/
def distance (a origin : Address) : Int64 :=
  (a.word - origin.word).toInt64

/-- The address `count` bytes further on. -/
def advance (a : Address) (count : UInt64) : Address :=
  ⟨a.word + count⟩

/-- The address `count` bytes further on, unless the sum of the numbers overflows. -/
def advance? (a : Address) (count : UInt64) : Option Address :=
  if a.word.toNat + count.toNat < UInt64.size then some (a.advance count) else none

/-- The last address. -/
def top : Address := ⟨UInt64.ofNat (UInt64.size - 1)⟩

/-- The address `count` bytes further on, or the last one if that lies beyond it. -/
def advanceToTop (a : Address) (count : UInt64) : Address :=
  (a.advance? count).getD top

/-- A distance leaves the remainder of the word that stores it. -/
theorem toInt_emod_size (d : Int64) :
    d.toInt % UInt64.size = d.toUInt64.toNat % UInt64.size := by
  rw [← Int64.toNat_toBitVec, ← Int64.toInt_toBitVec, BitVec.toInt_eq_toNat_bmod]
  exact Int.bmod_emod

/-- The sum is that of the numbers, reduced to the address space. -/
theorem toNat_move (a : Address) (d : Int64) :
    ((a.move d).word.toNat : Int) = (a.word.toNat + d.toInt) % UInt64.size := by
  have hd := toInt_emod_size d
  rw [move, UInt64.toNat_add]
  unfold UInt64.size at *
  omega

theorem toNat_top : top.word.toNat = UInt64.size - 1 := rfl

theorem le_top (a : Address) : a ≤ top :=
  le_iff_toNat.2 (Nat.le_pred_of_lt a.word.toNat_lt)

theorem lt_top_iff {a : Address} : a < top ↔ a ≠ top := by
  have ha := le_iff_toNat.1 a.le_top
  rw [lt_iff_toNat, Ne, ← word_inj, ← UInt64.toNat_inj]
  omega

theorem toNat_advance_of_lt {a : Address} {count : UInt64}
    (h : a.word.toNat + count.toNat < UInt64.size) :
    (a.advance count).word.toNat = a.word.toNat + count.toNat := by
  rw [advance, UInt64.toNat_add, Nat.mod_eq_of_lt h]

/-- A sum that overflows has wrapped to below the address it began at. -/
theorem le_advance_iff (a : Address) (count : UInt64) :
    a ≤ a.advance count ↔ a.word.toNat + count.toNat < UInt64.size := by
  have ha := a.word.toNat_lt
  have hc := count.toNat_lt
  rw [le_iff_toNat, advance, UInt64.toNat_add]
  unfold UInt64.size
  constructor <;> intro h <;> omega

/-- The overflow can be read off the wrapped sum. -/
theorem advance?_eq_ite_le (a : Address) (count : UInt64) :
    a.advance? count = if a ≤ a.advance count then some (a.advance count) else none := by
  simp only [advance?, le_advance_iff]

theorem advance?_eq_some_iff {a b : Address} {count : UInt64} :
    a.advance? count = some b ↔
      b = a.advance count ∧ a.word.toNat + count.toNat < UInt64.size := by
  simp [advance?, eq_comm, and_comm]

theorem toNat_advanceToTop (a : Address) (count : UInt64) :
    (a.advanceToTop count).word.toNat = min (a.word.toNat + count.toNat) (UInt64.size - 1) := by
  unfold advanceToTop advance?
  split
  · next hfit =>
    rw [Option.getD_some, toNat_advance_of_lt hfit]
    omega
  · next hover =>
    rw [Option.getD_none, toNat_top]
    omega

theorem move_distance (a b : Address) : b.move (a.distance b) = a := by
  simp [move, distance, UInt64.add_comm b.word]

theorem distance_move (a : Address) (d : Int64) : (a.move d).distance a = d := by
  simp [move, distance, UInt64.add_comm a.word]

/-- Different distances lead to different addresses. -/
theorem move_right_inj {a : Address} {d e : Int64} : a.move d = a.move e ↔ d = e := by
  refine ⟨fun h => ?_, congrArg a.move⟩
  rw [← a.distance_move d, h, distance_move]

theorem move_zero (a : Address) : a.move 0 = a := by
  change (⟨a.word + 0⟩ : Address) = a
  rw [UInt64.add_zero]

theorem distance_self (a : Address) : a.distance a = 0 := by
  have h := a.distance_move 0
  rwa [move_zero] at h

/-- Two movements are one by the sum of their distances. -/
theorem move_move (a : Address) (d e : Int64) : (a.move d).move e = a.move (d + e) := by
  simp [move, UInt64.add_assoc]

theorem move_comm (a : Address) (d e : Int64) : (a.move d).move e = (a.move e).move d := by
  rw [move_move, Int64.add_comm, move_move]

/-- A movement is undone by the opposite one. -/
theorem move_move_neg (a : Address) (d : Int64) : (a.move d).move (-d) = a := by
  rw [move_move, Int64.add_right_neg, move_zero]

/-- Only the distance zero leads nowhere. -/
theorem move_eq_self_iff {a : Address} {d : Int64} : a.move d = a ↔ d = 0 := by
  constructor
  · intro h
    rw [← a.distance_move d, h, distance_self]
  · rintro rfl
    exact a.move_zero

/-- A distance leads to null from one address only: its opposite, taken as a word. -/
theorem move_eq_null_iff {a : Address} {d : Int64} :
    a.move d = .null ↔ a.word = (-d).toUInt64 := by
  have hnull : null.move (-d) = ⟨(-d).toUInt64⟩ := congrArg mk (UInt64.zero_add _)
  constructor
  · intro h
    rw [← a.move_move_neg d, h, hnull]
  · intro h
    have ha : a = null.move (-d) := by rw [hnull, ← h]
    rw [ha, move_move, Int64.add_left_neg, move_zero]

theorem advance_zero (a : Address) : a.advance 0 = a :=
  congrArg mk (UInt64.add_zero a.word)

/-- The difference of the words gives the count back, even if the sum has wrapped. -/
theorem word_advance_sub_word (a : Address) (count : UInt64) :
    (a.advance count).word - a.word = count := by
  simp [advance, UInt64.add_comm a.word]

theorem advance_eq_move (a : Address) (count : UInt64) :
    a.advance count = a.move count.toInt64 := by
  rw [advance, move, UInt64.toUInt64_toInt64]

theorem distance_move_left (a b : Address) (d : Int64) :
    (a.move d).distance b = a.distance b + d := by
  have hmove : a.move d = b.move (a.distance b + d) := by
    rw [← move_move, move_distance]
  rw [hmove, distance_move]

/-- Addresses that move together keep their distance. -/
theorem distance_move_move (a b : Address) (d : Int64) :
    (a.move d).distance (b.move d) = a.distance b := by
  have hmove : a.move d = (b.move d).move (a.distance b) := by
    rw [move_comm, move_distance]
  rw [hmove, distance_move]

theorem word_sub_word_move (a b : Address) (d : Int64) :
    (a.move d).word - (b.move d).word = a.word - b.word := by
  have h := congrArg Int64.toUInt64 (distance_move_move a b d)
  rwa [distance, distance, UInt64.toUInt64_toInt64, UInt64.toUInt64_toInt64] at h

/-- The distance from `c` to `b` leads from `a` to the address that lies as far on from `b`
as `a` lies from `c`. -/
theorem move_distance_comm (a b c : Address) :
    a.move (b.distance c) = b.advance (a.word - c.word) := by
  simp only [move, distance, advance, UInt64.toUInt64_toInt64, mk.injEq]
  rw [UInt64.sub_eq_add_neg, UInt64.sub_eq_add_neg]
  ac_rfl

/-! ## Text -/

/-- The mark and all sixteen digits. -/
def text (a : Address) : String :=
  Radix.hex.mark ++ String.ofList (Radix.hex.fixed 16 a.word.toNat)

/-- The mark and as many digits as the address needs. -/
def shortText (a : Address) : String :=
  Radix.hex.writeMarked a.word.toNat

/-- A distance as a word in base sixteen: a negative one in two's complement. -/
def distanceText (d : Int64) : String :=
  Radix.hex.writeMarked d.toUInt64.toNat

/-- The address in a chosen number format. -/
def write (a : Address) (f : NumberFormat) : String :=
  f.write a.word.toNat

end Address

end LoadedImage
