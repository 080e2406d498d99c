/-!
# Little-endian words

A number as a block of bytes, the least significant first. `toBytes width n` holds the
number modulo `capacity width`, and `toNat` reads a block of any width: reading back what
was written loses nothing that fits (`toNat_toBytes`), and writing back what was read
gives the same block (`toBytes_toNat`).
-/

namespace LoadedImage.LittleEndian

/-- The `width` low bytes of `n`. -/
def toBytes : (width : Nat) → (n : Nat) → List UInt8
  | 0, _ => []
  | width + 1, n => UInt8.ofNat n :: toBytes width (n / 256)

/-- The number a block of bytes holds. -/
def toNat : List UInt8 → Nat
  | [] => 0
  | b :: bytes => b.toNat + 256 * toNat bytes

/-- The number of different blocks of a width. -/
def capacity : (width : Nat) → Nat
  | 0 => 1
  | width + 1 => 256 * capacity width

@[simp]
theorem length_toBytes (width n : Nat) : (toBytes width n).length = width := by
  induction width generalizing n with
  | zero => rfl
  | succ width ih => simp [toBytes, ih]

theorem toNat_lt (bytes : List UInt8) : toNat bytes < capacity bytes.length := by
  induction bytes with
  | nil => simp [toNat, capacity]
  | cons b bytes ih =>
    have := b.toNat_lt
    simp only [toNat, List.length_cons, capacity]
    omega

theorem toNat_toBytes (width n : Nat) : toNat (toBytes width n) = n % capacity width := by
  induction width generalizing n with
  | zero => simp [toBytes, toNat, capacity, Nat.mod_one]
  | succ width ih =>
    have hb : (UInt8.ofNat n).toNat = n % 256 := by simp
    rw [toBytes, toNat, ih, hb, capacity, Nat.mod_mul]

theorem toBytes_toNat (bytes : List UInt8) : toBytes bytes.length (toNat bytes) = bytes := by
  induction bytes with
  | nil => rfl
  | cons b bytes ih =>
    have hb := b.toNat_lt
    have hdiv : (b.toNat + 256 * toNat bytes) / 256 = toNat bytes := by omega
    have hlow : UInt8.ofNat (b.toNat + 256 * toNat bytes) = b := by
      apply UInt8.toNat_inj.1
      rw [UInt8.toNat_ofNat']
      omega
    rw [List.length_cons, toNat, toBytes, hdiv, hlow, ih]

end LoadedImage.LittleEndian
