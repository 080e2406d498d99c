import LoadedImage.Bias
import Mathlib.Logic.Function.Basic

/-!
# Signed distances

The distance between two addresses is the difference of their numbers, brought into the range of a
signed word (`Address.toInt_distance`). Between places more than half of the address space apart it
has the other sign than the difference. Half of it apart, it is the least number of the range either
way, and this is its own opposite. Nothing is lost: one distance leads from an address to another
and no other one does (`Address.distance_eq_iff`). Hence distances add up along a way and change
into their opposites on the way back, and what a bias does to an address can be undone everywhere
(`Address.distances_lose_nothing`).

A count of bytes has no sign, and there it matters whether the sum has wrapped. It has if and only
if it lies below the address it began at.
-/

namespace LoadedImage

namespace Address

/-! ## Distances -/

/-- The distance is the remainder of the difference that is nearest to zero. -/
theorem toInt_distance (a b : Address) :
    (a.distance b).toInt = ((a.word.toNat : Int) - b.word.toNat).bmod UInt64.size := by
  have hbits : (a.distance b).toBitVec = a.word.toBitVec - b.word.toBitVec := rfl
  rw [← Int64.toInt_toBitVec, hbits, BitVec.toInt_sub, BitVec.toInt_eq_toNat_bmod,
    BitVec.toInt_eq_toNat_bmod, Int.bmod_sub_bmod, Int.sub_bmod_bmod]
  rfl

/-- One distance leads from `b` to `a`, and no other one does. -/
theorem distance_eq_iff {a b : Address} {d : Int64} : a.distance b = d ↔ b.move d = a := by
  rw [← move_right_inj (a := b), move_distance, eq_comm]

/-- From `a` to `c` it is as far as from `a` to `b` and on to `c`. -/
theorem distance_eq_add_distance (a b c : Address) :
    c.distance a = c.distance b + b.distance a := by
  rw [distance_eq_iff, Int64.add_comm, ← move_move, move_distance, move_distance]

/-- The way back is the opposite distance, also where the opposite is the same. -/
theorem distance_eq_neg_distance (a b : Address) : a.distance b = -b.distance a := by
  rw [distance_eq_iff]
  calc b.move (-b.distance a)
      = (a.move (b.distance a)).move (-b.distance a) := by rw [move_distance]
    _ = a := a.move_move_neg (b.distance a)

end Address

namespace Bias

theorem apply_revert (b : Bias) (loaded : Address) : b.apply (b.revert loaded) = loaded := by
  rw [apply, revert, Address.move_comm, Address.move_move_neg]

theorem apply_between (linked loaded : Address) : (between linked loaded).apply linked = loaded :=
  loaded.move_distance linked

theorem revert_between (linked loaded : Address) :
    (between linked loaded).revert loaded = linked := by
  have h := (between linked loaded).revert_apply linked
  rwa [apply_between] at h

end Bias

/-- The distance between two addresses is the difference of their numbers, up to the size of the
address space. It leads from the one to the other, and a movement covers its distance. Distances add
up along a way, and the way back has the opposite one. The bias between two addresses leads from the
one to the other and back, and any bias can be applied and taken back in either order. The sum with
a count of bytes is answered if and only if it fits into the address space, which it does if and
only if it has not come out below the address. -/
theorem Address.distances_lose_nothing (a b c : Address) (d : Int64) (bias : Bias)
    (count : UInt64) :
    (a.distance b).toInt = ((a.word.toNat : Int) - b.word.toNat).bmod UInt64.size ∧
      b.move (a.distance b) = a ∧
      (a.move d).distance a = d ∧
      c.distance a = c.distance b + b.distance a ∧
      a.distance b = -b.distance a ∧
      (Bias.between a b).apply a = b ∧
      (Bias.between a b).revert b = a ∧
      Function.LeftInverse bias.revert bias.apply ∧
      Function.RightInverse bias.revert bias.apply ∧
      (∀ e, a.advance? count = some e ↔
        e = a.advance count ∧ a.word.toNat + count.toNat < UInt64.size) ∧
      (a.word.toNat + count.toNat < UInt64.size ↔ a ≤ a.advance count) :=
  ⟨toInt_distance a b, move_distance a b, distance_move a d, distance_eq_add_distance a b c,
    distance_eq_neg_distance a b, Bias.apply_between a b, Bias.revert_between a b,
    bias.revert_apply, bias.apply_revert, fun _ => advance?_eq_some_iff,
    (le_advance_iff a count).symm⟩

/-- Half of the address space apart, either address is at the same distance from the other. -/
example : Address.distance ⟨0⟩ ⟨0x8000000000000000⟩ = Int64.minValue ∧
    Address.distance ⟨0x8000000000000000⟩ ⟨0⟩ = Int64.minValue := by decide

end LoadedImage
