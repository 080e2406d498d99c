import LoadedImage.Proofs.TableCorrection

/-!
# Two ways to an address

The parts of an image are found from the address the header has now, without a look at the
address it was linked at. Addresses that the linker wrote down are found by the bias between
the two. Both ways lead to the same place: what an image finds where it was linked, and what
the same image finds where it was loaded, are connected by the bias of the loaded one
(`Bias.Connects`, `Image.bias_connectsParts`), whatever the distance and however the sums
wrap.

For a table this holds with one exception, which is by design: an entry whose place at link
time is the null address counts as absent and stays null
(`Bias.table_correct_map_move`). `Image.load_addressing_agrees` puts this together. An image
that is loaded where it was linked is a case of it.
-/

namespace LoadedImage

/-! ## Connected addresses -/

namespace Bias

/-- The bias leads from the address as linked to the address as loaded and back. -/
structure Connects (b : Bias) (linked loaded : Address) : Prop where
  apply_eq : b.apply linked = loaded
  revert_eq : b.revert loaded = linked

/-- Applying a bias loses nothing, so one way is enough. -/
theorem Connects.of_apply {b : Bias} {linked loaded : Address} (h : b.apply linked = loaded) :
    b.Connects linked loaded where
  apply_eq := h
  revert_eq := by rw [← h, revert_apply]

variable (linked loaded : Address)

theorem between_connects_move (d : Int64) :
    (between linked loaded).Connects (linked.move d) (loaded.move d) :=
  .of_apply (apply_between_move linked loaded d)

/-- A count of bytes behind a place is a movement too. -/
theorem between_connects_advance (d : Int64) (count : UInt64) :
    (between linked loaded).Connects ((linked.move d).advance count)
      ((loaded.move d).advance count) := by
  rw [Address.advance_eq_move, Address.advance_eq_move, Address.move_move, Address.move_move]
  exact between_connects_move linked loaded _

/-- A table of places as linked becomes the table of the same places as loaded, but for those
that were null. -/
theorem table_correct_map_move (offsets : List Int64) (place : Address) :
    ((between linked loaded).correct (offsets.map linked.move) place).value.2 =
      offsets.map fun d => if linked.move d = .null then .null else loaded.move d := by
  rw [table_correct, List.map_map]
  refine List.map_congr_left fun d _ => ?_
  change correctEntry _ (linked.move d) = _
  split
  · next hnull => rw [hnull, correctEntry_null]
  · next hlive => rw [correctEntry_of_ne_null _ hlive, apply_between_move]

theorem between_self : between linked linked = zero := by
  rw [between, Address.distance_self, zero]

end Bias

/-! ## Images -/

namespace Image

/-- The bias connects every part of one image with the same part of the other: the base, each
piece of glue, and both ends of each debug section. -/
structure ConnectsParts (b : Bias) (linked loaded : Image) : Prop where
  base : b.Connects linked.base loaded.base
  glue : ∀ g, b.Connects (linked.glue g).address (loaded.glue g).address
  sectionBase : ∀ s sink, b.Connects (linked.debugSection s sink).value.base
    (loaded.debugSection s sink).value.base
  sectionLimit : ∀ s sink, b.Connects (linked.debugSection s sink).value.limit
    (loaded.debugSection s sink).value.limit

theorem bias_connectsParts (header : Header) (address : Address) :
    ConnectsParts (bias ⟨header, address⟩) ⟨header, header.linkAddress⟩ ⟨header, address⟩ := by
  rw [bias_eq_between]
  exact
    { base := Bias.between_connects_move _ _ _
      glue := fun _ => Bias.between_connects_move _ _ _
      sectionBase := fun _ _ => Bias.between_connects_move _ _ _
      sectionLimit := fun _ _ => Bias.between_connects_advance _ _ _ _ }

/-- Load a header where it was linked, and anywhere. The bias of the second image connects
its parts with those of the first, and corrects a table of places of the first to the table
of the same places of the second; only an entry that is null as linked stays null. The bias
of the first image is zero. -/
theorem load_addressing_agrees (header : Header) (address : Address) :
    let linked := (load header header.linkAddress).value
    let loaded := (load header address).value
    ConnectsParts loaded.bias linked loaded ∧
      (∀ (offsets : List Int64) (place : Address),
        (loaded.bias.correct (offsets.map header.linkAddress.move) place).value.2 =
          offsets.map fun d =>
            if header.linkAddress.move d = .null then .null else address.move d) ∧
      linked.bias = .zero := by
  intro linked loaded
  exact ⟨bias_connectsParts header address,
    Bias.table_correct_map_move header.linkAddress address,
    Bias.between_self header.linkAddress⟩

end Image

end LoadedImage
