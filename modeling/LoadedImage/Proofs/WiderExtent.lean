import LoadedImage.Proofs.GlueTables
import LoadedImage.Proofs.Overrun

/-!
# Answers in a wider extent

An extent lies within another one if its numbers do (`Extent.Within`). Either of the two may run
past the last address, and the wider one may start lower, so that every address is at another
distance from its start. The checks still come to the same: what is in the narrower extent is in
the wider one (`Extent.Within.mem`, `Extent.Within.covers`).

So whatever a bounded image answers, the same image answers in wider bounds too, and its answer is
the same (`BoundedImage.ofImage_answersKept`): the value, the events, and for a table also the
table after. Only refusals can turn into answers.
-/

namespace LoadedImage

/-! ## One extent within another -/

namespace Extent

/-- The numbers of the extent are numbers of the other one, even if they are no addresses. -/
structure Within (e e' : Extent) : Prop where
  start_le : e'.start.word.toNat ≤ e.start.word.toNat
  stop_le : e.start.word.toNat + e.length.toNat ≤ e'.start.word.toNat + e'.length.toNat

namespace Within

variable {e e' : Extent} {a base : Address} {size : UInt64}

theorem mem (h : e.Within e') (ha : a ∈ e) : a ∈ e' := by
  obtain ⟨hstart, hstop⟩ := h
  rw [mem_iff_toNat] at ha ⊢
  omega

theorem covers (h : e.Within e') (hspan : e.Covers base size) : e'.Covers base size := by
  obtain ⟨hstart, hstop⟩ := h
  rw [covers_iff_toNat] at hspan ⊢
  omega

end Within

end Extent

/-! ## Answers that are kept -/

/-- What the first one answers, the second one answers too. -/
def Kept {α : Type} (r r' : Except Fault α) : Prop :=
  ∀ a, r = .ok a → r' = .ok a

/-- Answers restricted to two conditions differ only where the conditions do. -/
theorem Restricts.kept {α : Type} {p q : Prop} {a : α} {r r' : Except Fault α}
    (h : Restricts p a r) (h' : Restricts q a r') (hpq : p → q) : Kept r r' := by
  intro b hb
  rw [h.eq_of_ok hb]
  exact h'.passes (hpq (h.exists_ok_iff.1 ⟨b, hb⟩))

theorem RestrictsTrace.eq_of_ok {α : Type} {p q : Prop} {t : Traced α} {a : α}
    {r r' : Traced (Except Fault α)} (h : RestrictsTrace p t r) (h' : RestrictsTrace q t r')
    (hpq : p → q) (ha : r.value = .ok a) : r' = r := by
  have hp := h.value.exists_ok_iff.1 ⟨a, ha⟩
  rw [h.passes hp, h'.passes (hpq hp)]

namespace BoundedImage

/-- The second one has the same image and answers all that the first one answers, with the same
values and the same events, and leaves a table that is corrected with the same entries. -/
structure AnswersKept (b b' : BoundedImage) : Prop where
  image : b'.image = b.image
  base : Kept b.base b'.base
  glue : ∀ g, Kept (b.glue g) (b'.glue g)
  glueTable : Kept b.glueTable b'.glueTable
  debugSection : ∀ s sink r, (b.debugSection s sink).value = .ok r →
    b'.debugSection s sink = b.debugSection s sink
  correct : ∀ table place n after, (b.correct table place).value = (.ok n, after) →
    b'.correct table place = b.correct table place

section Widened

variable {b b' : BoundedImage} (himage : b'.image = b.image) (h : b.extent.Within b'.extent)

include himage h

theorem base_kept : Kept b.base b'.base := by
  have hbase := b'.base_restricts
  rw [himage] at hbase
  exact b.base_restricts.kept hbase h.mem

theorem glue_kept (g : Glue) : Kept (b.glue g) (b'.glue g) := by
  have hglue := b'.glue_restricts g
  rw [himage] at hglue
  exact (b.glue_restricts g).kept hglue h.mem

/-- All glue that lies in the extent lies in the wider one. -/
theorem glueTable_kept : Kept b.glueTable b'.glueTable := by
  intro t ht
  obtain ⟨hinside, rfl⟩ := glueTable_eq_ok_iff.1 ht
  refine glueTable_eq_ok_iff.2 ⟨fun g => ?_, by rw [himage]⟩
  rw [himage]
  exact h.mem (hinside g)

theorem debugSection_kept {s : DebugSection} {sink : Sink} {r : Region}
    (hr : (b.debugSection s sink).value = .ok r) :
    b'.debugSection s sink = b.debugSection s sink := by
  have hsection := b'.debugSection_restricts s sink
  rw [himage] at hsection
  exact (b.debugSection_restricts s sink).eq_of_ok hsection h.covers hr

theorem isStray_of_isStray_wider {a : Address} (ha : b'.IsStray a) : b.IsStray a := by
  obtain ⟨hlive, hout⟩ := ha
  rw [himage] at hout
  exact ⟨hlive, mt h.mem hout⟩

/-- A table without stray entries has none in wider bounds, so both corrections are bare ones. -/
theorem correct_kept {table after : Table} {place : Address} {n : Nat}
    (hn : (b.correct table place).value = (.ok n, after)) :
    b'.correct table place = b.correct table place := by
  obtain ⟨hclean, -⟩ := (b.value_correct_eq_ok_iff table).1 hn
  have hclean' : ∀ a ∈ table, ¬b'.IsStray a := fun a ha =>
    mt (isStray_of_isStray_wider himage h) (hclean a ha)
  rw [b.correct_of_not_stray table hclean, b'.correct_of_not_stray table hclean', bias, himage,
    bias]

theorem answersKept_of_within : b.AnswersKept b' where
  image := himage
  base := base_kept himage h
  glue := glue_kept himage h
  glueTable := glueTable_kept himage h
  debugSection _ _ _ := debugSection_kept himage h
  correct _ _ _ _ := correct_kept himage h

end Widened

/-- An image that is bounded by an extent is bounded by every wider one, and there it answers all
it answered before. -/
theorem ofImage_answersKept (i : Image) {e e' : Extent} (h : e.Within e') :
    ∀ b, ofImage i e = .ok b →
      ∃ b', ofImage i e' = .ok b' ∧ b'.extent = e' ∧ b.AnswersKept b' := by
  intro b hb
  obtain ⟨rfl, rfl⟩ := ofImage_eq_ok_iff.1 hb
  obtain ⟨b', hb'⟩ := exists_ofImage_eq_ok_iff.2 (h.covers b.header_covered)
  obtain ⟨himage, rfl⟩ := ofImage_eq_ok_iff.1 hb'
  exact ⟨b', hb', rfl, answersKept_of_within himage h⟩

/-- Two extents that run past the last address, the wider one at both ends. The debug information
that wraps around to the low addresses is handed out and reported alike. -/
theorem ofImage_answersKept_pastTop :
    pastTop.extent.Within ⟨⟨0xffffffffffffff00⟩, 400⟩ ∧
      ofImage pastTop.image pastTop.extent = .ok pastTop ∧
      (pastTop.debugSection .info .recorder).value = .ok ⟨⟨0xfffffffffffffff0⟩, ⟨0x10⟩⟩ ∧
      ∃ b', ofImage pastTop.image ⟨⟨0xffffffffffffff00⟩, 400⟩ = .ok b' ∧
        pastTop.AnswersKept b' ∧
        b'.debugSection .info .recorder = pastTop.debugSection .info .recorder := by
  have hwithin : pastTop.extent.Within ⟨⟨0xffffffffffffff00⟩, 400⟩ := ⟨by decide, by decide⟩
  have hb : ofImage pastTop.image pastTop.extent = .ok pastTop :=
    ofImage_eq_ok_iff.2 ⟨rfl, rfl⟩
  have hr : (pastTop.debugSection .info .recorder).value =
      .ok ⟨⟨0xfffffffffffffff0⟩, ⟨0x10⟩⟩ := rfl
  obtain ⟨b', hb', -, hkept⟩ := ofImage_answersKept pastTop.image hwithin pastTop hb
  exact ⟨hwithin, hb, hr, b', hb', hkept, hkept.debugSection _ _ _ hr⟩

end BoundedImage

end LoadedImage
