import LoadedImage.Proofs.Restriction

/-!
# Tables of glue

A table of glue is made in the order of the glue, an entry is picked by the place of its glue, and
its distance is stored in a field of the header that is named after the glue. Whichever way an
entry is reached, it is what the image answers for that piece of glue alone
(`Image.get_glueTable`, `Image.toList_glueTable`, `Image.toNat_address_glue`).

A bounded image goes through all glue before it hands out the bare table. A loop of checks is
stopped by the first one that fails (`forM_discard_eq_error_iff`), so the table is refused for one
piece of glue: the first in the order that does not lie in the extent
(`BoundedImage.FirstOutside`). `BoundedImage.glueTable_agrees` puts the two together.
-/

namespace LoadedImage

/-! ## Bare tables -/

/-- The field that holds the distance of the glue bears its name. -/
theorem Glue.ofLabel?_name (g : Glue) :
    Header.Field.ofLabel? (g.name ++ "_glue_off") = some g.field := by
  cases g <;> decide

theorem Glue.value_field (g : Glue) (h : Header) : h.value g.field = (g.distance h).toInt := by
  cases g <;> rfl

namespace Image

variable (i : Image)

theorem get_glueTable (g : Glue) : i.glueTable.get g = i.glue g :=
  Glue.Table.get_ofFn i.glue g

theorem toList_glueTable : i.glueTable.toList = Glue.all.map i.glue := rfl

theorem getElem?_toList_glueTable (g : Glue) :
    i.glueTable.toList[g.index]? = some (i.glue g) := by
  rw [Glue.Table.getElem?_toList_index, get_glueTable]

theorem toNat_address_glue (g : Glue) :
    ((i.glue g).address.word.toNat : Int) =
      (i.address.word.toNat + i.header.value g.field) % UInt64.size := by
  rw [g.value_field]
  exact i.address.toNat_move (g.distance i.header)

end Image

/-! ## Loops of checks -/

section Loops

variable {α β : Type} {check : α → Except Fault β} {l : List α} {fault : Fault}

/-- A loop gets through if every check does. -/
theorem forM_discard_eq_ok_iff :
    (forM l fun a => discard (check a)) = .ok () ↔ ∀ a ∈ l, ∃ b, check a = .ok b := by
  induction l with
  | nil => exact iff_of_true rfl nofun
  | cons a l ih =>
    rw [List.forM_cons, List.forall_mem_cons, ← ih]
    cases check a with
    | ok b => exact (and_iff_right ⟨b, rfl⟩).symm
    | error => exact iff_of_false nofun nofun

/-- A loop is stopped by the first check that fails, with the fault of this one. -/
theorem forM_discard_eq_error_iff :
    (forM l fun a => discard (check a)) = .error fault ↔
      ∃ (k : Nat) (a : α), l[k]? = some a ∧ check a = .error fault ∧
        ∀ j < k, ∀ c, l[j]? = some c → ∃ b, check c = .ok b := by
  induction l with
  | nil => exact iff_of_false nofun (by simp)
  | cons a l ih =>
    rw [List.forM_cons]
    cases ha : check a with
    | ok b =>
      refine ih.trans ⟨?_, ?_⟩
      · rintro ⟨k, c, hget, hc, hbefore⟩
        refine ⟨k + 1, c, hget, hc, fun j hj e he => ?_⟩
        cases j with
        | zero => exact Option.some.inj he ▸ ⟨b, ha⟩
        | succ j => exact hbefore j (Nat.lt_of_succ_lt_succ hj) e he
      · rintro ⟨k, c, hget, hc, hbefore⟩
        cases k with
        | zero =>
          obtain rfl := Option.some.inj hget
          rw [ha] at hc
          cases hc
        | succ k => exact ⟨k, c, hget, hc, fun j hj => hbefore (j + 1) (Nat.succ_lt_succ hj)⟩
    | error fault' =>
      constructor
      · intro h
        obtain rfl := Except.error.inj h
        exact ⟨0, a, rfl, ha, fun j hj => absurd hj (Nat.not_lt_zero j)⟩
      · rintro ⟨k, c, hget, hc, hbefore⟩
        cases k with
        | zero =>
          obtain rfl := Option.some.inj hget
          rw [ha] at hc
          obtain rfl := Except.error.inj hc
          rfl
        | succ k =>
          obtain ⟨b, hb⟩ := hbefore 0 k.succ_pos a rfl
          rw [ha] at hb
          cases hb

end Loops

/-! ## Bounded tables -/

namespace BoundedImage

variable {b : BoundedImage} {g : Glue} {fault : Fault}

/-- The glue does not lie in the extent, and all glue before it does. -/
structure FirstOutside (b : BoundedImage) (g : Glue) : Prop where
  outside : (b.image.glue g).address ∉ b.extent
  inside_before : ∀ g', g'.index < g.index → (b.image.glue g').address ∈ b.extent

/-- The glue passes if and only if it lies in the extent. -/
theorem exists_glue_eq_ok_iff : (∃ entry, b.glue g = .ok entry) ↔
    (b.image.glue g).address ∈ b.extent :=
  (b.glue_restricts g).exists_ok_iff

theorem glueTable_eq_ok_iff {t : Glue.Table} :
    b.glueTable = .ok t ↔
      (∀ g, (b.image.glue g).address ∈ b.extent) ∧ t = b.image.glueTable := by
  have hloop : (forM Glue.all fun g => discard (b.glue g)) = .ok () ↔
      ∀ g, (b.image.glue g).address ∈ b.extent := by
    simp only [forM_discard_eq_ok_iff, exists_glue_eq_ok_iff, Glue.mem_all, true_imp_iff]
  rw [← hloop, glueTable]
  cases forM Glue.all fun g => discard (b.glue g) with
  | ok => simp [pure, Except.pure, bind, Except.bind, eq_comm]
  | error => simp [bind, Except.bind]

/-- The loop goes through the glue in the order of the index. -/
theorem glueTable_eq_error_iff :
    b.glueTable = .error fault ↔ ∃ g, b.FirstOutside g ∧ b.glue g = .error fault := by
  have hloop : b.glueTable = .error fault ↔
      (forM Glue.all fun g => discard (b.glue g)) = .error fault := by
    rw [glueTable]
    cases forM Glue.all fun g => discard (b.glue g) <;>
      simp [pure, Except.pure, bind, Except.bind]
  rw [hloop, forM_discard_eq_error_iff]
  simp only [Glue.getElem?_all_eq_some_iff, exists_glue_eq_ok_iff]
  constructor
  · rintro ⟨k, g, rfl, hfault, hbefore⟩
    have hout : (b.image.glue g).address ∉ b.extent := fun hmem => by
      rw [(b.glue_restricts g).passes hmem] at hfault
      cases hfault
    exact ⟨g, ⟨hout, fun g' hlt => hbefore g'.index hlt g' rfl⟩, hfault⟩
  · rintro ⟨g, hfirst, hfault⟩
    refine ⟨g.index, g, rfl, hfault, ?_⟩
    rintro j hj c rfl
    exact hfirst.inside_before c hj

/-- The pieces of glue that the loop has let through are those of the bare image. -/
theorem mapM_glue (b : BoundedImage) (l : List Glue) :
    l.mapM b.glue =
      (fun _ => l.map b.image.glue) <$> forM l fun g => discard (b.glue g) := by
  induction l with
  | nil => rfl
  | cons g l ih =>
    rw [List.mapM_cons, List.forM_cons, ih]
    cases hg : b.glue g with
    | ok entry =>
      obtain rfl := (b.glue_restricts g).eq_of_ok hg
      cases forM l fun g => discard (b.glue g) <;> rfl
    | error => rfl

/-- The table that is handed out holds what the pieces of glue are answered with one by one. -/
theorem toList_glueTable (b : BoundedImage) :
    Glue.Table.toList <$> b.glueTable = Glue.all.mapM b.glue := by
  rw [mapM_glue, glueTable]
  cases forM Glue.all fun g => discard (b.glue g) <;> rfl

/-- In the table of an image each piece of glue stands at its place in the order, as the image
answers it alone: under its own name, at the address of the header moved by the field that is
named after it. A bounded image answers the same table if all four pieces lie in the extent. If
not, it refuses the table with the fault with which it refuses the first piece that is outside. -/
theorem glueTable_agrees :
    (∀ i : Image, i.glueTable.toList = Glue.all.map i.glue ∧
        ∀ g, i.glueTable.get g = i.glue g ∧
          i.glueTable.toList[g.index]? = some (i.glue g) ∧
          (i.glue g).glue = g ∧
          ∃ f, Header.Field.ofLabel? (g.name ++ "_glue_off") = some f ∧
            ((i.glue g).address.word.toNat : Int) =
              (i.address.word.toNat + i.header.value f) % UInt64.size) ∧
      ∀ b : BoundedImage,
        (∀ t, b.glueTable = .ok t ↔
          (∀ g, (b.image.glue g).address ∈ b.extent) ∧ t = b.image.glueTable) ∧
        ∀ fault, b.glueTable = .error fault ↔
          ∃ g, b.FirstOutside g ∧ b.glue g = .error fault := by
  refine ⟨fun i => ⟨i.toList_glueTable, fun g => ?_⟩, fun b => ⟨fun t => ?_, fun fault => ?_⟩⟩
  · exact ⟨i.get_glueTable g, i.getElem?_toList_glueTable g, rfl, g.field, g.ofLabel?_name,
      i.toNat_address_glue g⟩
  · exact glueTable_eq_ok_iff
  · exact glueTable_eq_error_iff

end BoundedImage

end LoadedImage
