import LoadedImage.Proofs.CorrectionRuns

/-!
# What a correction changes

A correction moves the live entries of a table and passes over the null ones. A bias other than
zero moves an entry to another place, wherever the sum wraps to, so the count that is answered is
the number of places where the table is another one than before. For a bias of zero both are
zero, although nobody looked at the table (`Bias.correct_changes`).

Two corrections in a row are one correction by the sum of their distances, and a correction is
undone by the opposite one, but for what gets lost on the way: an entry that is moved to the null
address counts as absent from then on. This is the only exception
(`Table.correctedBy_adds_and_undoes`), and it cannot happen in the bounds of an extent that does
not start at null.
-/

namespace LoadedImage

/-! ## Places that change -/

/-- The number of places at which two tables of one length differ. -/
def Table.differences (table after : Table) : Nat :=
  (table.zip after).countP fun p => p.1 ≠ p.2

theorem Table.differences_cons (a a' : Address) (table after : Table) :
    differences (a :: table) (a' :: after) =
      differences table after + if a = a' then 0 else 1 := by
  simp [differences, List.countP_cons]

namespace Bias

theorem distance_eq_zero_iff {b : Bias} : b.distance = 0 ↔ b = .zero :=
  ⟨congrArg mk, congrArg distance⟩

theorem correctEntry_eq_ite (b : Bias) (a : Address) :
    b.correctEntry a = if a = .null then .null else a.move b.distance := by
  split
  · next ha => rw [ha, correctEntry_null]
  · next ha => rw [b.correctEntry_of_ne_null ha, apply]

/-- An entry keeps its value only if it is null or the bias is zero. -/
theorem correctEntry_eq_self_iff {b : Bias} {a : Address} :
    b.correctEntry a = a ↔ a = .null ∨ b = .zero := by
  by_cases ha : a = .null
  · simp [ha, correctEntry_null]
  · rw [b.correctEntry_of_ne_null ha, apply, Address.move_eq_self_iff, distance_eq_zero_iff]
    simp [ha]

/-- Entry by entry: each live one is another one afterwards, unless the bias is zero. -/
theorem differences_correctEntry (b : Bias) (table : Table) :
    table.differences (table.map b.correctEntry) = if b = .zero then 0 else liveCount table := by
  induction table with
  | nil => simp [Table.differences, liveCount]
  | cons a table ih =>
    rw [List.map_cons, Table.differences_cons, ih]
    by_cases hzero : b = .zero
    · simp [hzero, correctEntry_zero]
    · by_cases ha : a = .null
      · simp [hzero, ha, correctEntry_null, liveCount]
      · have hmoved : a ≠ b.correctEntry a := fun h =>
          (correctEntry_eq_self_iff.1 h.symm).elim ha hzero
        simp [hzero, ha, hmoved, liveCount]

/-- After a correction the table has its length, null entries are null and every other entry
has moved by the distance, whether the bias is zero or not. The count is the number of places
that have changed. -/
theorem correct_changes (b : Bias) (table : Table) (place : Address) :
    ∃ count after, (b.correct table place).value = (count, after) ∧
      after.length = table.length ∧
      (∀ i : Nat, after[i]? =
        table[i]?.map fun a => if a = .null then .null else a.move b.distance) ∧
      count = table.differences after ∧
      (b = .zero → count = 0 ∧ after = table) := by
  refine ⟨_, _, rfl, ?_, ?_, ?_, ?_⟩
  · rw [table_correct, List.length_map]
  · intro i
    rw [table_correct, List.getElem?_map, funext b.correctEntry_eq_ite]
  · rw [table_correct, count_correct, differences_correctEntry]
  · intro hzero
    rw [correct, if_pos hzero]
    exact ⟨rfl, rfl⟩

/-- A correction that changes nothing may still have live entries before it. -/
example : (zero.correct [⟨0x1010⟩, .null] ⟨0x7000⟩).value = (0, [⟨0x1010⟩, .null]) := rfl

end Bias

/-! ## One correction after another -/

/-- The table after a correction by a distance, in the place where it lies. -/
def Table.correctedBy (table : Table) (place : Address) (d : Int64) : Table :=
  ((Bias.mk d).correct table place).value.2

namespace Table

theorem correctedBy_eq_map (table : Table) (place : Address) (d : Int64) :
    table.correctedBy place d = table.map (Bias.mk d).correctEntry :=
  (Bias.mk d).table_correct table place

theorem correctedBy_zero (table : Table) (place : Address) : table.correctedBy place 0 = table :=
  rfl

end Table

/-- An entry moves twice as it would move once by the sum, unless it gets lost at null in
between. Then the second distance is not applied, and only zero makes no difference. -/
theorem Bias.correctEntry_correctEntry_iff (d e : Int64) (a : Address) :
    (mk e).correctEntry ((mk d).correctEntry a) = (mk (d + e)).correctEntry a ↔
      e = 0 ∨ (a ≠ .null → a.move d ≠ .null) := by
  by_cases ha : a = .null
  · simp [ha, correctEntry_null]
  · have hfirst : (mk d).correctEntry a = a.move d := correctEntry_of_ne_null _ ha
    have hsum : (mk (d + e)).correctEntry a = (a.move d).move e := by
      rw [correctEntry_of_ne_null _ ha, apply, Address.move_move]
    rw [hfirst, hsum]
    by_cases hlost : a.move d = .null
    · rw [hlost, correctEntry_null, eq_comm, Address.move_eq_self_iff]
      simp [ha]
    · rw [correctEntry_of_ne_null _ hlost]
      exact iff_of_true rfl (.inr fun _ => hlost)

namespace Table

theorem correctedBy_correctedBy_iff (table : Table) (place : Address) (d e : Int64) :
    (table.correctedBy place d).correctedBy place e = table.correctedBy place (d + e) ↔
      e = 0 ∨ ∀ a ∈ table, a ≠ .null → a.move d ≠ .null := by
  simp only [correctedBy_eq_map, List.map_map, List.map_inj_left, Function.comp_apply,
    Bias.correctEntry_correctEntry_iff, forall_or_left]

theorem correctedBy_neg_iff (table : Table) (place : Address) (d : Int64) :
    (table.correctedBy place d).correctedBy place (-d) = table ↔
      ∀ a ∈ table, a ≠ .null → a.move d ≠ .null := by
  have hundo := table.correctedBy_correctedBy_iff place d (-d)
  rw [Int64.add_right_neg, correctedBy_zero] at hundo
  rw [hundo, or_iff_right_of_imp]
  -- an opposite distance of zero leaves every entry where it is, the live ones live
  intro hzero a _ hlive
  have hsame : a.move d = a := by
    have hback := a.move_move_neg d
    rwa [hzero, Address.move_zero] at hback
  rwa [hsame]

end Table

/-- What was corrected within bounds can be undone: no entry of the extent is null, so none gets
lost. -/
theorem BoundedImage.correctedBy_neg_of_correct_eq_ok {b : BoundedImage} {table after : Table}
    {place : Address} {n : Nat} (hstart : b.extent.start ≠ .null)
    (h : (b.correct table place).value = (.ok n, after)) :
    after.correctedBy place (-b.drift) = table := by
  obtain ⟨hclean, hbare⟩ := (b.value_correct_eq_ok_iff table).1 h
  have hafter : after = table.correctedBy place b.drift := (congrArg Prod.snd hbare).symm
  rw [hafter, Table.correctedBy_neg_iff]
  intro a ha hlive hnull
  refine hclean a ha ((b.isStray_iff a).2 ⟨hlive, ?_⟩)
  rw [hnull]
  exact Extent.null_not_mem hstart

/-- Two corrections are one by the sum of their distances if and only if the second distance is
zero or the first one leads no live entry to null. The opposite distance restores a table if and
only if it is not itself, as a word, one of the live entries. After a correction within the bounds
of an extent that does not start at null it always does. -/
theorem Table.correctedBy_adds_and_undoes (table : Table) (place : Address) :
    (∀ d e : Int64,
        (table.correctedBy place d).correctedBy place e = table.correctedBy place (d + e) ↔
          e = 0 ∨ ∀ a ∈ table, a ≠ .null → a.move d ≠ .null) ∧
      (∀ d : Int64, (table.correctedBy place d).correctedBy place (-d) = table ↔
        ∀ a ∈ table, a ≠ .null → a.word ≠ (-d).toUInt64) ∧
      ∀ b : BoundedImage, b.extent.start ≠ .null → ∀ n after,
        (b.correct table place).value = (.ok n, after) →
          after.correctedBy place (-b.drift) = table := by
  refine ⟨table.correctedBy_correctedBy_iff place, fun d => ?_, fun b hstart n after h =>
    BoundedImage.correctedBy_neg_of_correct_eq_ok hstart h⟩
  simp only [correctedBy_neg_iff, ne_eq, Address.move_eq_null_iff]

/-- An image that has moved down by `0x8000`. What it has corrected within its bounds is restored,
but in another table the same distance loses the entry `0x8000`. -/
theorem Table.correctedBy_adds_and_undoes_relocated :
    (BoundedImage.relocated ⟨0x9000⟩ ⟨0x1000⟩).extent.start ≠ .null ∧
      ((BoundedImage.relocated ⟨0x9000⟩ ⟨0x1000⟩).correct [⟨0x9010⟩, .null] ⟨0x7000⟩).value =
        (.ok 1, [⟨0x1010⟩, .null]) ∧
      Table.correctedBy [⟨0x1010⟩, .null] ⟨0x7000⟩
          (-(BoundedImage.relocated ⟨0x9000⟩ ⟨0x1000⟩).drift) = [⟨0x9010⟩, .null] ∧
      (Table.correctedBy [⟨0x9010⟩, ⟨0x8000⟩] ⟨0x7000⟩ (-0x8000)).correctedBy ⟨0x7000⟩
          (- -0x8000) ≠ [⟨0x9010⟩, ⟨0x8000⟩] := by
  obtain ⟨-, -, hundo⟩ := correctedBy_adds_and_undoes [⟨0x9010⟩, .null] ⟨0x7000⟩
  obtain ⟨-, hneg, -⟩ := correctedBy_adds_and_undoes [⟨0x9010⟩, ⟨0x8000⟩] ⟨0x7000⟩
  have hstart : (BoundedImage.relocated ⟨0x9000⟩ ⟨0x1000⟩).extent.start ≠ .null := by decide
  have hok : ((BoundedImage.relocated ⟨0x9000⟩ ⟨0x1000⟩).correct [⟨0x9010⟩, .null]
      ⟨0x7000⟩).value = (.ok 1, [⟨0x1010⟩, .null]) := rfl
  exact ⟨hstart, hok, hundo _ hstart _ _ hok, mt (hneg (-0x8000)).1 (by decide)⟩

end LoadedImage
