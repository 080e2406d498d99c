import LoadedImage.BoundedImage
import Mathlib.Data.List.Forall2
import Mathlib.Tactic.ByContra

/-!
# Correcting a table within bounds

A bias corrects a table entry by entry, on its short way for a bias of zero as well as on
the long one (`Bias.table_correct`). A bounded image first searches the table for an entry
that would leave the extent. `BoundedImage.firstStray?_eq_some_iff` says that the search
finds the first such entry there is, and `BoundedImage.correct_all_or_nothing` what comes of
it: without stray entries the table is corrected as the bare image does it and lies in the
extent afterwards; otherwise it stays as it was, and the first stray entry is reported. A
bias of zero makes no difference to this, and neither does the place the table lies at
(`Bias.value_correct_place`).
-/

namespace LoadedImage

namespace Bias

theorem correctEntry_null (b : Bias) : b.correctEntry .null = .null :=
  if_pos rfl

theorem correctEntry_of_ne_null (b : Bias) {a : Address} (h : a ≠ .null) :
    b.correctEntry a = b.apply a :=
  if_neg h

theorem apply_zero (a : Address) : zero.apply a = a :=
  a.move_zero

theorem correctEntry_zero (a : Address) : zero.correctEntry a = a := by
  rw [correctEntry, apply_zero, ite_self]

/-- The short way for a bias of zero leaves the same table as the long one. -/
theorem table_correct (b : Bias) (table : Table) (place : Address) :
    (b.correct table place).value.2 = table.map b.correctEntry := by
  unfold correct
  split
  · next h =>
    rw [h, Traced.value_pure, funext correctEntry_zero]
    exact (List.map_id' table).symm
  · rfl

theorem count_correct (b : Bias) (table : Table) (place : Address) :
    (b.correct table place).value.1 = if b = .zero then 0 else liveCount table := by
  unfold correct
  split <;> rfl

/-- Where the table lies is told to the log alone. -/
theorem value_correct_place (b : Bias) (table : Table) (p q : Address) :
    (b.correct table p).value = (b.correct table q).value := by
  refine Prod.ext ?_ ?_
  · rw [count_correct, count_correct]
  · rw [table_correct, table_correct]

end Bias

namespace BoundedImage

variable (b : BoundedImage) (table : Table) {place : Address}

/-! ## The search for a stray entry -/

theorem isStray_iff (a : Address) :
    b.IsStray a ↔ a ≠ .null ∧ a.move b.drift ∉ b.extent := Iff.rfl

/-- The entry at the index is stray, and no entry before it is. -/
structure FirstStray (index : Nat) (entry : Address) : Prop where
  getElem?_eq : table[index]? = some entry
  stray : b.IsStray entry
  not_stray_before : ∀ j < index, ∀ a, table[j]? = some a → ¬b.IsStray a

theorem firstStray?_eq_none_iff :
    b.firstStray? table = none ↔ ∀ a ∈ table, ¬b.IsStray a := by
  unfold firstStray?
  rw [List.find?_eq_none]
  refine ⟨?_, ?_⟩
  · intro h a ha
    obtain ⟨k, hk, rfl⟩ := List.getElem_of_mem ha
    simpa using h _ (List.mk_mem_zipIdx_iff_getElem?.2 (List.getElem?_eq_getElem hk))
  · rintro h ⟨a, k⟩ hak
    simpa using h a (List.fst_mem_of_mem_zipIdx hak)

theorem firstStray?_eq_some_iff (k : Nat) (a : Address) :
    b.firstStray? table = some (a, k) ↔ b.FirstStray table k a := by
  unfold firstStray?
  rw [List.find?_eq_some_iff_getElem]
  refine ⟨?_, ?_⟩
  · rintro ⟨hstray, i, hi, hik, hbefore⟩
    rw [List.getElem_zipIdx, Nat.zero_add] at hik
    obtain ⟨ha, rfl⟩ := Prod.mk.inj hik
    have hi' : i < table.length := by simpa using hi
    refine ⟨by rw [List.getElem?_eq_getElem hi', ha], of_decide_eq_true hstray, ?_⟩
    intro j hj c hc
    obtain ⟨hj', rfl⟩ := List.getElem?_eq_some_iff.1 hc
    simpa using hbefore j hj
  · intro h
    obtain ⟨hk, rfl⟩ := List.getElem?_eq_some_iff.1 h.getElem?_eq
    refine ⟨decide_eq_true h.stray, k, by simpa using hk, by simp, ?_⟩
    intro j hj
    have hj' : j < table.length := by omega
    simpa using h.not_stray_before j hj _ (List.getElem?_eq_getElem hj')

/-! ## The outcome -/

theorem correct_of_not_stray (h : ∀ a ∈ table, ¬b.IsStray a) :
    b.correct table place = (fun p => (.ok p.1, p.2)) <$> b.bias.correct table place := by
  rw [correct, (b.firstStray?_eq_none_iff table).2 h]
  rfl

theorem correct_of_firstStray {k : Nat} {a : Address} (h : b.FirstStray table k a) :
    b.correct table place =
      pure (.error (.strayEntry k a (a.move b.drift) b.extent), table) := by
  rw [correct, (b.firstStray?_eq_some_iff table k a).2 h]
  rfl

theorem not_stray_or_firstStray :
    (∀ a ∈ table, ¬b.IsStray a) ∨ ∃ k a, b.FirstStray table k a := by
  cases hf : b.firstStray? table with
  | none => exact .inl ((b.firstStray?_eq_none_iff table).1 hf)
  | some p => exact .inr ⟨p.2, p.1, (b.firstStray?_eq_some_iff table p.2 p.1).1 hf⟩

theorem exists_firstStray (h : ∃ a ∈ table, b.IsStray a) : ∃ k a, b.FirstStray table k a := by
  obtain ⟨a, ha, hstray⟩ := h
  exact (b.not_stray_or_firstStray table).resolve_left fun hclean => hclean a ha hstray

theorem exists_correct_eq_ok_iff :
    (∃ n, (b.correct table place).value.1 = .ok n) ↔ ∀ a ∈ table, ¬b.IsStray a := by
  refine ⟨?_, ?_⟩
  · rintro ⟨n, hn⟩ a ha hstray
    obtain ⟨k, c, hfirst⟩ := b.exists_firstStray table ⟨a, ha, hstray⟩
    rw [b.correct_of_firstStray table hfirst, Traced.value_pure] at hn
    cases hn
  · intro h
    exact ⟨_, by rw [b.correct_of_not_stray table h, Traced.value_map]⟩

/-- What it means that a table was corrected: the bare image corrects it so, and nothing in it
was stray. -/
theorem value_correct_eq_ok_iff {n : Nat} {after : Table} :
    (b.correct table place).value = (.ok n, after) ↔
      (∀ a ∈ table, ¬b.IsStray a) ∧ (b.bias.correct table place).value = (n, after) := by
  constructor
  · intro h
    have hclean := (b.exists_correct_eq_ok_iff table).1 ⟨n, congrArg Prod.fst h⟩
    rw [b.correct_of_not_stray table hclean, Traced.value_map, Prod.mk.injEq] at h
    exact ⟨hclean, Prod.ext (Except.ok.inj h.1) h.2⟩
  · rintro ⟨hclean, hbare⟩
    rw [b.correct_of_not_stray table hclean, Traced.value_map, hbare]

/-- What it means that a table was refused: it has a first stray entry, and is as it was. -/
theorem value_correct_eq_error_iff {fault : Fault} {after : Table} :
    (b.correct table place).value = (.error fault, after) ↔
      ∃ k a, b.FirstStray table k a ∧
        fault = .strayEntry k a (a.move b.drift) b.extent ∧ after = table := by
  constructor
  · intro h
    rcases b.not_stray_or_firstStray table with hclean | ⟨k, a, hfirst⟩
    · rw [b.correct_of_not_stray table hclean, Traced.value_map] at h
      cases congrArg Prod.fst h
    · rw [b.correct_of_firstStray table hfirst, Traced.value_pure, Prod.mk.injEq] at h
      exact ⟨k, a, hfirst, (Except.error.inj h.1).symm, h.2.symm⟩
  · rintro ⟨k, a, hfirst, hfault, hafter⟩
    rw [b.correct_of_firstStray table hfirst, Traced.value_pure, hfault, hafter]

/-- An entry that is not stray is corrected to null if it is null, and else moved by the
drift to an address of the extent. -/
theorem correctEntry_of_not_stray {a : Address} (h : ¬b.IsStray a) :
    if a = .null then b.bias.correctEntry a = .null
    else b.bias.correctEntry a = a.move b.drift ∧ b.bias.correctEntry a ∈ b.extent := by
  split
  · next ha =>
    rw [ha, Bias.correctEntry_null]
  · next ha =>
    rw [b.bias.correctEntry_of_ne_null ha]
    refine ⟨rfl, ?_⟩
    by_contra hout
    exact h ⟨ha, hout⟩

theorem bias_eq_zero_of_drift (h : b.drift = 0) : b.bias = .zero :=
  congrArg Bias.mk h

theorem bias_eq_zero_iff : b.bias = .zero ↔ b.drift = 0 :=
  ⟨congrArg Bias.distance, b.bias_eq_zero_of_drift⟩

theorem move_drift (a : Address) : a.move b.drift = b.bias.apply a := rfl

/-- Without stray entries the table is corrected as the bare image corrects it, and its live
entries lie in the extent then. -/
theorem forall₂_correct_of_not_stray (h : ∀ a ∈ table, ¬b.IsStray a) :
    List.Forall₂
      (fun old new =>
        if old = .null then new = .null else new = old.move b.drift ∧ new ∈ b.extent)
      table (b.bias.correct table place).value.2 := by
  rw [Bias.table_correct, List.forall₂_map_right_iff, List.forall₂_same]
  intro a ha
  exact b.correctEntry_of_not_stray (h a ha)

/-- The table is corrected as a whole or not at all: as the bare image corrects it if no
entry is stray, and else it is left as it was and its first stray entry is reported. This
goes for an image without drift too, for which the correction itself does nothing. -/
theorem correct_all_or_nothing (place : Address) :
    (∀ a, b.IsStray a ↔ a ≠ .null ∧ a.move b.drift ∉ b.extent) ∧
      ((∀ a ∈ table, ¬b.IsStray a) →
        ∃ n after, (b.bias.correct table place).value = (n, after) ∧
          (b.correct table place).value = (.ok n, after) ∧
          (b.correct table place).events = (b.bias.correct table place).events ∧
          List.Forall₂
            (fun old new =>
              if old = .null then new = .null
              else new = old.move b.drift ∧ new ∈ b.extent)
            table after) ∧
      ((∃ a ∈ table, b.IsStray a) →
        ∃ k a fault, b.FirstStray table k a ∧ b.correct table place = pure (.error fault, table) ∧
          fault = .strayEntry k a (a.move b.drift) b.extent ∧ fault.kind = .relocation ∧
          fault.detail =
            "entry " ++ Radix.decimal.write k ++ ": " ++ a.shortText ++ " relocates to " ++
              (a.move b.drift).text ++ ", " ++ "outside image " ++ b.extent.text) ∧
      (b.drift = 0 →
        b.bias.correct table place = pure (0, table) ∧
          ((∃ a ∈ table, a ≠ .null ∧ a ∉ b.extent) →
            ∃ fault, b.correct table place = pure (.error fault, table))) := by
  refine ⟨b.isStray_iff, ?_, ?_, ?_⟩
  · intro h
    refine ⟨_, _, rfl, ?_, ?_, b.forall₂_correct_of_not_stray table h⟩
    · rw [b.correct_of_not_stray table h, Traced.value_map]
    · rw [b.correct_of_not_stray table h, Traced.events_map]
  · intro h
    obtain ⟨k, a, hfirst⟩ := b.exists_firstStray table h
    exact ⟨k, a, _, hfirst, b.correct_of_firstStray table hfirst, rfl, rfl, rfl⟩
  · intro hdrift
    have hzero := b.bias_eq_zero_of_drift hdrift
    refine ⟨if_pos hzero, ?_⟩
    rintro ⟨a, ha, hlive, hout⟩
    have hstray : b.IsStray a := by
      rw [isStray_iff, move_drift, hzero, Bias.apply_zero]
      exact ⟨hlive, hout⟩
    obtain ⟨k, c, hfirst⟩ := b.exists_firstStray table ⟨a, ha, hstray⟩
    exact ⟨_, b.correct_of_firstStray table hfirst⟩

end BoundedImage

end LoadedImage
