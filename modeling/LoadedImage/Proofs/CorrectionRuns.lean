import LoadedImage.Proofs.TableCorrection
import Mathlib.Algebra.GroupWithZero.Nat

/-!
# Runs of table corrections

A table can be corrected again and again, each time by another bounded image, and the run
goes on after a refusal (`BoundedImage.correctAll`). What is left of a run is its sum: live
entries have moved by the sum of the drifts of the images that were not refused, and lie in
the extent of the last of these (`BoundedImage.correctAll_summary`).

The reason is that a live entry stays live. Null marks an absent entry, so an entry that
moved to the null address would be passed over by the rest of the run. An extent that does
not start at null does not contain it, and what would move there is stray.
-/

namespace LoadedImage

/-! ## Tables that move -/

/-- The live entries of the table have moved by the distance and are live still; the others
have stayed null. -/
def Table.MovedBy (d : Int64) (table after : Table) : Prop :=
  List.Forall₂
    (fun old new => if old = .null then new = .null else new ≠ .null ∧ new = old.move d)
    table after

namespace Table.MovedBy

variable {d e : Int64} {table mid after : Table}

theorem refl (table : Table) : MovedBy 0 table table := by
  refine List.forall₂_same.2 fun a _ => ?_
  split
  · assumption
  · next hlive => exact ⟨hlive, a.move_zero.symm⟩

theorem eq_of_zero (h : MovedBy 0 table after) : after = table := by
  induction h with
  | nil => rfl
  | @cons old new _ _ hentry _ ih =>
    split at hentry
    · next hnull => rw [hentry, hnull, ih]
    · rw [hentry.2, Address.move_zero, ih]

/-- Distances add up, for no entry that moves gets lost on the way. -/
theorem trans (h : MovedBy d table mid) (h' : MovedBy e mid after) :
    MovedBy (d + e) table after := by
  induction h generalizing after with
  | nil =>
    cases h'
    exact .nil
  | cons hentry _ ih =>
    cases h' with
    | cons hentry' hrest' =>
      refine .cons ?_ (ih hrest')
      split at hentry
      · next hnull =>
        rw [if_pos hentry] at hentry'
        rwa [if_pos hnull]
      · next hlive =>
        rw [if_neg hentry.1] at hentry'
        rw [if_neg hlive, ← Address.move_move, ← hentry.2]
        exact hentry'

theorem liveCount_eq (h : MovedBy d table after) :
    Bias.liveCount after = Bias.liveCount table := by
  unfold Bias.liveCount
  induction h with
  | nil => rfl
  | cons hentry _ ih =>
    rw [List.countP_cons, List.countP_cons, ih]
    split at hentry
    · next hnull => rw [hentry, hnull]
    · next hlive => simp [hlive, hentry.1]

end Table.MovedBy

/-! ## One correction -/

namespace BoundedImage

variable {b : BoundedImage} {table : Table} {place : Address}

theorem movedBy_correct (hstart : b.extent.start ≠ .null)
    (h : ∀ a ∈ table, ¬b.IsStray a) :
    table.MovedBy b.drift (b.bias.correct table place).value.2 := by
  refine (b.forall₂_correct_of_not_stray table h).imp fun old new hentry => ?_
  split at hentry
  · next hnull => rwa [if_pos hnull]
  · next hlive =>
    rw [if_neg hlive]
    refine ⟨?_, hentry.1⟩
    rintro rfl
    exact Extent.null_not_mem hstart hentry.2

theorem mem_extent_of_mem_correct (h : ∀ a ∈ table, ¬b.IsStray a) {a : Address}
    (ha : a ∈ (b.bias.correct table place).value.2) (hlive : a ≠ .null) : a ∈ b.extent := by
  rw [Bias.table_correct] at ha
  obtain ⟨old, hold, rfl⟩ := List.mem_map.1 ha
  have hentry := b.correctEntry_of_not_stray (h old hold)
  split at hentry
  · exact absurd hentry hlive
  · exact hentry.2

/-! ## Runs -/

/-- Corrects the table that lies at `place` by one image after the other, whatever comes of
each; answers the outcomes and the table after. -/
def correctAll (place : Address) :
    List BoundedImage → Table → Traced (List (Except Fault Nat) × Table)
  | [], table => pure ([], table)
  | b :: bs, table => do
    let (outcome, after) ← b.correct table place
    let (outcomes, last) ← correctAll place bs after
    pure (outcome :: outcomes, last)

/-- The images that were not refused. -/
def succeeded (bs : List BoundedImage) (outcomes : List (Except Fault Nat)) :
    List BoundedImage :=
  ((bs.zip outcomes).filter fun p => p.2.isOk).map Prod.fst

/-- What is left of a run: an outcome for each image; a table whose live entries have moved
by the sum of the drifts of the images that were not refused; as many corrections as there
are live entries for each of these images that has drifted; and live entries in the extent
of the last of them. -/
structure RunSummary (bs : List BoundedImage) (table : Table)
    (outcomes : List (Except Fault Nat)) (after : Table) : Prop where
  length_outcomes : outcomes.length = bs.length
  moved : table.MovedBy ((succeeded bs outcomes).map drift).sum after
  counts : (outcomes.filterMap Except.toOption).sum =
    Bias.liveCount table * (succeeded bs outcomes).countP (·.drift ≠ 0)
  inside : ∀ b, (succeeded bs outcomes).getLast? = some b →
    ∀ a ∈ after, a ≠ .null → a ∈ b.extent

namespace RunSummary

variable {bs : List BoundedImage} {mid after : Table} {outcomes : List (Except Fault Nat)}

theorem nil (table : Table) : RunSummary [] table [] table where
  length_outcomes := rfl
  moved := .refl table
  counts := rfl
  inside := nofun

/-- A refused correction leaves no trace but its outcome. -/
theorem cons_error (fault : Fault) (h : RunSummary bs table outcomes after) :
    RunSummary (b :: bs) table (.error fault :: outcomes) after where
  length_outcomes := congrArg (· + 1) h.length_outcomes
  moved := h.moved
  counts := h.counts
  inside := h.inside

/-- A correction that is not refused adds its drift and its count. -/
theorem cons_ok {n : Nat} (hmoved : table.MovedBy b.drift mid)
    (hcount : n = if b.drift = 0 then 0 else Bias.liveCount table)
    (hinside : ∀ a ∈ mid, a ≠ .null → a ∈ b.extent) (h : RunSummary bs mid outcomes after) :
    RunSummary (b :: bs) table (.ok n :: outcomes) after := by
  have hsucceeded : succeeded (b :: bs) (.ok n :: outcomes) = b :: succeeded bs outcomes := rfl
  refine ⟨congrArg (· + 1) h.length_outcomes, ?_, ?_, ?_⟩
  · rw [hsucceeded, List.map_cons, List.sum_cons]
    exact hmoved.trans h.moved
  · have hrest := h.counts
    rw [hmoved.liveCount_eq] at hrest
    rw [hsucceeded, List.countP_cons, Nat.mul_add, ← hrest, hcount]
    by_cases hdrift : b.drift = 0 <;> simp [hdrift, Except.toOption, Nat.add_comm]
  · intro c hc
    rw [hsucceeded] at hc
    cases hlater : succeeded bs outcomes with
    | nil =>
      -- the rest of the run was refused, so the table is still where `b` has put it
      have hsame := h.moved
      rw [hlater] at hsame hc
      obtain rfl := Option.some.inj hc
      rwa [Table.MovedBy.eq_of_zero hsame]
    | cons d later =>
      rw [hlater, List.getLast?_cons_cons, ← hlater] at hc
      exact h.inside c hc

end RunSummary

/-- A run over images whose extents do not start at null ends with the sum of what was not
refused. -/
theorem correctAll_summary (bs : List BoundedImage) (table : Table) (place : Address)
    (hstart : ∀ b ∈ bs, b.extent.start ≠ .null) :
    RunSummary bs table (correctAll place bs table).value.1
      (correctAll place bs table).value.2 := by
  -- the table varies: what is left to run starts from what the first image has left
  induction bs generalizing table with
  | nil => exact .nil table
  | cons b bs ih =>
    have hrest := fun mid => ih mid fun c hc => hstart c (List.mem_cons_of_mem b hc)
    by_cases hstray : ∃ a ∈ table, b.IsStray a
    · obtain ⟨k, a, hfirst⟩ := b.exists_firstStray table hstray
      rw [correctAll, b.correct_of_firstStray table hfirst]
      exact (hrest table).cons_error _
    · have hclean : ∀ a ∈ table, ¬b.IsStray a := fun a ha hs => hstray ⟨a, ha, hs⟩
      rw [correctAll, b.correct_of_not_stray table hclean]
      have hcount := b.bias.count_correct table place
      simp only [bias_eq_zero_iff] at hcount
      exact .cons_ok (movedBy_correct (hstart b List.mem_cons_self) hclean) hcount
        (fun a => mem_extent_of_mem_correct hclean) (hrest _)

/-- An image that has moved from one address to another, with 256 bytes from its header on. -/
def relocated (linked loaded : Address) : BoundedImage where
  image := ⟨{ Header.zero with linkAddress := linked }, loaded⟩
  extent := ⟨loaded, 256⟩
  header_covered := by
    rw [Extent.covers_iff_toNat, Header.toNat_storedSize]
    exact ⟨Nat.le_refl _, Nat.add_le_add_left (show 80 ≤ 256 by decide) _⟩

/-- One image twice, and then one that takes over where the first has led to. -/
def relocatedTwice : List BoundedImage :=
  [relocated ⟨0x1000⟩ ⟨0x9000⟩, relocated ⟨0x1000⟩ ⟨0x9000⟩, relocated ⟨0x9000⟩ ⟨0x2000⟩]

/-- The second correction is refused, and the third starts from what the first has left. -/
theorem correctAll_summary_relocatedTwice :
    (∀ b ∈ relocatedTwice, b.extent.start ≠ .null) ∧
      (correctAll ⟨0x7000⟩ relocatedTwice [⟨0x1010⟩, .null, ⟨0x10f8⟩]).value =
        ([.ok 2, .error (.strayEntry 0 ⟨0x9010⟩ ⟨0x11010⟩ ⟨⟨0x9000⟩, 256⟩), .ok 2],
          [⟨0x2010⟩, .null, ⟨0x20f8⟩]) ∧
      RunSummary relocatedTwice [⟨0x1010⟩, .null, ⟨0x10f8⟩]
        (correctAll ⟨0x7000⟩ relocatedTwice [⟨0x1010⟩, .null, ⟨0x10f8⟩]).value.1
        (correctAll ⟨0x7000⟩ relocatedTwice [⟨0x1010⟩, .null, ⟨0x10f8⟩]).value.2 := by
  have hstart : ∀ b ∈ relocatedTwice, b.extent.start ≠ .null := by
    decide
  exact ⟨hstart, rfl, correctAll_summary relocatedTwice _ _ hstart⟩

/-- In an extent that starts at null an entry can get lost: moved to null, it is passed over
by the next correction. -/
example :
    (correctAll ⟨0x7000⟩ [relocated ⟨0x1000⟩ .null, relocated .null ⟨0x1000⟩] [⟨0x1000⟩]).value =
      ([.ok 1, .ok 0], [.null]) := rfl

end BoundedImage

end LoadedImage
