import LoadedImage.Diagnostics.Sink
import Mathlib.Data.List.Basic

/-!
# Stacks of filters

A filter hands a record on if its category shares a bit with the mask, and what stands behind it
may be anything that takes records, another filter among others (`Handler`). What arrives behind
a stack of filters are the records that share a bit with every mask, as they were and in order
(`Handler.stack_delivers`); so neither the order of the masks nor a repeated one makes a
difference.

One filter with the bits that all masks have in common is not the same as the stack. A record
that passes it shares one bit with all masks at once, while one that passes the stack may share
another bit with each. With one bit to a record there is no difference
(`Record.passesAll_iff_of_atMostOneBit`).
-/

namespace LoadedImage

/-! ## Bits of a category -/

namespace Category

variable {c d e : Category} {k : Nat}

/-- The bit at the position is set, whether it has a topic or not. -/
def HasBit (c : Category) (k : Nat) : Prop :=
  c.bits.toNat.testBit k = true

/-- Some position is set in both categories. -/
def SharesBit (c d : Category) : Prop :=
  ∃ k, c.HasBit k ∧ d.HasBit k

/-- No two positions are set. -/
def AtMostOneBit (c : Category) : Prop :=
  ∀ j k, c.HasBit j → c.HasBit k → j = k

/-- The bits that are set in the first mask and in all the others. -/
def interAll (mask : Category) (masks : List Category) : Category :=
  masks.foldl inter mask

theorem hasBit_inter : (c.inter d).HasBit k ↔ c.HasBit k ∧ d.HasBit k := by
  simp [HasBit, inter]

theorem hasBit_union : (c.union d).HasBit k ↔ c.HasBit k ∨ d.HasBit k := by
  simp [HasBit, union]

theorem ne_empty_iff : c ≠ empty ↔ ∃ k, c.HasBit k := by
  refine ⟨fun h => ?_, ?_⟩
  · refine Nat.exists_testBit_of_ne_zero fun hzero => h ?_
    exact congrArg mk (UInt32.toNat_inj.1 hzero)
  · rintro ⟨k, hk⟩ rfl
    simp [HasBit, empty] at hk

theorem meets_iff_sharesBit : c.Meets d ↔ c.SharesBit d := by
  simp only [Meets, ne_empty_iff, hasBit_inter, SharesBit]

/-- A category meets a union if it meets one of the parts. -/
theorem meets_union_iff : c.Meets (d.union e) ↔ c.Meets d ∨ c.Meets e := by
  simp only [meets_iff_sharesBit, SharesBit, hasBit_union, and_or_left, exists_or]

/-- Whether a bit is shared can be decided by the test for a common bit. -/
instance (c d : Category) : Decidable (c.SharesBit d) :=
  decidable_of_iff (c.Meets d) meets_iff_sharesBit

theorem hasBit_interAll (mask : Category) (masks : List Category) :
    (interAll mask masks).HasBit k ↔ ∀ m ∈ mask :: masks, m.HasBit k := by
  unfold interAll
  induction masks generalizing mask with
  | nil => simp
  | cons m masks ih => simp [ih, hasBit_inter, and_assoc]

end Category

/-! ## Records that pass -/

namespace Record

/-- The category of the record shares a bit with every mask. -/
def PassesAll (masks : List Category) (r : Record) : Prop :=
  ∀ mask ∈ masks, mask.SharesBit r.category

instance (masks : List Category) : DecidablePred (PassesAll masks) := fun r =>
  inferInstanceAs (Decidable (∀ mask ∈ masks, mask.SharesBit r.category))

theorem passesAll_singleton {mask : Category} {r : Record} :
    r.PassesAll [mask] ↔ mask.SharesBit r.category := by
  simp [PassesAll]

variable {mask : Category} {masks : List Category} {r : Record}

/-- A bit that is shared with what all masks have in common is shared with each of them. -/
theorem passesAll_of_interAll (h : (Category.interAll mask masks).SharesBit r.category) :
    r.PassesAll (mask :: masks) := by
  obtain ⟨k, hall, hk⟩ := h
  exact fun m hm => ⟨k, (Category.hasBit_interAll mask masks).1 hall m hm, hk⟩

/-- A single bit that is shared with every mask is one that all masks have in common. -/
theorem passesAll_iff_of_atMostOneBit (h : r.category.AtMostOneBit) :
    r.PassesAll (mask :: masks) ↔ (Category.interAll mask masks).SharesBit r.category := by
  refine ⟨fun hall => ?_, passesAll_of_interAll⟩
  obtain ⟨k, -, hk⟩ := hall mask List.mem_cons_self
  refine ⟨k, (Category.hasBit_interAll mask masks).2 fun m hm => ?_, hk⟩
  obtain ⟨j, hj, hjr⟩ := hall m hm
  rwa [h k j hk hjr]

end Record

/-! ## Handlers -/

/-- Anything that takes records, one at a time, with effects of its own. -/
abbrev Handler (m : Type → Type) := Record → m Unit

namespace Handler

variable {m : Type → Type} [Monad m]

/-- A filter in front of a handler. -/
def filtered (inner : Handler m) (mask : Category) : Handler m := fun r =>
  if mask.Meets r.category then inner r else pure ()

/-- A handler behind filters, the first mask innermost. -/
def stack (inner : Handler m) (masks : List Category) : Handler m :=
  masks.foldl filtered inner

/-- Of the records the outer handler is given, the inner one is given those with the property:
as they are, in order, and each once. -/
def Delivers (outer inner : Handler m) (p : Record → Prop) [DecidablePred p] : Prop :=
  ∀ rs : List Record, forM rs outer = forM (rs.filter p) inner

theorem stack_apply (inner : Handler m) (masks : List Category) (r : Record) :
    inner.stack masks r = if r.PassesAll masks then inner r else pure () := by
  induction masks generalizing inner with
  | nil => simp [stack, Record.PassesAll]
  | cons mask masks ih =>
    rw [stack, List.foldl_cons, ← stack, ih]
    by_cases hmask : mask.SharesBit r.category
    · simp [filtered, Record.PassesAll, Category.meets_iff_sharesBit, hmask]
    · simp [filtered, Record.PassesAll, Category.meets_iff_sharesBit, hmask]

/-- Only the set of masks matters. -/
theorem stack_congr (inner : Handler m) {masks masks' : List Category}
    (h : ∀ mask, mask ∈ masks' ↔ mask ∈ masks) : inner.stack masks' = inner.stack masks := by
  funext r
  have hpasses : r.PassesAll masks' ↔ r.PassesAll masks :=
    forall_congr' fun mask => imp_congr_left (h mask)
  simp only [stack_apply, hpasses]

/-- A sink behind filters is a handler behind filters. -/
theorem send_stack_eq (sink : Sink) (masks : List Category) :
    (sink.stack masks).send = stack sink.send masks := by
  funext r
  rw [Sink.send_stack, stack_apply]
  exact if_congr (forall₂_congr fun _ _ => Category.meets_iff_sharesBit) rfl rfl

variable [LawfulMonad m]

theorem delivers_of_apply {outer inner : Handler m} {p : Record → Prop} [DecidablePred p]
    (h : ∀ r, outer r = if p r then inner r else pure ()) : outer.Delivers inner p := by
  intro rs
  induction rs with
  | nil => rfl
  | cons r rs ih =>
    rw [List.forM_cons, h, ih]
    by_cases hr : p r
    · simp [hr]
    · simp [hr]

theorem delivers_stack (inner : Handler m) (masks : List Category) :
    (inner.stack masks).Delivers inner (Record.PassesAll masks) :=
  delivers_of_apply (inner.stack_apply masks)

/-- What arrives at a recorder is what is delivered to it. -/
theorem records_forM_recorder (rs : List Record) : (forM rs Sink.recorder.send).records = rs := by
  induction rs with
  | nil => rfl
  | cons r rs ih =>
    rw [List.forM_cons, Traced.records_bind, ih]
    rfl

/-- Whatever stands behind a stack of filters, it is given the records whose category shares a
bit with every mask, in order and each once; so a recorder receives exactly these. The order and
the number of the masks do not matter. One filter with the bits that all masks of a stack have in
common delivers some of what the stack delivers, and all of it if no category has two bits. -/
theorem stack_delivers (inner : Handler m) (masks : List Category) :
    (inner.stack masks).Delivers inner (Record.PassesAll masks) ∧
      (∀ masks', (∀ mask, mask ∈ masks' ↔ mask ∈ masks) →
        inner.stack masks' = inner.stack masks) ∧
      (∀ mask,
        (inner.filtered (.interAll mask masks)).Delivers inner
            (Record.PassesAll [.interAll mask masks]) ∧
          ∀ rs : List Record,
            (rs.filter (Record.PassesAll [.interAll mask masks])).Sublist
                (rs.filter (Record.PassesAll (mask :: masks))) ∧
              ((∀ r ∈ rs, r.category.AtMostOneBit) →
                rs.filter (Record.PassesAll [.interAll mask masks]) =
                  rs.filter (Record.PassesAll (mask :: masks)))) ∧
      (∀ sink : Sink, (sink.stack masks).send = stack sink.send masks) ∧
      ∀ rs : List Record,
        (forM rs (Sink.recorder.stack masks).send).records =
          rs.filter (Record.PassesAll masks) := by
  refine ⟨inner.delivers_stack masks, fun _ h => inner.stack_congr h, fun mask => ?_,
    fun sink => send_stack_eq sink masks, fun rs => ?_⟩
  · refine ⟨inner.delivers_stack [.interAll mask masks], fun rs => ⟨?_, fun hone => ?_⟩⟩
    · refine List.monotone_filter_right rs fun r hr => decide_eq_true ?_
      exact Record.passesAll_of_interAll (Record.passesAll_singleton.1 (of_decide_eq_true hr))
    · refine List.filter_congr fun r hr => decide_eq_decide.2 ?_
      rw [Record.passesAll_singleton, Record.passesAll_iff_of_atMostOneBit (hone r hr)]
  · rw [send_stack_eq, delivers_stack, records_forM_recorder]

/-- Two masks with one bit in common, and a record that shares another bit with each: it passes
the stack, but not the one filter with the common bit. -/
theorem stack_delivers_twoMasks :
    let masks : List Category := [⟨3⟩, ⟨6⟩]
    let records : List Record := [⟨⟨5⟩, "both"⟩, ⟨⟨1⟩, "first"⟩, ⟨⟨2⟩, "common"⟩]
    forM records (stack Sink.recorder.send masks) =
        forM [⟨⟨5⟩, "both"⟩, ⟨⟨2⟩, "common"⟩] Sink.recorder.send ∧
      forM records (filtered Sink.recorder.send ⟨2⟩) =
        forM [⟨⟨2⟩, "common"⟩] Sink.recorder.send := by
  intro masks records
  have hstack := (stack_delivers Sink.recorder.send masks).1 records
  have hsingle := ((stack_delivers Sink.recorder.send [⟨6⟩]).2.2.1 ⟨3⟩).1 records
  exact ⟨hstack, hsingle⟩

end Handler

end LoadedImage
