import LoadedImage.Proofs.CategoryNames
import Mathlib.Order.Basic

/-!
# The order of names

The names stand in the order of their bits, and behind all of them the one of a category without a
topic (`Category.nameOrder`). Where the name of a category stands is said by its topics alone: it is
behind a position if and only if no topic up to there is set (`Category.lt_place_iff`). So bits
without a topic never count, and as a union has the topics of both categories, its name stands
where the first of the two names does (`Category.place_union`).
`Category.name_tells_lowest_topic` puts this together.
-/

namespace LoadedImage

theorem Topic.index_lt_length_all (t : Topic) : t.index < all.length := by
  cases t <;> decide

namespace Category

variable {c d : Category} {t : Topic} {k : Nat}

/-! ## Set operations by bits -/

theorem hasBit_diff : (c.diff d).HasBit k ↔ c.HasBit k ∧ ¬ d.HasBit k := by
  -- the complement sets the bits of the word only, but no bit of `c` lies outside of it
  have hwidth : c.bits.toBitVec.getLsbD k = true → k < 32 := BitVec.lt_of_getLsbD
  change (c.bits &&& ~~~d.bits).toBitVec.getLsbD k = true ↔
    c.bits.toBitVec.getLsbD k = true ∧ ¬ d.bits.toBitVec.getLsbD k = true
  simp only [UInt32.toBitVec_and, UInt32.toBitVec_not, BitVec.getLsbD_and, BitVec.getLsbD_not,
    Bool.and_eq_true, decide_eq_true_eq, Bool.not_eq_true, Bool.not_eq_true']
  exact and_congr_right fun hc => and_iff_right (hwidth hc)

theorem mem_union : t ∈ c.union d ↔ t ∈ c ∨ t ∈ d := by
  simp only [mem_iff_hasBit, hasBit_union]

theorem mem_diff : t ∈ c.diff d ↔ t ∈ c ∧ t ∉ d := by
  simp only [mem_iff_hasBit, hasBit_diff]

/-- Bits without a topic can be put in and taken out, and the topics stay. -/
theorem mem_set_of_forall_not_mem (hd : ∀ t, t ∉ d) (present : Bool) :
    t ∈ c.set d present ↔ t ∈ c := by
  cases present with
  | true => exact mem_union.trans (or_iff_left (hd t))
  | false => exact mem_diff.trans (and_iff_left (hd t))

/-! ## Places -/

/-- The names in the order of their bits, then the name of a category without a topic. -/
def nameOrder : List String := Topic.all.map Topic.name ++ ["none"]

/-- The place of the name: the position of the lowest topic, or the one behind all topics. -/
def place (c : Category) : Nat := (c.lowest?.map Topic.index).getD Topic.all.length

theorem getElem?_nameOrder_place (c : Category) : nameOrder[c.place]? = some c.name := by
  unfold place name
  cases c.lowest? with
  | none => rfl
  | some t => cases t <;> rfl

theorem idxOf_name (c : Category) : nameOrder.idxOf c.name = c.place := by
  have hnodup : nameOrder.Nodup := by decide
  obtain ⟨hplace, hname⟩ := List.getElem?_eq_some_iff.1 c.getElem?_nameOrder_place
  rw [← hname, hnodup.idxOf_getElem]

theorem name_eq_of_place_eq (h : c.place = d.place) : c.name = d.name := by
  have hnames := d.getElem?_nameOrder_place
  rw [← h, getElem?_nameOrder_place] at hnames
  exact Option.some.inj hnames

/-- The place is behind a position if no topic up to there is set. -/
theorem lt_place_iff :
    k < c.place ↔ k < Topic.all.length ∧ ∀ t : Topic, t.index ≤ k → t ∉ c := by
  unfold place
  cases hl : c.lowest? with
  | none =>
    have hnone := lowest?_eq_none_iff.1 hl
    exact (and_iff_left fun t _ => hnone t).symm
  | some l =>
    obtain ⟨hmem, hbelow⟩ := lowest?_eq_some_iff.1 hl
    constructor
    · intro hk
      exact ⟨Nat.lt_trans hk l.index_lt_length_all,
        fun t ht => hbelow t (Nat.lt_of_le_of_lt ht hk)⟩
    · rintro ⟨-, hclear⟩
      exact Nat.lt_of_not_le fun hle => hclear l hle hmem

theorem place_congr (h : ∀ t, t ∈ c ↔ t ∈ d) : c.place = d.place := by
  refine eq_of_forall_lt_iff fun k => ?_
  simp only [lt_place_iff, h]

theorem place_union (c d : Category) : (c.union d).place = min c.place d.place := by
  refine eq_of_forall_lt_iff fun k => ?_
  simp only [Nat.lt_min, lt_place_iff, mem_union, not_or, imp_and, forall_and]
  exact and_and_left

/-! ## Names -/

/-- The name that comes first in the order. -/
def firstName (n m : String) : String :=
  if nameOrder.idxOf n ≤ nameOrder.idxOf m then n else m

theorem name_union (c d : Category) : (c.union d).name = firstName c.name d.name := by
  have hunion := place_union c d
  unfold firstName
  rw [idxOf_name, idxOf_name]
  split
  · next hle => exact name_eq_of_place_eq (hunion.trans (Nat.min_eq_left hle))
  · next hlt => exact name_eq_of_place_eq (hunion.trans (Nat.min_eq_right (Nat.le_of_not_le hlt)))

/-- The name of a category is that of a topic if and only if the bit of this topic is set and no bit
of a topic below it, and it is the name of an empty one if and only if no topic has its bit set.
Bits without a topic can be put in and taken out, and the name stays. The name of a union is the one
of the two names that comes first. -/
theorem name_tells_lowest_topic (c : Category) :
    (∀ t : Topic, c.name = t.name ↔
        c.HasBit t.index ∧ ∀ t' : Topic, t'.index < t.index → ¬ c.HasBit t'.index) ∧
      (c.name = "none" ↔ ∀ t : Topic, ¬ c.HasBit t.index) ∧
      (∀ extra : Category, (∀ t : Topic, ¬ extra.HasBit t.index) →
        ∀ present, (c.set extra present).name = c.name) ∧
      ∀ d, (c.union d).name = firstName c.name d.name := by
  simp only [← mem_iff_hasBit]
  refine ⟨fun t => ?_, ?_, fun extra hextra present => ?_, c.name_union⟩
  · rw [name_eq_topic_name_iff, lowest?_eq_some_iff]
  · rw [name_eq_none_iff, lowest?_eq_none_iff]
  · exact name_eq_of_place_eq (place_congr fun _ => mem_set_of_forall_not_mem hextra present)

/-- The topics of memory and tasks with two bits that have no topic, another one of these put in and
one taken out. In a union with the topic of errors the name is that of errors. -/
theorem name_tells_lowest_topic_twoTopics :
    let c : Category := ⟨0x8000100a⟩
    (∀ t : Topic, ¬ (⟨0x40001000⟩ : Category).HasBit t.index) ∧
      (c.set ⟨0x40001000⟩ true).name = "mem" ∧
      (c.set ⟨0x40001000⟩ false).name = "mem" ∧
      (c.union (single .err)).name = "err" := by
  intro c
  obtain ⟨-, -, hextra, hunion⟩ := name_tells_lowest_topic c
  have hclear : ∀ t : Topic, ¬ (⟨0x40001000⟩ : Category).HasBit t.index := by
    intro t
    cases t <;> exact Bool.false_ne_true
  have hname : c.name = "mem" := by decide
  have hfirst : firstName c.name (single .err).name = "err" := by decide
  exact ⟨hclear, (hextra _ hclear true).trans hname, (hextra _ hclear false).trans hname,
    (hunion (single .err)).trans hfirst⟩

end Category

end LoadedImage
