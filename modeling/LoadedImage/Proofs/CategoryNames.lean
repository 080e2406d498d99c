import LoadedImage.Proofs.FilterStack
import LoadedImage.Proofs.TextParts
import Mathlib.Data.Nat.Bitwise

/-!
# Names of categories

A category is told by its bits, and a topic is in it if the bit of the topic is set
(`Category.mem_iff_hasBit`). The name of a category is that of the lowest topic in it, and as the
names are all different and none of them is the word for an empty set, it tells which topic that
is and whether there is one (`Category.name_eq_iff`). Put in brackets, no name begins another one,
so a text that begins with a bracketed name tells it (`Category.prefixFree_bracketed`).
-/

namespace LoadedImage

/-! ## Topics are bits -/

/-- The topics are listed in the order of their bits. -/
theorem Topic.getElem?_all_eq_some_iff {t : Topic} {k : Nat} :
    all[k]? = some t ↔ k = t.index := by
  have hindex : ∀ k : Fin all.length, all[k].index = k := by decide
  constructor
  · intro h
    obtain ⟨hk, rfl⟩ := List.getElem?_eq_some_iff.1 h
    exact (hindex ⟨k, hk⟩).symm
  · rintro rfl
    cases t <;> rfl

namespace Category

variable {c d : Category} {t : Topic} {k : Nat}

theorem ext_hasBit (h : ∀ k, c.HasBit k ↔ d.HasBit k) : c = d := by
  refine congrArg mk (UInt32.toNat_inj.1 (Nat.eq_of_testBit_eq fun k => ?_))
  exact Bool.eq_iff_iff.2 (h k)

theorem hasBit_single : (single t).HasBit k ↔ k = t.index := by
  have hbit : t.bit.toNat = 2 ^ t.index := by
    cases t <;> rfl
  unfold HasBit single
  rw [hbit, Nat.testBit_two_pow, decide_eq_true_eq, eq_comm]

/-- A topic is in a category if its bit is set there. -/
theorem mem_iff_hasBit : t ∈ c ↔ c.HasBit t.index := by
  change c.inter (single t) = single t ↔ _
  constructor
  · intro h
    have hbit : (c.inter (single t)).HasBit t.index := by
      rw [h]
      exact hasBit_single.2 rfl
    exact (hasBit_inter.1 hbit).1
  · intro h
    refine ext_hasBit fun k => ?_
    rw [hasBit_inter, hasBit_single]
    exact and_iff_right_of_imp fun hk => hk ▸ h

/-- To meet the category of one topic is to have the topic. -/
theorem meets_single_iff : c.Meets (single t) ↔ t ∈ c := by
  simp only [meets_iff_sharesBit, SharesBit, hasBit_single, mem_iff_hasBit, exists_eq_right]

/-! ## The lowest topic -/

/-- The lowest topic is in the set, and none below it is. -/
theorem lowest?_eq_some_iff :
    c.lowest? = some t ↔ t ∈ c ∧ ∀ t', t'.index < t.index → t' ∉ c := by
  have hplace : ∀ t : Topic, ∃ h : t.index < Topic.all.length, Topic.all[t.index] = t := fun t =>
    List.getElem?_eq_some_iff.1 (Topic.getElem?_all_eq_some_iff.2 rfl)
  unfold lowest?
  rw [List.find?_eq_some_iff_getElem]
  constructor
  · rintro ⟨ht, k, hk, hget, hbefore⟩
    obtain rfl : k = t.index :=
      Topic.getElem?_all_eq_some_iff.1 (List.getElem?_eq_some_iff.2 ⟨hk, hget⟩)
    refine ⟨of_decide_eq_true ht, fun t' hlt => ?_⟩
    obtain ⟨_, hget'⟩ := hplace t'
    simpa [hget'] using hbefore t'.index hlt
  · rintro ⟨ht, hbefore⟩
    obtain ⟨hk, hget⟩ := hplace t
    refine ⟨decide_eq_true ht, t.index, hk, hget, fun j hj => ?_⟩
    have hindex : j = Topic.all[j].index :=
      Topic.getElem?_all_eq_some_iff.1 (List.getElem?_eq_getElem (Nat.lt_trans hj hk))
    simpa using hbefore _ (hindex ▸ hj)

theorem lowest?_eq_none_iff : c.lowest? = none ↔ ∀ t, t ∉ c := by
  unfold lowest?
  rw [List.find?_eq_none]
  exact ⟨fun h t => by simpa using h t t.mem_all, fun h t _ => by simpa using h t⟩

/-- No topic is set below the lowest one. -/
theorem not_mem_of_lowest? (h : ∀ l, c.lowest? = some l → t.index < l.index) : t ∉ c := by
  intro ht
  cases hl : c.lowest? with
  | none => exact lowest?_eq_none_iff.1 hl t ht
  | some l => exact (lowest?_eq_some_iff.1 hl).2 t (h l hl) ht

/-! ## Names -/

/-- The name of a category with the given lowest topic, if there is one. -/
def nameOf (lowest : Option Topic) : String :=
  (lowest.map Topic.name).getD "none"

/-- In brackets no name begins another one. -/
theorem prefixFree_bracketed :
    PrefixFree fun lowest : Option Topic => "[" ++ nameOf lowest ++ "] " := by
  have hall : ∀ o ∈ none :: Topic.all.map some, ∀ o' ∈ none :: Topic.all.map some,
      ("[" ++ nameOf o ++ "] ").toList <+: ("[" ++ nameOf o' ++ "] ").toList → o = o' := by
    decide
  have hmem : ∀ o : Option Topic, o ∈ none :: Topic.all.map some := by
    intro o
    cases o with
    | none => exact List.mem_cons_self
    | some t => exact List.mem_cons_of_mem _ (List.mem_map_of_mem t.mem_all)
  exact fun o o' => hall o (hmem o) o' (hmem o')

theorem nameOf_inj {o o' : Option Topic} : nameOf o = nameOf o' ↔ o = o' := by
  refine ⟨fun h => prefixFree_bracketed o o' ?_, congrArg nameOf⟩
  simp only [h, List.prefix_refl]

/-- The name tells the lowest topic, and tells apart whether there is one. -/
theorem name_eq_iff : c.name = d.name ↔ c.lowest? = d.lowest? :=
  nameOf_inj

theorem name_eq_topic_name_iff : c.name = t.name ↔ c.lowest? = some t :=
  (nameOf_inj : nameOf c.lowest? = nameOf (some t) ↔ _)

theorem name_eq_none_iff : c.name = "none" ↔ c.lowest? = none :=
  (nameOf_inj : nameOf c.lowest? = nameOf none ↔ _)

end Category

end LoadedImage
