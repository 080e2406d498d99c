import LoadedImage.Proofs.Numerals

/-!
# Texts told apart by their beginnings

A text that begins with one of some words, and goes on with anything, tells both the word and the
rest if no word begins another one (`PrefixFree.append_inj`). A numeral may begin a longer one, so
it takes a character that is no digit behind it, and then it can be told as well
(`Radix.write_append_inj`).
-/

namespace LoadedImage

/-! ## Words -/

/-- No word begins another one. -/
def PrefixFree {ι : Type} (words : ι → String) : Prop :=
  ∀ a b, (words a).toList <+: (words b).toList → a = b

theorem PrefixFree.append_inj {ι : Type} {words : ι → String} (h : PrefixFree words) {a b : ι}
    {s t : String} : words a ++ s = words b ++ t ↔ a = b ∧ s = t := by
  refine ⟨fun heq => ?_, fun ⟨hab, hst⟩ => by rw [hab, hst]⟩
  have hlists := congrArg String.toList heq
  rw [String.toList_append, String.toList_append] at hlists
  have ha : (words a).toList <+: (words b).toList ++ t.toList := ⟨_, hlists⟩
  have hb : (words b).toList <+: (words b).toList ++ t.toList := List.prefix_append ..
  obtain rfl : a = b := by
    rcases List.prefix_or_prefix_of_prefix ha hb with hab | hba
    · exact h a b hab
    · exact (h b a hba).symm
  exact ⟨rfl, String.toList_inj.1 (List.append_cancel_left hlists)⟩

/-! ## Numerals -/

namespace Radix

variable {r : Radix} {n m : Nat} {s t : String}

theorem isSome_digit?_of_mem_digits {c : Char} (hc : c ∈ r.digits n) : (r.digit? c).isSome :=
  isSome_digit?_of_read? (r.read?_digits n) c hc

theorem digits_inj : r.digits n = r.digits m ↔ n = m := by
  refine ⟨fun h => ?_, congrArg r.digits⟩
  have hread := congrArg r.read? h
  rw [read?_digits, read?_digits] at hread
  exact Option.some.inj hread

theorem write_inj : r.write n = r.write m ↔ n = m := by
  rw [write, write, String.ofList_inj, digits_inj]

/-- The text begins with a character that is no digit. -/
def EndsNumeral (r : Radix) (s : String) : Prop :=
  s.toList.head?.any (fun c => (r.digit? c).isNone) = true

instance (r : Radix) (s : String) : Decidable (r.EndsNumeral s) :=
  inferInstanceAs (Decidable (s.toList.head?.any (fun c => (r.digit? c).isNone) = true))

theorem EndsNumeral.append (h : r.EndsNumeral s) (t : String) : r.EndsNumeral (s ++ t) := by
  unfold EndsNumeral at h ⊢
  rw [String.toList_append]
  cases hlist : s.toList with
  | nil =>
    rw [hlist] at h
    cases h
  | cons c cs => rwa [hlist] at h

/-- The digits of a numeral are the longest string of digits the text begins with. -/
theorem takeWhile_digits_append (hs : r.EndsNumeral s) :
    (r.digits n ++ s.toList).takeWhile (fun c => (r.digit? c).isSome) = r.digits n := by
  rw [List.takeWhile_append_of_pos fun c hc => isSome_digit?_of_mem_digits hc]
  unfold EndsNumeral at hs
  cases hlist : s.toList with
  | nil => rw [List.takeWhile_nil, List.append_nil]
  | cons c cs =>
    rw [hlist, List.head?_cons, Option.any_some, Option.isNone_iff_eq_none] at hs
    rw [List.takeWhile_cons_of_neg (by simp [hs]), List.append_nil]

/-- A numeral does not run into what follows it. -/
theorem write_append_inj (hs : r.EndsNumeral s) (ht : r.EndsNumeral t) :
    r.write n ++ s = r.write m ++ t ↔ n = m ∧ s = t := by
  refine ⟨fun h => ?_, fun ⟨hnm, hst⟩ => by rw [hnm, hst]⟩
  have hlists := congrArg String.toList h
  simp only [write, String.toList_append, String.toList_ofList] at hlists
  have hdigits := congrArg (List.takeWhile fun c => (r.digit? c).isSome) hlists
  rw [takeWhile_digits_append hs, takeWhile_digits_append ht] at hdigits
  rw [hdigits] at hlists
  exact ⟨digits_inj.1 hdigits, String.toList_inj.1 (List.append_cancel_left hlists)⟩

end Radix

end LoadedImage
