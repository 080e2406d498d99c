import LoadedImage.Text.Radix
import Mathlib.Algebra.Group.Nat.Defs
import Mathlib.Data.List.Basic
import Mathlib.Data.List.Induction
import Mathlib.Tactic.Tauto

/-!
# Numerals

A numeral of a number is a string of digits that reads as the number and has no zeros in front
(`Radix.IsNumeral`). Each number has one numeral, and that is what is written for it
(`Radix.isNumeral_iff`): without its last digit, a numeral is the numeral of the quotient by the
base.

Strings of digits of one width have their zeros in front. The first digit in which two of them
differ decides between the numbers, so the order of the strings is that of the numbers
(`Radix.fixed_lt_fixed_iff`).
-/

namespace LoadedImage

/-- Of two strings of one length, a character put behind each counts only if they are the same. -/
theorem append_singleton_lt_iff {xs ys : List Char} {x y : Char} (h : xs.length = ys.length) :
    xs ++ [x] < ys ++ [y] ↔ xs < ys ∨ xs = ys ∧ x < y := by
  induction xs generalizing ys with
  | nil =>
    obtain rfl := List.length_eq_zero_iff.1 h.symm
    simp [List.cons_lt_cons_iff]
  | cons a xs ih =>
    obtain ⟨b, ys, rfl⟩ := List.exists_cons_of_length_eq_add_one h.symm
    have hrest : xs.length = ys.length := Nat.succ.inj h
    simp only [List.cons_append, List.cons_lt_cons_iff, ih hrest, List.cons.injEq]
    tauto

namespace Radix

variable {r : Radix} {cs : List Char} {c : Char} {n m d : Nat}

/-! ## Digits -/

theorem digit_zero (r : Radix) : r.digit 0 = '0' := by
  cases r <;> rfl

theorem digit_lt_digit_iff (r : Radix) :
    ∀ d < r.base, ∀ e < r.base, r.digit d < r.digit e ↔ d < e := by
  cases r <;> decide

theorem digit?_eq_some_iff : r.digit? c = some d ↔ d < r.base ∧ r.digit d = c := by
  constructor
  · intro h
    unfold digit? at h
    exact ⟨List.mem_range.1 (List.mem_of_find?_eq_some h), by simpa using List.find?_some h⟩
  · rintro ⟨hd, rfl⟩
    exact r.digit?_digit d hd

theorem read?_append_singleton_eq_some_iff :
    r.read? (cs ++ [c]) = some n ↔
      ∃ m d, r.read? cs = some m ∧ r.digit? c = some d ∧ m * r.base + d = n := by
  unfold read?
  simp [List.foldlM_append, Option.bind_eq_some_iff]

/-- What reads as a number has digits only. -/
theorem isSome_digit?_of_read? (h : r.read? cs = some n) : ∀ c ∈ cs, (r.digit? c).isSome := by
  induction cs using List.reverseRecOn generalizing n with
  | nil => simp
  | append_singleton cs c ih =>
    obtain ⟨m, d, hm, hd, -⟩ := read?_append_singleton_eq_some_iff.1 h
    intro c' hc'
    rcases List.mem_append.1 hc' with hfront | hlast
    · exact ih hm c' hfront
    · rw [List.mem_singleton.1 hlast, hd]
      rfl

theorem digits_of_lt (h : n < r.base) : r.digits n = [r.digit n] := by
  rw [digits, if_pos h]

theorem digits_of_le (h : r.base ≤ n) :
    r.digits n = r.digits (n / r.base) ++ [r.digit (n % r.base)] := by
  rw [digits, if_neg (Nat.not_lt.2 h)]

theorem digits_zero (r : Radix) : r.digits 0 = ['0'] := by
  rw [digits_of_lt (Nat.lt_of_lt_of_le Nat.zero_lt_two r.two_le_base), r.digit_zero]

/-! ## Numerals without zeros in front -/

/-- The string reads as the number, and begins with a zero only if it is nothing but that. -/
structure IsNumeral (r : Radix) (cs : List Char) (n : Nat) : Prop where
  read?_eq : r.read? cs = some n
  ne_nil : cs ≠ []
  eq_zero_of_head : cs.head? = some '0' → cs = ['0']

theorem eq_zero_of_head?_digits (h : (r.digits n).head? = some '0') : n = 0 := by
  have hb := r.two_le_base
  fun_induction r.digits n with
  | case1 n hlt =>
    rw [List.head?_cons, Option.some.injEq, ← r.digit_zero] at h
    have hdigit := r.digit?_digit n hlt
    rw [h, r.digit?_digit 0 (by omega)] at hdigit
    exact (Option.some.inj hdigit).symm
  | case2 n hle ih =>
    rw [List.head?_append_of_ne_nil _ (r.digits_ne_nil _)] at h
    exact absurd ((Nat.div_eq_zero_iff_lt (by omega)).1 (ih h)) hle

theorem isNumeral_digits (r : Radix) (n : Nat) : r.IsNumeral (r.digits n) n where
  read?_eq := r.read?_digits n
  ne_nil := r.digits_ne_nil n
  eq_zero_of_head h := by rw [eq_zero_of_head?_digits h, digits_zero]

theorem IsNumeral.eq_digits (h : r.IsNumeral cs n) : cs = r.digits n := by
  obtain ⟨hread, hne, hhead⟩ := h
  induction cs using List.reverseRecOn generalizing n with
  | nil => exact absurd rfl hne
  | append_singleton cs c ih =>
    obtain ⟨m, d, hm, hd, rfl⟩ := read?_append_singleton_eq_some_iff.1 hread
    obtain ⟨hlt, rfl⟩ := digit?_eq_some_iff.1 hd
    by_cases hnil : cs = []
    · subst hnil
      obtain rfl : 0 = m := Option.some.inj hm
      rw [Nat.zero_mul, Nat.zero_add, digits_of_lt hlt, List.nil_append]
    · -- something stands behind the front, so the front does not even begin with one zero
      have hfront : cs.head? ≠ some '0' := by
        intro hzero
        have hall := hhead (by rwa [List.head?_append_of_ne_nil _ hnil])
        have hlength := congrArg List.length hall
        rw [List.length_append] at hlength
        exact hnil (List.length_eq_zero_iff.1 (Nat.succ.inj hlength))
      have hcs := ih hm hnil fun hzero => absurd hzero hfront
      have hpos : 0 < m := by
        refine Nat.pos_of_ne_zero ?_
        rintro rfl
        rw [hcs, digits_zero] at hfront
        exact hfront rfl
      have hle : r.base ≤ m * r.base + d :=
        Nat.le_trans (Nat.le_mul_of_pos_left _ hpos) (Nat.le_add_right _ _)
      have hdiv : (m * r.base + d) / r.base = m := by
        rw [Nat.mul_comm, Nat.mul_add_div (by omega), Nat.div_eq_of_lt hlt, Nat.add_zero]
      have hmod : (m * r.base + d) % r.base = d := by
        rw [Nat.mul_comm, Nat.mul_add_mod, Nat.mod_eq_of_lt hlt]
      rw [digits_of_le hle, hdiv, hmod, ← hcs]

/-- Each number has one numeral. -/
theorem isNumeral_iff : r.IsNumeral cs n ↔ cs = r.digits n := by
  refine ⟨IsNumeral.eq_digits, ?_⟩
  rintro rfl
  exact r.isNumeral_digits n

theorem isNumeral_toList_iff {s : String} : r.IsNumeral s.toList n ↔ s = r.write n := by
  rw [isNumeral_iff, write, ← String.toList_inj, String.toList_ofList]

/-! ## Numerals of one width -/

/-- Reading a numeral of a given width gives back the last digits of the number. -/
theorem read?_fixed (r : Radix) (width n : Nat) :
    r.read? (r.fixed width n) = some (n % r.base ^ width) := by
  have hb := r.two_le_base
  induction width generalizing n with
  | zero => simp [fixed, read?, Nat.mod_one]
  | succ width ih =>
    have hdigit := r.read?_append_digit (Nat.mod_lt n (by omega)) (ih (n / r.base))
    rw [fixed, hdigit, pow_succ', Nat.mod_mul, Nat.mul_comm, Nat.add_comm]

section FixedWidth

variable {width : Nat} (hn : n < r.base ^ width) (hm : m < r.base ^ width)

include hn hm

theorem fixed_inj : r.fixed width n = r.fixed width m ↔ n = m := by
  refine ⟨fun h => ?_, congrArg (r.fixed width)⟩
  have hread := congrArg r.read? h
  rwa [read?_fixed, read?_fixed, Nat.mod_eq_of_lt hn, Nat.mod_eq_of_lt hm,
    Option.some.injEq] at hread

/-- Strings of digits of one width are ordered as the numbers are. -/
theorem fixed_lt_fixed_iff : r.fixed width n < r.fixed width m ↔ n < m := by
  have hb : 0 < r.base := Nat.lt_of_lt_of_le Nat.zero_lt_two r.two_le_base
  induction width generalizing n m with
  | zero =>
    rw [pow_zero, Nat.lt_one_iff] at hn hm
    simp [hn, hm]
  | succ width ih =>
    rw [pow_succ, ← Nat.div_lt_iff_lt_mul hb] at hn hm
    have hfront : r.fixed width (n / r.base) < r.fixed width (m / r.base) ↔
        n / r.base < m / r.base := ih hn hm
    rw [fixed, fixed, append_singleton_lt_iff (by rw [length_fixed, length_fixed]), hfront,
      fixed_inj hn hm, r.digit_lt_digit_iff _ (Nat.mod_lt n hb) _ (Nat.mod_lt m hb)]
    -- what is left is the comparison of numbers by their quotients and then their remainders
    have hn' := Nat.div_add_mod n r.base
    have hm' := Nat.div_add_mod m r.base
    constructor
    · rintro (hquot | ⟨hquot, hrem⟩)
      · exact Nat.lt_of_div_lt_div hquot
      · rw [hquot] at hn'
        omega
    · intro hlt
      rcases Nat.lt_or_eq_of_le (Nat.div_le_div_right (Nat.le_of_lt hlt)) with hquot | hquot
      · exact .inl hquot
      · rw [hquot] at hn'
        exact .inr ⟨hquot, by omega⟩

end FixedWidth

end Radix

end LoadedImage
