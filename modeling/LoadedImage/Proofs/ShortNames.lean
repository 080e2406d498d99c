import LoadedImage.Binary
import Mathlib.Data.List.TakeWhile

/-!
# Short names

The short name of a binary is found from behind: all that stands there up to a slash. Read from the
front, it is the part of the name that has no slash in it and is the whole name or stands behind a
slash (`IsLastPart`). Every name has such a part and no name has two, so this says which one the
short name is (`Binary.isLastPart_iff`), and what else there is to say of short names follows from
it without a look at how they are found (`Binary.shortName_is_last_part`): a path before the name
does not matter, a short name has none left to lose, and it is empty where the name ends with a
slash.
-/

namespace LoadedImage

/-! ## Last parts -/

/-- The part has no slash in it, and it is the whole name or stands behind a slash. -/
structure IsLastPart (name part : String) : Prop where
  no_slash : '/' ∉ part.toList
  whole_or_behind : '/' ∉ name.toList ∧ part = name ∨ ∃ path, name = path ++ "/" ++ part

namespace IsLastPart

variable {name part : String}

/-- A path before the name leaves the last part as it is. -/
theorem behind (h : IsLastPart name part) (path : String) :
    IsLastPart (path ++ "/" ++ name) part where
  no_slash := h.no_slash
  whole_or_behind := by
    obtain ⟨-, hwhole⟩ | ⟨front, hbehind⟩ := h.whole_or_behind
    · exact .inr ⟨path, by rw [hwhole]⟩
    · refine .inr ⟨path ++ "/" ++ front, ?_⟩
      simp only [hbehind, String.append_assoc]

theorem of_no_slash (h : '/' ∉ name.toList) : IsLastPart name name :=
  ⟨h, .inl ⟨h, rfl⟩⟩

theorem empty_iff : IsLastPart name "" ↔ name = "" ∨ ∃ path, name = path ++ "/" := by
  have hempty : '/' ∉ "".toList := List.not_mem_nil
  constructor
  · intro h
    refine h.whole_or_behind.imp (fun hwhole => hwhole.2.symm) fun hbehind => ?_
    simpa only [String.append_empty] using hbehind
  · rintro (rfl | ⟨path, rfl⟩)
    · exact of_no_slash hempty
    · simpa only [String.append_empty] using (of_no_slash hempty).behind path

/-- A name with a slash has a last one. -/
theorem exists_isLastPart (name : String) : ∃ part, IsLastPart name part := by
  by_cases hslash : '/' ∈ name.toList
  · obtain ⟨back, front, hname, hback⟩ :=
      List.eq_append_cons_of_mem (List.mem_reverse.2 hslash)
    refine ⟨String.ofList back.reverse, by simpa using hback, .inr ?_⟩
    refine ⟨String.ofList front.reverse, String.toList_inj.1 (List.reverse_inj.1 ?_)⟩
    rw [hname]
    simp
  · exact ⟨name, of_no_slash hslash⟩

end IsLastPart

/-! ## Short names -/

namespace Binary

variable {b : Binary} {part : String}

/-- What stands at the end of a name up to a slash is found there. -/
theorem shortName_eq_of_isLastPart (h : IsLastPart b.name part) : b.shortName = part := by
  have hpart : ∀ c ∈ part.toList.reverse, decide (c ≠ '/') = true := by
    intro c hc
    refine decide_eq_true fun hslash => h.no_slash ?_
    rwa [hslash, List.mem_reverse] at hc
  have htake : b.name.toList.reverse.takeWhile (· ≠ '/') = part.toList.reverse := by
    obtain ⟨-, hwhole⟩ | ⟨path, hbehind⟩ := h.whole_or_behind
    · rw [← hwhole, List.takeWhile_eq_self_iff.2 hpart]
    · have hname : b.name.toList.reverse = part.toList.reverse ++ '/' :: path.toList.reverse := by
        simp [hbehind]
      rw [hname, List.takeWhile_append_of_pos hpart]
      simp
  rw [shortName, htake, List.reverse_reverse, String.ofList_toList]

/-- A name has one last part, and that is the short name. -/
theorem isLastPart_iff : IsLastPart b.name part ↔ part = b.shortName := by
  obtain ⟨last, hlast⟩ := IsLastPart.exists_isLastPart b.name
  constructor
  · intro h
    exact (shortName_eq_of_isLastPart h).symm
  · rintro rfl
    rwa [shortName_eq_of_isLastPart hlast]

/-- The short name is the last part of the name, and there is no other one. It is empty if and only
if the name is empty or ends with a slash. A binary that is named by a short name has this short
name, and a path before the name does not change it, whatever the buffers are. -/
theorem shortName_is_last_part (b : Binary) :
    (∀ part, IsLastPart b.name part ↔ part = b.shortName) ∧
      (b.shortName = "" ↔ b.name = "" ∨ ∃ path, b.name = path ++ "/") ∧
      (∀ buffer, (ofBuffer buffer b.shortName).shortName = b.shortName) ∧
      ∀ buffer path, (ofBuffer buffer (path ++ "/" ++ b.name)).shortName = b.shortName := by
  have hlast : IsLastPart b.name b.shortName := isLastPart_iff.2 rfl
  refine ⟨fun part => isLastPart_iff, ?_, fun buffer => ?_, fun buffer path => ?_⟩
  · rw [← IsLastPart.empty_iff, isLastPart_iff, eq_comm]
  · exact shortName_eq_of_isLastPart (IsLastPart.of_no_slash hlast.no_slash)
  · exact shortName_eq_of_isLastPart (hlast.behind path)

end Binary

end LoadedImage
