import LoadedImage.Proofs.AddressText
import LoadedImage.Proofs.StoredForm
import LoadedImage.Proofs.TableCorrection
import LoadedImage.Proofs.TextParts

/-!
# What the text of a fault tells

The text of a fault begins with the heading of its kind, and the detail behind that with the words
for its subject: the operation that refused, and the part of the image that was asked for. None of
these words begins others (`Fault.Subject.prefixFree_words`), so the subject can be told, and then
the numbers behind it one after the other. Addresses are written at a fixed length, and every other
number stops at a character that is not one of its digits.

Two faults have the same text if they have the same subject and the same numbers, and only then
(`Fault.text_eq_iff`). The ends of an extent are shown and its length is not, so of extents that
run past the last address the length is not told (`Extent.SameEnds`).
-/

namespace LoadedImage

/-! ## Reports -/

theorem Report.Kind.prefixFree_heading : PrefixFree heading := by
  intro k k'
  cases k <;> cases k' <;> decide

/-- The heading tells the kind, and what follows it is the detail. -/
theorem Report.text_inj {r r' : Report} :
    r.text = r'.text ↔ r.kind = r'.kind ∧ r.detail = r'.detail :=
  Kind.prefixFree_heading.append_inj

/-! ## The ends of an extent -/

/-- The extents have the same start and the same end. They may still differ in length if both
run past the last address. -/
def Extent.SameEnds (e e' : Extent) : Prop :=
  e.start = e'.start ∧ e.stop = e'.stop

theorem Extent.text_inj {e e' : Extent} : e.text = e'.text ↔ e.SameEnds e' := by
  simp only [text, String.append_assoc, String.append_right_inj, Address.text_append_inj,
    String.append_left_inj, Address.text_inj, SameEnds]

/-! ## The detail of a fault -/

namespace Fault

/-- What a fault is about: the operation that refused, with the part of the image it was asked
for. -/
inductive Subject where
  | header
  | bounds
  | base
  | glue (g : Glue)
  | debugSection (s : DebugSection)
  | entry
deriving DecidableEq

namespace Subject

/-- All subjects. -/
def all : List Subject :=
  [header, bounds, base] ++ Glue.all.map glue ++ DebugSection.all.map debugSection ++ [entry]

/-- The words a detail begins with. -/
def words : Subject → String
  | header => "crate header needs "
  | bounds => "crate header at "
  | base => "image base "
  | glue g => g.name ++ " glue at "
  | debugSection s => s.name ++ " at "
  | entry => "entry "

theorem mem_all (s : Subject) : s ∈ all := by
  cases s with
  | glue g => cases g <;> decide
  | debugSection s => cases s <;> decide
  | _ => decide

theorem prefixFree_words : PrefixFree words := by
  have hall : ∀ a ∈ all, ∀ b ∈ all, (words a).toList <+: (words b).toList → a = b := by decide
  exact fun a b => hall a a.mem_all b b.mem_all

end Subject

/-- What a fault is about. -/
def subject : Fault → Subject
  | shortHeader _ => .header
  | headerOutside .. => .bounds
  | baseOutside .. => .base
  | glueOutside g _ _ => .glue g
  | sectionOutside s _ _ _ => .debugSection s
  | strayEntry .. => .entry

/-- An address and the extent it is outside of. -/
def place (a : Address) (e : Extent) : String :=
  a.text ++ (" is " ++ ("outside image " ++ e.text))

/-- What a detail says behind its first words. -/
def numbers : Fault → String
  | shortHeader length =>
    Radix.decimal.write Header.byteCount ++ (" bytes, got " ++ Radix.decimal.write length)
  | headerOutside a e | baseOutside a e | glueOutside _ a e => place a e
  | sectionOutside _ base size e =>
    base.text ++ (" with size " ++ (Radix.hex.mark ++ (Radix.hex.write size.toNat ++
      (" is " ++ ("outside image " ++ e.text)))))
  | strayEntry k a corrected e =>
    Radix.decimal.write k ++ (": " ++ (Radix.hex.mark ++ (Radix.hex.write a.word.toNat ++
      (" relocates to " ++ (corrected.text ++ (", " ++ ("outside image " ++ e.text)))))))

theorem detail_eq (f : Fault) : f.detail = f.subject.words ++ f.numbers := by
  -- the branches are written out, for `rw` takes too long over the equations of `detail`
  cases f with
  | shortHeader length =>
    change "crate header needs " ++ Radix.decimal.write Header.byteCount ++ " bytes, got " ++
      Radix.decimal.write length = Subject.words .header ++ numbers (.shortHeader length)
    simp only [Subject.words, numbers, String.append_assoc]
  | headerOutside a e =>
    change outside ("crate header at " ++ a.text ++ " is ") e = "crate header at " ++ place a e
    simp only [outside, place, String.append_assoc]
  | baseOutside a e =>
    change outside ("image base " ++ a.text ++ " is ") e = "image base " ++ place a e
    simp only [outside, place, String.append_assoc]
  | glueOutside g a e =>
    change outside (g.name ++ " glue at " ++ a.text ++ " is ") e =
      g.name ++ " glue at " ++ place a e
    simp only [outside, place, String.append_assoc]
  | sectionOutside s base size e =>
    change outside (s.name ++ " at " ++ base.text ++ " with size " ++
      Radix.hex.writeMarked size.toNat ++ " is ") e =
        s.name ++ " at " ++ numbers (.sectionOutside s base size e)
    simp only [outside, numbers, Radix.writeMarked, String.append_assoc]
  | strayEntry k a corrected e =>
    change outside ("entry " ++ Radix.decimal.write k ++ ": " ++ a.shortText ++
      " relocates to " ++ corrected.text ++ ", ") e =
        "entry " ++ numbers (.strayEntry k a corrected e)
    simp only [outside, numbers, Address.shortText, Radix.writeMarked, String.append_assoc]

/-! ## Faults that read alike -/

/-- The faults have the same subject and the same numbers, as far as the numbers are shown: of an
extent only its ends are. -/
inductive Alike : Fault → Fault → Prop
  | shortHeader {length length' : Nat} (hlength : length = length') :
    Alike (shortHeader length) (shortHeader length')
  | headerOutside {a a' : Address} {e e' : Extent} (ha : a = a') (he : e.SameEnds e') :
    Alike (headerOutside a e) (headerOutside a' e')
  | baseOutside {a a' : Address} {e e' : Extent} (ha : a = a') (he : e.SameEnds e') :
    Alike (baseOutside a e) (baseOutside a' e')
  | glueOutside {g g' : Glue} {a a' : Address} {e e' : Extent} (hg : g = g') (ha : a = a')
    (he : e.SameEnds e') : Alike (glueOutside g a e) (glueOutside g' a' e')
  | sectionOutside {s s' : DebugSection} {base base' : Address} {size size' : UInt64}
    {e e' : Extent} (hs : s = s') (hbase : base = base') (hsize : size = size')
    (he : e.SameEnds e') :
    Alike (sectionOutside s base size e) (sectionOutside s' base' size' e')
  | strayEntry {k k' : Nat} {a a' corrected corrected' : Address} {e e' : Extent} (hk : k = k')
    (ha : a = a') (hcorrected : corrected = corrected') (he : e.SameEnds e') :
    Alike (strayEntry k a corrected e) (strayEntry k' a' corrected' e')

theorem place_inj {a a' : Address} {e e' : Extent} :
    place a e = place a' e' ↔ a = a' ∧ e.SameEnds e' := by
  rw [place, place, Address.text_append_inj, String.append_right_inj, String.append_right_inj,
    Extent.text_inj]

theorem numbers_sectionOutside_inj {s s' : DebugSection} {base base' : Address}
    {size size' : UInt64} {e e' : Extent} :
    (sectionOutside s base size e).numbers = (sectionOutside s' base' size' e').numbers ↔
      base = base' ∧ size = size' ∧ e.SameEnds e' := by
  have hends : ∀ t, Radix.hex.EndsNumeral (" is " ++ t) := by
    have hsep : Radix.hex.EndsNumeral " is " := by decide
    exact hsep.append
  rw [numbers, numbers, Address.text_append_inj, String.append_right_inj,
    String.append_right_inj, Radix.write_append_inj (hends _) (hends _),
    String.append_right_inj, String.append_right_inj, Extent.text_inj, UInt64.toNat_inj]

theorem numbers_strayEntry_inj {k k' : Nat} {a a' corrected corrected' : Address}
    {e e' : Extent} :
    (strayEntry k a corrected e).numbers = (strayEntry k' a' corrected' e').numbers ↔
      k = k' ∧ a = a' ∧ corrected = corrected' ∧ e.SameEnds e' := by
  have hindex : ∀ t, Radix.decimal.EndsNumeral (": " ++ t) := by
    have hsep : Radix.decimal.EndsNumeral ": " := by decide
    exact hsep.append
  have hentry : ∀ t, Radix.hex.EndsNumeral (" relocates to " ++ t) := by
    have hsep : Radix.hex.EndsNumeral " relocates to " := by decide
    exact hsep.append
  rw [numbers, numbers, Radix.write_append_inj (hindex _) (hindex _), String.append_right_inj,
    String.append_right_inj, Radix.write_append_inj (hentry _) (hentry _),
    String.append_right_inj, Address.text_append_inj, String.append_right_inj,
    String.append_right_inj, Extent.text_inj, UInt64.toNat_inj,
    Address.word_inj]

/-- For one subject the numbers are read off one after the other. -/
theorem alike_of_numbers {f f' : Fault} (hsubject : f.subject = f'.subject)
    (hnumbers : f.numbers = f'.numbers) : f.Alike f' := by
  cases f with
  | shortHeader length =>
    cases f' with
    | shortHeader length' =>
      simp only [numbers, String.append_right_inj, Radix.write_inj] at hnumbers
      exact .shortHeader hnumbers
    | _ => cases hsubject
  | headerOutside a e =>
    cases f' with
    | headerOutside a' e' =>
      obtain ⟨ha, he⟩ := place_inj.1 hnumbers
      exact .headerOutside ha he
    | _ => cases hsubject
  | baseOutside a e =>
    cases f' with
    | baseOutside a' e' =>
      obtain ⟨ha, he⟩ := place_inj.1 hnumbers
      exact .baseOutside ha he
    | _ => cases hsubject
  | glueOutside g a e =>
    cases f' with
    | glueOutside g' a' e' =>
      obtain ⟨ha, he⟩ := place_inj.1 hnumbers
      exact .glueOutside (Subject.glue.inj hsubject) ha he
    | _ => cases hsubject
  | sectionOutside s base size e =>
    cases f' with
    | sectionOutside s' base' size' e' =>
      obtain ⟨hbase, hsize, he⟩ := numbers_sectionOutside_inj.1 hnumbers
      exact .sectionOutside (Subject.debugSection.inj hsubject) hbase hsize he
    | _ => cases hsubject
  | strayEntry k a corrected e =>
    cases f' with
    | strayEntry k' a' corrected' e' =>
      obtain ⟨hk, ha, hcorrected, he⟩ := numbers_strayEntry_inj.1 hnumbers
      exact .strayEntry hk ha hcorrected he
    | _ => cases hsubject

/-- Faults have the same detail if and only if they are alike. -/
theorem detail_eq_iff {f f' : Fault} : f.detail = f'.detail ↔ f.Alike f' := by
  rw [detail_eq, detail_eq, Subject.prefixFree_words.append_inj]
  refine ⟨fun ⟨hsubject, hnumbers⟩ => alike_of_numbers hsubject hnumbers, fun h => ?_⟩
  cases h with
  | shortHeader hlength => exact ⟨rfl, congrArg (fun n => numbers (.shortHeader n)) hlength⟩
  | headerOutside ha he => exact ⟨rfl, place_inj.2 ⟨ha, he⟩⟩
  | baseOutside ha he => exact ⟨rfl, place_inj.2 ⟨ha, he⟩⟩
  | glueOutside hg ha he => exact ⟨congrArg Subject.glue hg, place_inj.2 ⟨ha, he⟩⟩
  | sectionOutside hs hbase hsize he =>
    exact ⟨congrArg Subject.debugSection hs,
      numbers_sectionOutside_inj.2 ⟨hbase, hsize, he⟩⟩
  | strayEntry hk ha hcorrected he =>
    exact ⟨rfl, numbers_strayEntry_inj.2 ⟨hk, ha, hcorrected, he⟩⟩

theorem Alike.kind_eq {f f' : Fault} (h : f.Alike f') : f.kind = f'.kind := by
  cases h <;> rfl

/-- So have their whole texts, for the kind says nothing that the detail does not. -/
theorem text_eq_iff {f f' : Fault} : f.text = f'.text ↔ f.Alike f' := by
  rw [text, text, Report.text_inj]
  exact ⟨fun h => detail_eq_iff.1 h.2, fun h => ⟨h.kind_eq, detail_eq_iff.2 h⟩⟩

end Fault

end LoadedImage
