import LoadedImage.Proofs.FaultText
import LoadedImage.Proofs.Restriction
import LoadedImage.Proofs.StoredForm
import LoadedImage.Proofs.TableCorrection

/-!
# Failures told by their texts

An operation that can fail does so under one condition and for one fault, and the fault repeats what
the operation was asked for and what that came to (`Attempt.Reports`). Since the text of a fault
tells its subject and its numbers, two failing attempts with the same text were at the same
operation and came to the same numbers (`Attempt.text_eq_iff_sameFailure`). For a table these are
the place, the value and the correction of its first stray entry; the distance between the last two
is how far entries are moved, so that is told as well.
-/

namespace LoadedImage

/-! ## When and why an operation fails -/

theorem ite_eq_error_iff {α : Type} {p : Prop} [Decidable p] {a : α} {fault fault' : Fault} :
    (if p then Except.ok a else .error fault) = .error fault' ↔ ¬p ∧ fault' = fault := by
  by_cases h : p <;> simp [h, eq_comm]

namespace BoundedImage

variable {b : BoundedImage} {fault : Fault}

theorem ofImage_eq_error_iff {i : Image} {e : Extent} :
    ofImage i e = .error fault ↔
      ¬e.Covers i.address Header.storedSize ∧ fault = .headerOutside i.address e := by
  unfold ofImage
  split <;> simp [*, eq_comm]

theorem base_eq_error_iff :
    b.base = .error fault ↔
      b.image.base ∉ b.extent ∧ fault = .baseOutside b.image.base b.extent :=
  ite_eq_error_iff

theorem glue_eq_error_iff {g : Glue} :
    b.glue g = .error fault ↔ (b.image.glue g).address ∉ b.extent ∧
      fault = .glueOutside g (b.image.glue g).address b.extent :=
  ite_eq_error_iff

theorem debugSection_eq_error_iff {s : DebugSection} {sink : Sink} :
    (b.debugSection s sink).value = .error fault ↔
      ¬b.extent.Covers (b.image.sectionBase s) (s.size b.header) ∧
        fault = .sectionOutside s (b.image.sectionBase s) (s.size b.header) b.extent := by
  rw [value_debugSection]
  exact ite_eq_error_iff

theorem FirstStray.unique {table : Table} {k k' : Nat} {a a' : Address}
    (h : b.FirstStray table k a) (h' : b.FirstStray table k' a') : k = k' ∧ a = a' := by
  rw [← firstStray?_eq_some_iff] at h h'
  rw [h, Option.some.injEq, Prod.mk.injEq] at h'
  exact h'.symm

end BoundedImage

/-! ## Failing attempts -/

/-- An operation that can fail, with what it is given. -/
inductive Attempt where
  | decode (bytes : List UInt8)
  | bound (i : Image) (e : Extent)
  | base (b : BoundedImage)
  | glue (b : BoundedImage) (g : Glue)
  | debugSection (b : BoundedImage) (s : DebugSection) (sink : Sink)
  | correct (b : BoundedImage) (table : Table) (place : Address)

namespace Attempt

/-- The operation is refused for the fault. -/
def FailsWith : Attempt → Fault → Prop
  | decode bytes, fault => Header.decode bytes = .error fault
  | bound i e, fault => BoundedImage.ofImage i e = .error fault
  | base b, fault => b.base = .error fault
  | glue b g, fault => b.glue g = .error fault
  | debugSection b s sink, fault => (b.debugSection s sink).value = .error fault
  | correct b table place, fault => (b.correct table place).value.1 = .error fault

/-- The fault an operation fails with, if it does: what it was given and what it came to. -/
inductive Reports : Attempt → Fault → Prop
  | decode (bytes : List UInt8) : Reports (.decode bytes) (.shortHeader bytes.length)
  | bound (i : Image) (e : Extent) : Reports (.bound i e) (.headerOutside i.address e)
  | base (b : BoundedImage) : Reports (.base b) (.baseOutside b.image.base b.extent)
  | glue (b : BoundedImage) (g : Glue) :
    Reports (.glue b g) (.glueOutside g (b.image.glue g).address b.extent)
  | debugSection (b : BoundedImage) (s : DebugSection) (sink : Sink) :
    Reports (.debugSection b s sink)
      (.sectionOutside s (b.image.sectionBase s) (s.size b.header) b.extent)
  | correct {b : BoundedImage} {table : Table} {k : Nat} {a : Address} (place : Address)
    (hfirst : b.FirstStray table k a) :
    Reports (.correct b table place) (.strayEntry k a (a.move b.drift) b.extent)

theorem FailsWith.reports {c : Attempt} {fault : Fault} (h : c.FailsWith fault) :
    c.Reports fault := by
  cases c with
  | decode bytes =>
    obtain ⟨-, rfl⟩ := Header.decode_eq_error_iff.1 h
    exact .decode bytes
  | bound i e =>
    obtain ⟨-, rfl⟩ := BoundedImage.ofImage_eq_error_iff.1 h
    exact .bound i e
  | base b =>
    obtain ⟨-, rfl⟩ := BoundedImage.base_eq_error_iff.1 h
    exact .base b
  | glue b g =>
    obtain ⟨-, rfl⟩ := BoundedImage.glue_eq_error_iff.1 h
    exact .glue b g
  | debugSection b s sink =>
    obtain ⟨-, rfl⟩ := BoundedImage.debugSection_eq_error_iff.1 h
    exact .debugSection b s sink
  | correct b table place =>
    have hvalue : (b.correct table place).value =
        (.error fault, (b.correct table place).value.2) := Prod.ext h rfl
    obtain ⟨k, a, hfirst, rfl, -⟩ := (b.value_correct_eq_error_iff table).1 hvalue
    exact .correct place hfirst

/-- The attempts are at the same operation, for the same part of the image, and come to the same
numbers: what is asked for lies at the same address and is as long, and the extents have the same
ends. -/
inductive SameFailure : Attempt → Attempt → Prop
  | decode {bytes bytes' : List UInt8} (hlength : bytes.length = bytes'.length) :
    SameFailure (.decode bytes) (.decode bytes')
  | bound {i i' : Image} {e e' : Extent} (ha : i.address = i'.address) (he : e.SameEnds e') :
    SameFailure (.bound i e) (.bound i' e')
  | base {b b' : BoundedImage} (ha : b.image.base = b'.image.base)
    (he : b.extent.SameEnds b'.extent) : SameFailure (.base b) (.base b')
  | glue {b b' : BoundedImage} {g : Glue}
    (ha : (b.image.glue g).address = (b'.image.glue g).address)
    (he : b.extent.SameEnds b'.extent) : SameFailure (.glue b g) (.glue b' g)
  | debugSection {b b' : BoundedImage} {s : DebugSection} {sink sink' : Sink}
    (hbase : b.image.sectionBase s = b'.image.sectionBase s)
    (hsize : s.size b.header = s.size b'.header) (he : b.extent.SameEnds b'.extent) :
    SameFailure (.debugSection b s sink) (.debugSection b' s sink')
  /-- One entry at one index is the first stray one for both, and both would move it by the same
  distance, hence to the same address. The tables may lie anywhere. -/
  | correct {b b' : BoundedImage} {table table' : Table} {place place' : Address} {k : Nat}
    {a : Address} (hfirst : b.FirstStray table k a) (hfirst' : b'.FirstStray table' k a)
    (hcorrected : a.move b.drift = a.move b'.drift) (hdrift : b.drift = b'.drift)
    (he : b.extent.SameEnds b'.extent) :
    SameFailure (.correct b table place) (.correct b' table' place')

/-- Failures whose faults are alike are the same, and the other way round. -/
theorem Reports.alike_iff {c c' : Attempt} {fault fault' : Fault} (h : c.Reports fault)
    (h' : c'.Reports fault') : fault.Alike fault' ↔ c.SameFailure c' := by
  refine ⟨fun halike => ?_, fun hsame => ?_⟩
  · cases halike with
    | shortHeader hlength =>
      cases h
      cases h'
      exact .decode hlength
    | headerOutside ha he =>
      cases h
      cases h'
      exact .bound ha he
    | baseOutside ha he =>
      cases h
      cases h'
      exact .base ha he
    | glueOutside hg ha he =>
      cases h
      cases h'
      subst hg
      exact .glue ha he
    | sectionOutside hs hbase hsize he =>
      cases h
      cases h'
      subst hs
      exact .debugSection hbase hsize he
    | strayEntry hk ha hcorrected he =>
      cases h with
      | @correct b table k a place hfirst =>
        cases h' with
        | @correct b' table' k' a' place' hfirst' =>
          subst hk ha
          exact .correct hfirst hfirst' hcorrected (Address.move_right_inj.1 hcorrected) he
  · cases hsame with
    | decode hlength =>
      cases h
      cases h'
      exact .shortHeader hlength
    | bound ha he =>
      cases h
      cases h'
      exact .headerOutside ha he
    | base ha he =>
      cases h
      cases h'
      exact .baseOutside ha he
    | glue ha he =>
      cases h
      cases h'
      exact .glueOutside rfl ha he
    | debugSection hbase hsize he =>
      cases h
      cases h'
      exact .sectionOutside rfl hbase hsize he
    | correct hfirst hfirst' hcorrected hdrift he =>
      cases h with
      | correct _ hf =>
        cases h' with
        | correct _ hf' =>
          obtain ⟨rfl, rfl⟩ := hfirst.unique hf
          obtain ⟨rfl, rfl⟩ := hfirst'.unique hf'
          exact .strayEntry rfl rfl hcorrected he

/-- Two failures have the same text if and only if they are the same failure: of one operation,
for one part of the image, with the same numbers. Then they are of one kind, too. For any two
reports, whatever they say, the text tells the kind and the detail. -/
theorem text_eq_iff_sameFailure :
    (∀ {c c' : Attempt} {fault fault' : Fault}, c.FailsWith fault → c'.FailsWith fault' →
      (fault.text = fault'.text ↔ c.SameFailure c') ∧
        (fault.text = fault'.text → fault.kind = fault'.kind)) ∧
      ∀ r r' : Report, r.text = r'.text ↔ r.kind = r'.kind ∧ r.detail = r'.detail := by
  refine ⟨fun h h' => ⟨?_, fun htext => ?_⟩, fun r r' => Report.text_inj⟩
  · rw [Fault.text_eq_iff]
    exact h.reports.alike_iff h'.reports
  · exact (Fault.text_eq_iff.1 htext).kind_eq

/-- An image in front of an extent that runs past the last address. The length of the extent is
not told, as its end is shown as the last address. -/
theorem text_eq_iff_sameFailure_pastTop :
    let i : Image := ⟨.zero, ⟨0x1000⟩⟩
    let c : Attempt := .bound i ⟨⟨0xfffffffffffffff0⟩, 32⟩
    let c' : Attempt := .bound i ⟨⟨0xfffffffffffffff0⟩, 48⟩
    ∃ fault fault', fault ≠ fault' ∧ c.FailsWith fault ∧ c'.FailsWith fault' ∧
      c.SameFailure c' ∧ fault.text = fault'.text := by
  intro i c c'
  have h : c.FailsWith (.headerOutside ⟨0x1000⟩ ⟨⟨0xfffffffffffffff0⟩, 32⟩) :=
    dif_neg (by decide)
  have h' : c'.FailsWith (.headerOutside ⟨0x1000⟩ ⟨⟨0xfffffffffffffff0⟩, 48⟩) :=
    dif_neg (by decide)
  have hsame : c.SameFailure c' := .bound rfl ⟨rfl, by decide⟩
  exact ⟨_, _, by decide, h, h', hsame, (text_eq_iff_sameFailure.1 h h').1.2 hsame⟩

end Attempt

end LoadedImage
