import LoadedImage.BoundedImage
import Mathlib.Tactic.ByContra

/-!
# Bounded answers are restricted bare answers

A bounded image answers what its bare image answers, or refuses to. `Restricts p a r` says
so of one answer: `r` is the bare answer `a` if `p` holds, and a fault of the bounds if it
does not. `RestrictsTrace` says the same of an answer with events: they are those of the
bare answer, and a refusal has none.

The condition is membership in the extent, as the image tests it by distances
(`BoundedImage.base_restricts`, `BoundedImage.glue_restricts`,
`BoundedImage.debugSection_restricts`), or the same in natural numbers, where nothing wraps
(`Extent.HasByte`, `Extent.HasSpan`). `BoundedImage.ofImage_restricts` puts all answers
together: whatever the extent, an image is bounded by it if and only if its header lies
there, and then every answer is restricted to it.
-/

namespace LoadedImage

/-- The answer is the bare one if that is allowed, and else a fault of the bounds. -/
structure Restricts {α : Type} (allowed : Prop) (bare : α) (answer : Except Fault α) :
    Prop where
  passes : allowed → answer = .ok bare
  refuses : ¬allowed → ∃ fault, answer = .error fault ∧ fault.kind = .bounds

/-- The answer is the bare one with the same events if that is allowed, and else a fault of
the bounds without events. -/
structure RestrictsTrace {α : Type} (allowed : Prop) (bare : Traced α)
    (answer : Traced (Except Fault α)) : Prop where
  passes : allowed → answer = .ok <$> bare
  refuses : ¬allowed → ∃ fault, answer = pure (.error fault) ∧ fault.kind = .bounds

namespace Restricts

variable {α : Type} {p q : Prop} {a b : α} {r : Except Fault α}

theorem of_iff (h : Restricts p a r) (hpq : p ↔ q) : Restricts q a r where
  passes hq := h.passes (hpq.2 hq)
  refuses hq := h.refuses (mt hpq.1 hq)

theorem exists_ok_iff (h : Restricts p a r) : (∃ b, r = .ok b) ↔ p := by
  refine ⟨?_, ?_⟩
  · rintro ⟨b, hb⟩
    by_contra hp
    obtain ⟨fault, hf, -⟩ := h.refuses hp
    rw [hf] at hb
    cases hb
  · intro hp
    exact ⟨a, h.passes hp⟩

theorem eq_of_ok (h : Restricts p a r) (hr : r = .ok b) : b = a := by
  have hp := h.exists_ok_iff.1 ⟨b, hr⟩
  rw [h.passes hp] at hr
  exact (Except.ok.inj hr).symm

end Restricts

namespace RestrictsTrace

variable {α : Type} {p q : Prop} {t : Traced α} {r : Traced (Except Fault α)}

theorem of_iff (h : RestrictsTrace p t r) (hpq : p ↔ q) : RestrictsTrace q t r where
  passes hq := h.passes (hpq.2 hq)
  refuses hq := h.refuses (mt hpq.1 hq)

theorem value (h : RestrictsTrace p t r) : Restricts p t.value r.value where
  passes hp := by rw [h.passes hp, Traced.value_map]
  refuses hp := by
    obtain ⟨fault, hr, hf⟩ := h.refuses hp
    exact ⟨fault, by rw [hr, Traced.value_pure], hf⟩

end RestrictsTrace

/-! ## The extent in natural numbers -/

namespace Extent

/-- The address is one of the extent's, as numbers. -/
def HasByte (e : Extent) (a : Address) : Prop :=
  e.start.word.toNat ≤ a.word.toNat ∧ a.word.toNat < e.start.word.toNat + e.length.toNat

/-- The `size` numbers from `base` on are the extent's. -/
def HasSpan (e : Extent) (base : Address) (size : Nat) : Prop :=
  e.start.word.toNat ≤ base.word.toNat ∧
    base.word.toNat + size ≤ e.start.word.toNat + e.length.toNat

theorem mem_iff_hasByte {e : Extent} {a : Address} : a ∈ e ↔ e.HasByte a :=
  mem_iff_toNat

theorem covers_iff_hasSpan {e : Extent} {base : Address} {size : UInt64} :
    e.Covers base size ↔ e.HasSpan base size.toNat :=
  covers_iff_toNat

end Extent

/-! ## Single answers -/

namespace BoundedImage

theorem ofImage_eq_ok_iff {i : Image} {e : Extent} {b : BoundedImage} :
    ofImage i e = .ok b ↔ b.image = i ∧ b.extent = e := by
  unfold ofImage
  refine ⟨?_, ?_⟩
  · intro h
    split at h
    · cases h
      exact ⟨rfl, rfl⟩
    · cases h
  · rintro ⟨rfl, rfl⟩
    exact dif_pos b.header_covered

theorem exists_ofImage_eq_ok_iff {i : Image} {e : Extent} :
    (∃ b, ofImage i e = .ok b) ↔ e.Covers i.address Header.storedSize := by
  refine ⟨?_, ?_⟩
  · rintro ⟨b, hb⟩
    obtain ⟨rfl, rfl⟩ := ofImage_eq_ok_iff.1 hb
    exact b.header_covered
  · intro h
    exact ⟨⟨i, e, h⟩, dif_pos h⟩

variable (b : BoundedImage)

theorem base_restricts : Restricts (b.image.base ∈ b.extent) b.image.base b.base where
  passes h := if_pos h
  refuses h := ⟨_, if_neg h, rfl⟩

theorem glue_restricts (g : Glue) :
    Restricts ((b.image.glue g).address ∈ b.extent) (b.image.glue g) (b.glue g) where
  passes h := if_pos h
  refuses h := ⟨_, if_neg h, rfl⟩

theorem debugSection_restricts (s : DebugSection) (sink : Sink) :
    RestrictsTrace (b.extent.Covers (b.image.sectionBase s) (s.size b.image.header))
      (b.image.debugSection s sink) (b.debugSection s sink) where
  passes h := if_pos h
  refuses h := ⟨_, if_neg h, rfl⟩

theorem value_debugSection (s : DebugSection) (sink : Sink) :
    (b.debugSection s sink).value =
      if b.extent.Covers (b.image.sectionBase s) (s.size b.image.header) then
        .ok (.ofSize (b.image.sectionBase s) (s.size b.image.header))
      else .error (.sectionOutside s (b.image.sectionBase s) (s.size b.image.header) b.extent) := by
  by_cases h : b.extent.Covers (b.image.sectionBase s) (s.size b.image.header)
  · rw [if_pos h]
    exact congrArg Traced.value (if_pos h)
  · rw [if_neg h]
    exact congrArg Traced.value (if_neg h)

/-! ## All answers -/

/-- `b` knows of itself what the image `i` knows, and answers what `i` answers as far as it
lies in the extent `e`. -/
structure RestrictsImage (b : BoundedImage) (i : Image) (e : Extent) : Prop where
  image : b.image = i
  extent : b.extent = e
  header : b.header = i.header
  address : b.address = i.address
  linkAddress : b.linkAddress = i.linkAddress
  drift : b.drift = i.drift
  bias : b.bias = i.bias
  base : Restricts (e.HasByte i.base) i.base b.base
  glue : ∀ g, Restricts (e.HasByte (i.glue g).address) (i.glue g) (b.glue g)
  activateGlue :
    Restricts (e.HasByte i.activateGlue.address) i.activateGlue b.activateGlue
  mainExitTaskGlue :
    Restricts (e.HasByte i.mainExitTaskGlue.address) i.mainExitTaskGlue b.mainExitTaskGlue
  unwindGlue : Restricts (e.HasByte i.unwindGlue.address) i.unwindGlue b.unwindGlue
  yieldGlue : Restricts (e.HasByte i.yieldGlue.address) i.yieldGlue b.yieldGlue
  debugSection : ∀ s sink,
    RestrictsTrace
      (e.HasSpan (i.address.move (s.distance i.header)) (s.size i.header).toNat)
      (i.debugSection s sink) (b.debugSection s sink)
  debugInfo : ∀ sink,
    RestrictsTrace
      (e.HasSpan (i.address.move i.header.debugInfo) i.header.debugInfoSize.toNat)
      (i.debugInfo sink) (b.debugInfo sink)
  debugAbbreviations : ∀ sink,
    RestrictsTrace
      (e.HasSpan (i.address.move i.header.debugAbbrev) i.header.debugAbbrevSize.toNat)
      (i.debugAbbreviations sink) (b.debugAbbreviations sink)

theorem restrictsImage_self : b.RestrictsImage b.image b.extent := by
  have hglue : ∀ g, Restricts (b.extent.HasByte (b.image.glue g).address) (b.image.glue g)
      (b.glue g) := fun g => (b.glue_restricts g).of_iff Extent.mem_iff_hasByte
  have hsection : ∀ s sink,
      RestrictsTrace
        (b.extent.HasSpan (b.image.address.move (s.distance b.image.header))
          (s.size b.image.header).toNat)
        (b.image.debugSection s sink) (b.debugSection s sink) :=
    fun s sink => (b.debugSection_restricts s sink).of_iff Extent.covers_iff_hasSpan
  exact
    { image := rfl
      extent := rfl
      header := rfl
      address := rfl
      linkAddress := rfl
      drift := rfl
      bias := rfl
      base := b.base_restricts.of_iff Extent.mem_iff_hasByte
      glue := hglue
      activateGlue := hglue .activate
      mainExitTaskGlue := hglue .mainExitTask
      unwindGlue := hglue .unwind
      yieldGlue := hglue .yield
      debugSection := hsection
      debugInfo := hsection .info
      debugAbbreviations := hsection .abbreviations }

/-- An image can be bounded by an extent if and only if its header lies there. Every answer
of the bounded image is then the bare answer restricted to the extent. -/
theorem ofImage_restricts (i : Image) (e : Extent) :
    ((∃ b, ofImage i e = .ok b) ↔ e.HasSpan i.address 80) ∧
      (¬e.HasSpan i.address 80 →
        ∃ fault, ofImage i e = .error fault ∧ fault.kind = .bounds) ∧
      ∀ b, ofImage i e = .ok b → b.RestrictsImage i e := by
  have hcovers : e.Covers i.address Header.storedSize ↔ e.HasSpan i.address 80 :=
    Extent.covers_iff_hasSpan
  refine ⟨exists_ofImage_eq_ok_iff.trans hcovers, ?_, ?_⟩
  · intro h
    exact ⟨_, dif_neg (mt hcovers.1 h), rfl⟩
  · intro b hb
    obtain ⟨rfl, rfl⟩ := ofImage_eq_ok_iff.1 hb
    exact b.restrictsImage_self

end BoundedImage

end LoadedImage
