import LoadedImage.Proofs.RegionSpan
import LoadedImage.Proofs.TableCorrection

/-!
# Answers move with the image

Map an image and its extent to another place: every address moves by one distance, and may
wrap. As long as both extents fit into the address space, the checks cannot tell the two
places apart. They compare addresses before they take a distance from the start, but in an
extent that fits an address below the start is too far from it, counted around the top, to
pass for a byte of the extent (`Extent.start_le_iff_toNat_depth`). What is left of the checks
are distances, and these stay the same (`Extent.mem_move_iff`, `Extent.covers_move_iff`).

So an answer at one place is the answer at the other one moved, and a fault is the same fault
with its addresses moved (`Moved`). `BoundedImage.ofImage_moved` says this of bounding an image
and of all that the bounded image answers. One case is left out, that of an empty span, which
may stand right behind the last byte: behind an extent that ends with the last address it
would stand at null.
-/

namespace LoadedImage

/-! ## Moving all addresses by one distance -/

/-- The extent at the other place. -/
def Extent.move (e : Extent) (d : Int64) : Extent :=
  ⟨e.start.move d, e.length⟩

/-- The image with its header at the other place. -/
def Image.move (i : Image) (d : Int64) : Image :=
  ⟨i.header, i.address.move d⟩

/-- The region with both ends at the other place. -/
def Region.move (r : Region) (d : Int64) : Region :=
  ⟨r.base.move d, r.limit.move d⟩

/-- The entry with its address at the other place. -/
def Glue.Entry.move (entry : Glue.Entry) (d : Int64) : Glue.Entry :=
  ⟨entry.glue, entry.address.move d⟩

/-- The table with all its entries at the other place. -/
def Glue.Table.move (t : Glue.Table) (d : Int64) : Glue.Table :=
  ⟨t.entries.map (·.move d), (List.length_map _).trans t.length_entries⟩

/-- The fault at the other place. The entry of a table is an address as linked and stays as
it is. -/
def Fault.move : Fault → Int64 → Fault
  | .shortHeader length, _ => .shortHeader length
  | .headerOutside a e, d => .headerOutside (a.move d) (e.move d)
  | .baseOutside a e, d => .baseOutside (a.move d) (e.move d)
  | .glueOutside g a e, d => .glueOutside g (a.move d) (e.move d)
  | .sectionOutside s base size e, d => .sectionOutside s (base.move d) size (e.move d)
  | .strayEntry k entry corrected e, d => .strayEntry k entry (corrected.move d) (e.move d)

theorem Region.length_move (r : Region) (d : Int64) : (r.move d).length = r.length :=
  Address.word_sub_word_move r.limit r.base d

theorem Region.ofSize_move (base : Address) (size : UInt64) (d : Int64) :
    ofSize (base.move d) size = (ofSize base size).move d := by
  rw [ofSize, Address.advance_eq_move, Address.move_comm, ← Address.advance_eq_move]
  rfl

/-! ## Extents that fit -/

namespace Extent

variable {e : Extent} {d : Int64} {a base : Address} {size : UInt64}

/-- No address of the extent lies beyond the last one. -/
def Fits (e : Extent) : Prop :=
  e.start.word.toNat + e.length.toNat ≤ UInt64.size

/-- There is an address behind the extent. -/
def EndsBelowTop (e : Extent) : Prop :=
  e.start.word.toNat + e.length.toNat < UInt64.size

/-- The distance from the start stays below the top for the addresses that do not lie before
the start. -/
theorem start_le_iff_toNat_depth :
    e.start ≤ a ↔ e.start.word.toNat + (e.depth a).toNat < UInt64.size := by
  have ha := a.word.toNat_lt
  have hs := e.start.word.toNat_lt
  rw [Address.le_iff_toNat, depth, UInt64.toNat_sub]
  unfold UInt64.size
  omega

theorem mem_iff_depth (h : e.Fits) : a ∈ e ↔ e.depth a < e.length := by
  refine and_iff_right_of_imp fun hlt => start_le_iff_toNat_depth.2 ?_
  rw [UInt64.lt_iff_toNat_lt] at hlt
  unfold Fits at h
  omega

theorem covers_iff_depth (h : e.Fits) (hsize : size ≠ 0 ∨ e.EndsBelowTop) :
    e.Covers base size ↔ e.depth base ≤ e.length ∧ size ≤ e.length - e.depth base := by
  refine and_iff_right_of_imp fun ⟨hdepth, hroom⟩ => start_le_iff_toNat_depth.2 ?_
  rw [UInt64.le_iff_toNat_le, UInt64.toNat_sub_of_le _ _ hdepth] at hroom
  rw [UInt64.le_iff_toNat_le] at hdepth
  unfold Fits at h
  -- only an empty span may stand at the full length from the start, which is one too far if
  -- the extent ends with the last address
  rcases hsize with hsize | hsize
  · have hpos : size.toNat ≠ 0 := fun hzero => hsize (UInt64.toNat_inj.1 hzero)
    omega
  · unfold EndsBelowTop at hsize
    omega

theorem depth_move (e : Extent) (a : Address) (d : Int64) :
    (e.move d).depth (a.move d) = e.depth a :=
  a.word_sub_word_move e.start d

theorem mem_move_iff (h : e.Fits) (h' : (e.move d).Fits) : a.move d ∈ e.move d ↔ a ∈ e := by
  rw [mem_iff_depth h, mem_iff_depth h', depth_move]
  rfl

theorem covers_move_iff (h : e.Fits) (h' : (e.move d).Fits)
    (hsize : size ≠ 0 ∨ e.EndsBelowTop ∧ (e.move d).EndsBelowTop) :
    (e.move d).Covers (base.move d) size ↔ e.Covers base size := by
  rw [covers_iff_depth h (hsize.imp_right And.left),
    covers_iff_depth h' (hsize.imp_right And.right), depth_move]
  rfl

end Extent

/-! ## Answers at two places -/

/-- The answer at one place and the answer at the other: either both are given and related,
or both are refused for the same cause. -/
inductive Moved (d : Int64) {α : Type} (related : α → α → Prop) :
    Except Fault α → Except Fault α → Prop where
  | ok {a a' : α} (h : related a a') : Moved d related (.ok a) (.ok a')
  | error (fault : Fault) : Moved d related (.error fault) (.error (fault.move d))

namespace Moved

variable {d : Int64} {α β : Type} {related : α → α → Prop}

theorem ite {p p' : Prop} [Decidable p] [Decidable p'] {a a' : α} {fault fault' : Fault}
    (hp : p' ↔ p) (ha : related a a') (hfault : fault' = fault.move d) :
    Moved d related (if p then .ok a else .error fault)
      (if p' then .ok a' else .error fault') := by
  by_cases h : p
  · rw [if_pos h, if_pos (hp.2 h)]
    exact .ok ha
  · rw [if_neg h, if_neg (mt hp.1 h), hfault]
    exact .error fault

theorem bind {related' : β → β → Prop} {x x' : Except Fault α} {f f' : α → Except Fault β}
    (hx : Moved d related x x')
    (hf : ∀ a a', related a a' → Moved d related' (f a) (f' a')) :
    Moved d related' (x >>= f) (x' >>= f') := by
  cases hx with
  | ok h => exact hf _ _ h
  | error fault => exact .error fault

/-- Whether an answer is given, and for what it is refused. -/
theorem discard {x x' : Except Fault α} (hx : Moved d related x x') :
    Moved d (fun _ _ => True) (discard x) (discard x') := by
  cases hx with
  | ok => exact .ok trivial
  | error fault => exact .error fault

/-- A loop gets as far at the one place as at the other. -/
theorem forM {f f' : α → Except Fault PUnit}
    (h : ∀ a, Moved d (fun _ _ => True) (f a) (f' a)) (l : List α) :
    Moved d (fun _ _ => True) (forM l f) (forM l f') := by
  induction l with
  | nil => exact .ok trivial
  | cons a l ih =>
    rw [List.forM_cons, List.forM_cons]
    exact (h a).bind fun _ _ _ => ih

end Moved

theorem Image.locate_move (i : Image) (d distance : Int64) :
    (i.move d).locate distance = (i.locate distance).move d :=
  i.address.move_comm d distance

theorem Image.glue_move (i : Image) (d : Int64) (g : Glue) :
    (i.move d).glue g = (i.glue g).move d :=
  congrArg (Glue.Entry.mk g) (i.locate_move d _)

theorem Image.glueTable_move (i : Image) (d : Int64) :
    (i.move d).glueTable = i.glueTable.move d := by
  refine Glue.Table.ext ?_
  change Glue.all.map (i.move d).glue = (Glue.all.map i.glue).map (·.move d)
  rw [List.map_map]
  exact List.map_congr_left fun g _ => i.glue_move d g

theorem Image.drift_move (i : Image) (d : Int64) : (i.move d).drift = i.drift + d :=
  i.address.distance_move_left i.linkAddress d

theorem Image.apply_bias_move (i : Image) (d : Int64) (a : Address) :
    (i.move d).bias.apply a = (i.bias.apply a).move d := by
  change a.move (i.move d).drift = (a.move i.drift).move d
  rw [drift_move, Address.move_move]

namespace BoundedImage

/-- The second image answers what the first one does, moved by the distance: bases, glue and
regions, which keep their length, and the entries of a corrected table. Faults name the same
piece of glue and the same index. Only the count of a correction is its own, for an image
without drift counts nothing. Where the tables lie makes no difference. -/
structure MovesTo (d : Int64) (b b' : BoundedImage) : Prop where
  drift : b'.drift = b.drift + d
  base : Moved d (fun a a' => a' = a.move d) b.base b'.base
  glue : ∀ g, Moved d (fun entry entry' => entry' = entry.move d) (b.glue g) (b'.glue g)
  glueTable : Moved d (fun t t' => t' = t.move d) b.glueTable b'.glueTable
  debugSection : ∀ s sink,
    s.size b.header ≠ 0 ∨ b.extent.EndsBelowTop ∧ b'.extent.EndsBelowTop →
      Moved d (fun r r' => r' = r.move d ∧ r'.length = r.length)
        (b.debugSection s sink).value (b'.debugSection s sink).value
  correct : ∀ table place place',
    Moved d (fun _ _ => True) (b.correct table place).value.1 (b'.correct table place').value.1
  table_correct : ∀ table place place' n, (b.correct table place).value.1 = .ok n →
    (b.correct table place).value.2.length = table.length ∧
      (b'.correct table place').value.2 =
        List.zipWith (fun old new => if old = .null then .null else new.move d)
          table (b.correct table place).value.2

section MovedTogether

variable {d : Int64} {b b' : BoundedImage}

variable (himage : b'.image = b.image.move d) (hextent : b'.extent = b.extent.move d)
  (hfit : b.extent.Fits) (hfit' : (b.extent.move d).Fits)

include himage hextent hfit hfit'

theorem base_moved : Moved d (fun a a' => a' = a.move d) b.base b'.base := by
  have hbase : b'.image.base = b.image.base.move d := by
    rw [himage]
    exact b.image.locate_move d _
  unfold base
  rw [hbase, hextent]
  exact .ite (Extent.mem_move_iff hfit hfit') rfl rfl

theorem glue_moved (g : Glue) :
    Moved d (fun entry entry' => entry' = entry.move d) (b.glue g) (b'.glue g) := by
  have hentry : b'.image.glue g = (b.image.glue g).move d := by
    rw [himage, Image.glue_move]
  unfold glue
  rw [hentry, hextent]
  exact .ite (Extent.mem_move_iff hfit hfit') rfl rfl

theorem glueTable_moved : Moved d (fun t t' => t' = t.move d) b.glueTable b'.glueTable := by
  have hloop := Moved.forM (fun g => (glue_moved himage hextent hfit hfit' g).discard) Glue.all
  refine hloop.bind fun _ _ _ => .ok ?_
  rw [himage, Image.glueTable_move]

theorem debugSection_moved (s : DebugSection) (sink : Sink)
    (hsize : s.size b.header ≠ 0 ∨ b.extent.EndsBelowTop ∧ b'.extent.EndsBelowTop) :
    Moved d (fun r r' => r' = r.move d ∧ r'.length = r.length)
      (b.debugSection s sink).value (b'.debugSection s sink).value := by
  rw [hextent] at hsize
  have hbase : b'.image.sectionBase s = (b.image.sectionBase s).move d := by
    rw [himage]
    exact b.image.locate_move d _
  have hheader : s.size b'.image.header = s.size b.image.header := by
    rw [himage, Image.move]
  rw [value_debugSection, value_debugSection, hbase, hheader, hextent]
  refine .ite (Extent.covers_move_iff hfit hfit' hsize) ?_ rfl
  rw [Region.ofSize_move]
  exact ⟨rfl, Region.length_move _ _⟩

theorem isStray_move_iff (a : Address) : b'.IsStray a ↔ b.IsStray a := by
  change a ≠ .null ∧ b'.image.bias.apply a ∉ b'.extent ↔ _
  rw [himage, hextent, Image.apply_bias_move, Extent.mem_move_iff hfit hfit']
  rfl

theorem firstStray?_move (table : Table) : b'.firstStray? table = b.firstStray? table := by
  simp only [firstStray?, isStray_move_iff himage hextent hfit hfit']

theorem correct_moved (table : Table) (place place' : Address) :
    Moved d (fun _ _ => True) (b.correct table place).value.1
      (b'.correct table place').value.1 := by
  rw [correct, correct, firstStray?_move himage hextent hfit hfit']
  cases b.firstStray? table with
  | none => exact .ok trivial
  | some p =>
    simp only [himage, hextent, Image.apply_bias_move]
    exact .error _

theorem table_correct_moved {table : Table} {place : Address} (place' : Address) {n : Nat}
    (hn : (b.correct table place).value.1 = .ok n) :
    (b.correct table place).value.2.length = table.length ∧
      (b'.correct table place').value.2 =
        List.zipWith (fun old new => if old = .null then .null else new.move d)
          table (b.correct table place).value.2 := by
  have hclean := (b.exists_correct_eq_ok_iff table).1 ⟨n, hn⟩
  have hclean' : ∀ a ∈ table, ¬b'.IsStray a := fun a ha =>
    mt (isStray_move_iff himage hextent hfit hfit' a).1 (hclean a ha)
  rw [b.correct_of_not_stray table hclean, b'.correct_of_not_stray table hclean',
    Traced.value_map, Traced.value_map, Bias.table_correct, Bias.table_correct]
  refine ⟨List.length_map _, ?_⟩
  rw [List.zipWith_map_right, List.zipWith_self]
  refine List.map_congr_left fun a _ => ?_
  split
  · next hnull => rw [hnull, Bias.correctEntry_null]
  · next hlive =>
    rw [Bias.correctEntry_of_ne_null _ hlive, Bias.correctEntry_of_ne_null _ hlive]
    change b'.image.bias.apply a = _
    rw [himage, Image.apply_bias_move]
    rfl

theorem movesTo_of_move : b.MovesTo d b' where
  drift := by
    rw [drift, himage]
    exact b.image.drift_move d
  base := base_moved himage hextent hfit hfit'
  glue := glue_moved himage hextent hfit hfit'
  glueTable := glueTable_moved himage hextent hfit hfit'
  debugSection := debugSection_moved himage hextent hfit hfit'
  correct := correct_moved himage hextent hfit hfit'
  table_correct _ _ place' _ := table_correct_moved himage hextent hfit hfit' place'

end MovedTogether

/-- An image and its extent at two places, and both extents fit into the address space. The
image is bounded at both or at neither, and what it answers at one place it answers at the
other, moved by the distance between the two. -/
theorem ofImage_moved (i : Image) {e : Extent} {d : Int64} (hfit : e.Fits)
    (hfit' : (e.move d).Fits) :
    Moved d (fun b b' => b.MovesTo d b') (ofImage i e) (ofImage (i.move d) (e.move d)) := by
  have hheader : (e.move d).Covers (i.move d).address Header.storedSize ↔
      e.Covers i.address Header.storedSize :=
    Extent.covers_move_iff hfit hfit' (.inl (by decide))
  by_cases h : e.Covers i.address Header.storedSize
  · rw [ofImage, ofImage, dif_pos h, dif_pos (hheader.2 h)]
    exact .ok (movesTo_of_move rfl rfl hfit hfit')
  · rw [ofImage, ofImage, dif_neg h, dif_neg (mt hheader.1 h)]
    exact .error _

/-- An image moved from the end of the address space to a low address: the limit of its debug
information is null before the move, and lies behind the base after it. -/
theorem ofImage_moved_atTop :
    (atTop 16).extent.Fits ∧ ((atTop 16).extent.move 0x1060).Fits ∧
      ∃ b', ofImage ((atTop 16).image.move 0x1060) ((atTop 16).extent.move 0x1060) = .ok b' ∧
        (atTop 16).MovesTo 0x1060 b' ∧
        ((atTop 16).debugSection .info .recorder).value =
          .ok ⟨⟨0xfffffffffffffff0⟩, .null⟩ ∧
        (b'.debugSection .info .recorder).value = .ok ⟨⟨0x1050⟩, ⟨0x1060⟩⟩ := by
  have hfit : (atTop 16).extent.Fits := by
    unfold Extent.Fits
    decide
  have hfit' : ((atTop 16).extent.move 0x1060).Fits := by
    unfold Extent.Fits
    decide
  have hcovers : ((atTop 16).extent.move 0x1060).Covers ((atTop 16).image.move 0x1060).address
      Header.storedSize := by decide
  have hspan : ((atTop 16).extent.move 0x1060).Covers
      (((atTop 16).image.move 0x1060).sectionBase .info) 16 := by decide
  have hb : ofImage (atTop 16).image (atTop 16).extent = .ok (atTop 16) :=
    ofImage_eq_ok_iff.2 ⟨rfl, rfl⟩
  have hb' : ofImage ((atTop 16).image.move 0x1060) ((atTop 16).extent.move 0x1060) =
      .ok ⟨_, _, hcovers⟩ := dif_pos hcovers
  have hmoved := ofImage_moved (atTop 16).image hfit hfit'
  rw [hb, hb'] at hmoved
  cases hmoved with
  | ok h =>
    refine ⟨hfit, hfit', _, hb', h, rfl, ?_⟩
    rw [value_debugSection]
    exact if_pos hspan

/-- An empty span that stands right behind the last byte is left behind by a move to the end
of the address space. -/
example :
    Extent.Covers ⟨⟨0x1000⟩, 16⟩ ⟨0x1010⟩ 0 ∧
      ¬Extent.Covers (Extent.move ⟨⟨0x1000⟩, 16⟩ (-0x1010)) (Address.move ⟨0x1010⟩ (-0x1010))
        0 := by
  decide

end BoundedImage

end LoadedImage
