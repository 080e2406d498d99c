import LoadedImage.Proofs.Loading
import LoadedImage.Query

/-!
# The fields behind an answer

The answer to a query is made from few words of the header: one for an address or a piece of
glue, two for a debug section. `Query.places` lists where they stand, and an answer of a bare
or a bounded image is the same for headers with the same values in these places
(`Image.ask_congr`, `BoundedImage.ask_congr`).

A value of a header is decoded from the eight bytes in its place, and the bytes are all there is
to the header. So the same holds of buffers: if two of them differ in one place only, the headers
differ there and nowhere else, and only answers that are made from it can differ. Bytes behind
the header make no difference (`Binary.answers_by_place`).
-/

namespace LoadedImage

/-- The places of the words an answer is made from, in the stored order of the fields. -/
def Query.places : Query → List Nat
  | .address => []
  | .linkAddress | .drift | .bias | .correct _ _ => [0]
  | .base => [1]
  | .glue .activate | .activateGlue => [2]
  | .glue .mainExitTask | .mainExitTaskGlue => [3]
  | .glue .unwind | .unwindGlue => [4]
  | .glue .yield | .yieldGlue => [5]
  | .glueTable => [2, 3, 4, 5]
  | .debugSection .info | .debugInfo => [6, 7]
  | .debugSection .abbreviations | .debugAbbreviations => [8, 9]

theorem Query.places_glue_subset (g : Glue) :
    (Query.glue g).places ⊆ Query.glueTable.places := by
  cases g <;> simp [places]

/-! ## Headers with the same values -/

namespace Header

/-- The headers have the same values in the given places. -/
def AgreeAt (places : List Nat) (h h' : Header) : Prop :=
  ∀ k ∈ places, h.values[k]? = h'.values[k]?

variable {h h' : Header}

theorem AgreeAt.linkAddress (e : AgreeAt [0] h h') : h.linkAddress = h'.linkAddress := by
  have hword : h.linkAddress.word = h'.linkAddress.word := by
    simpa [AgreeAt, values, Int.natCast_inj, UInt64.toNat_inj] using e
  exact congrArg Address.mk hword

theorem AgreeAt.imageBase (e : AgreeAt [1] h h') : h.imageBase = h'.imageBase := by
  simpa [AgreeAt, values, Int64.toInt_inj] using e

theorem AgreeAt.glueDistance {g : Glue} (e : AgreeAt (Query.glue g).places h h') :
    g.distance h = g.distance h' := by
  cases g <;> simpa [AgreeAt, values, Query.places, Glue.distance, Glue.field, word,
    Int64.toInt_inj] using e

theorem AgreeAt.sectionPlace {s : DebugSection}
    (e : AgreeAt (Query.debugSection s).places h h') :
    s.distance h = s.distance h' ∧ s.size h = s.size h' := by
  cases s <;> simpa [AgreeAt, values, Query.places, DebugSection.distance, DebugSection.size,
    Int64.toInt_inj, Int.natCast_inj, UInt64.toNat_inj] using e

end Header

/-! ## Images with such headers -/

section Images

variable {i i' : Image} (haddress : i.address = i'.address)

include haddress

theorem Image.linkAddress_bias_congr (e : i.header.AgreeAt [0] i'.header) :
    i.linkAddress = i'.linkAddress ∧ i.drift = i'.drift ∧ i.bias = i'.bias := by
  have hlink : i.linkAddress = i'.linkAddress := e.linkAddress
  simp [drift, bias, hlink, haddress]

theorem Image.base_congr (e : i.header.AgreeAt [1] i'.header) : i.base = i'.base := by
  simp [base, locate, e.imageBase, haddress]

theorem Image.glue_congr {g : Glue} (e : i.header.AgreeAt (Query.glue g).places i'.header) :
    i.glue g = i'.glue g := by
  simp [glue, locate, e.glueDistance, haddress]

theorem Image.sectionBase_congr {s : DebugSection}
    (e : i.header.AgreeAt (Query.debugSection s).places i'.header) :
    i.sectionBase s = i'.sectionBase s := by
  simp [sectionBase, locate, e.sectionPlace.1, haddress]

theorem Image.glueTable_congr (e : i.header.AgreeAt Query.glueTable.places i'.header) :
    i.glueTable = i'.glueTable := by
  have hall : i.glue = i'.glue := funext fun g =>
    glue_congr haddress fun k hk => e k (Query.places_glue_subset g hk)
  rw [glueTable, hall, glueTable]

theorem Image.debugSection_congr {s : DebugSection}
    (e : i.header.AgreeAt (Query.debugSection s).places i'.header) (sink : Sink) :
    i.debugSection s sink = i'.debugSection s sink := by
  rw [debugSection, sectionBase_congr haddress e, e.sectionPlace.2, debugSection]

theorem Image.ask_congr {q : Query} (e : i.header.AgreeAt q.places i'.header) (sink : Sink) :
    i.ask sink q = i'.ask sink q := by
  cases q with
  | address => simp only [ask, haddress]
  | linkAddress => simp only [ask, (linkAddress_bias_congr haddress e).1]
  | drift => simp only [ask, (linkAddress_bias_congr haddress e).2.1]
  | bias | correct table place => simp only [ask, (linkAddress_bias_congr haddress e).2.2]
  | base => simp only [ask, base_congr haddress e]
  | glue g => simp only [ask, glue_congr haddress e]
  | activateGlue => simp only [ask, activateGlue, glue_congr haddress (g := .activate) e]
  | mainExitTaskGlue =>
    simp only [ask, mainExitTaskGlue, glue_congr haddress (g := .mainExitTask) e]
  | unwindGlue => simp only [ask, unwindGlue, glue_congr haddress (g := .unwind) e]
  | yieldGlue => simp only [ask, yieldGlue, glue_congr haddress (g := .yield) e]
  | glueTable => simp only [ask, glueTable_congr haddress e]
  | debugSection s => simp only [ask, debugSection_congr haddress e]
  | debugInfo => simp only [ask, debugInfo, debugSection_congr haddress (s := .info) e]
  | debugAbbreviations =>
    simp only [ask, debugAbbreviations, debugSection_congr haddress (s := .abbreviations) e]

end Images

namespace BoundedImage

section Answers

variable {b b' : BoundedImage} (haddress : b.image.address = b'.image.address)
  (hextent : b.extent = b'.extent)

include haddress hextent

theorem base_congr (e : b.header.AgreeAt [1] b'.header) : b.base = b'.base := by
  simp only [base, Image.base_congr haddress e, hextent]

theorem glue_congr {g : Glue} (e : b.header.AgreeAt (Query.glue g).places b'.header) :
    b.glue g = b'.glue g := by
  simp only [glue, Image.glue_congr haddress e, hextent]

theorem glueTable_congr (e : b.header.AgreeAt Query.glueTable.places b'.header) :
    b.glueTable = b'.glueTable := by
  have hall : b.glue = b'.glue := funext fun g =>
    glue_congr haddress hextent fun k hk => e k (Query.places_glue_subset g hk)
  simp only [glueTable, hall, Image.glueTable_congr haddress e]

theorem debugSection_congr {s : DebugSection}
    (e : b.header.AgreeAt (Query.debugSection s).places b'.header) (sink : Sink) :
    b.debugSection s sink = b'.debugSection s sink := by
  have hsize : s.size b.image.header = s.size b'.image.header := e.sectionPlace.2
  simp only [debugSection, Image.sectionBase_congr haddress e, hsize, hextent]

theorem correct_congr (e : b.header.AgreeAt [0] b'.header) (table : Table) (place : Address) :
    b.correct table place = b'.correct table place := by
  have hbias : b.image.bias = b'.image.bias := (Image.linkAddress_bias_congr haddress e).2.2
  have hiff : ∀ a, b.IsStray a ↔ b'.IsStray a := by
    intro a
    rw [IsStray, IsStray, hbias, hextent]
  have hstray : b.firstStray? table = b'.firstStray? table := by
    simp only [firstStray?, hiff]
  simp only [correct, hstray, hbias, hextent]

theorem ask_congr {q : Query} (e : b.header.AgreeAt q.places b'.header) (sink : Sink) :
    b.ask sink q = b'.ask sink q := by
  cases q with
  | address | linkAddress | drift | bias => exact Image.ask_congr haddress e sink
  | base => simp only [ask, base_congr haddress hextent e]
  | glue g => simp only [ask, glue_congr haddress hextent e]
  | activateGlue => simp only [ask, activateGlue, glue_congr haddress hextent (g := .activate) e]
  | mainExitTaskGlue =>
    simp only [ask, mainExitTaskGlue, glue_congr haddress hextent (g := .mainExitTask) e]
  | unwindGlue => simp only [ask, unwindGlue, glue_congr haddress hextent (g := .unwind) e]
  | yieldGlue => simp only [ask, yieldGlue, glue_congr haddress hextent (g := .yield) e]
  | glueTable => simp only [ask, glueTable_congr haddress hextent e]
  | debugSection s => simp only [ask, debugSection_congr haddress hextent e]
  | debugInfo => simp only [ask, debugInfo, debugSection_congr haddress hextent (s := .info) e]
  | debugAbbreviations =>
    simp only [ask, debugAbbreviations,
      debugSection_congr haddress hextent (s := .abbreviations) e]
  | correct table place => simp only [ask, correct_congr haddress hextent e]

end Answers

/-- Whether an image can be bounded depends on its address alone. -/
theorem map_ofImage_congr {α : Type} {i i' : Image} {e e' : Extent} {give : BoundedImage → α}
    (haddress : i.address = i'.address) (hextent : e = e')
    (hgive : ∀ b b' : BoundedImage, b.image = i → b'.image = i' → b.extent = e →
      b'.extent = e' → give b = give b') :
    (ofImage i e).map give = (ofImage i' e').map give := by
  subst hextent
  by_cases hcovers : e.Covers i.address Header.storedSize
  · have hcovers' : e.Covers i'.address Header.storedSize := haddress ▸ hcovers
    rw [ofImage, ofImage, dif_pos hcovers, dif_pos hcovers']
    exact congrArg Except.ok (hgive _ _ rfl rfl rfl rfl)
  · have hcovers' : ¬e.Covers i'.address Header.storedSize := haddress ▸ hcovers
    rw [ofImage, ofImage, dif_neg hcovers, dif_neg hcovers', haddress]

end BoundedImage

/-! ## Bytes and values -/

namespace Header

variable {bytes bytes' : List UInt8}

/-- Two blocks are equal if their bytes are. -/
theorem block_eq_iff {k : Nat} :
    block bytes k = block bytes' k ↔
      ∀ j, 8 * k ≤ j → j < 8 * k + 8 → bytes[j]? = bytes'[j]? := by
  have hbyte : ∀ (bytes : List UInt8) (r : Nat),
      (block bytes k)[r]? = if r < 8 then bytes[8 * k + r]? else none := by
    intro bytes r
    rw [block, List.getElem?_take, List.getElem?_drop]
  constructor
  · intro h j hlow hhigh
    have hj := hbyte bytes (j - 8 * k)
    rw [h, hbyte bytes' (j - 8 * k), if_pos (by omega), if_pos (by omega)] at hj
    rw [← Nat.add_sub_cancel' hlow, hj]
  · intro h
    refine List.ext_getElem? fun r => ?_
    rw [hbyte, hbyte]
    split
    · exact h _ (by omega) (by omega)
    · rfl

theorem eq_of_block {k : Nat} (hblock : block bytes k = block bytes' k)
    (hsame : ∀ j, j < 8 * k ∨ 8 * k + 8 ≤ j → bytes[j]? = bytes'[j]?) : bytes = bytes' := by
  refine List.ext_getElem? fun j => ?_
  by_cases hj : 8 * k ≤ j ∧ j < 8 * k + 8
  · exact block_eq_iff.1 hblock j hj.1 hj.2
  · exact hsame j (by omega)

theorem decode_congr (hsame : ∀ j < 80, bytes[j]? = bytes'[j]?) :
    decode bytes = decode bytes' := by
  have htake : bytes.take byteCount = bytes'.take byteCount := by
    refine List.ext_getElem? fun j => ?_
    rw [List.getElem?_take, List.getElem?_take]
    split
    · next hj => exact hsame j hj
    · rfl
  rw [← decode_take, htake, decode_take]

theorem value_inj {h h' : Header} {f : Field} : h.value f = h'.value f ↔ h.word f = h'.word f := by
  have hsigned : Function.Injective UInt64.toInt64 :=
    Function.LeftInverse.injective UInt64.toUInt64_toInt64
  unfold value
  split
  · rw [Int64.toInt_inj, hsigned.eq_iff]
  · rw [Int.natCast_inj, UInt64.toNat_inj]

theorem storedWord_eq_iff (hlong : 80 ≤ bytes.length) (hlong' : 80 ≤ bytes'.length) {f : Field} :
    storedWord bytes f = storedWord bytes' f ↔
      block bytes f.index = block bytes' f.index := by
  refine ⟨fun h => ?_, congrArg fun block => UInt64.ofNat (LittleEndian.toNat block)⟩
  rw [← toBytes_storedWord hlong, ← toBytes_storedWord hlong', h]

variable {h h' : Header} (hd : decode bytes = .ok h) (hd' : decode bytes' = .ok h')

include hd hd'

/-- A place decides what is decoded from it, and is decided by it. -/
theorem getElem?_values_eq_iff {k : Nat} (hk : k < 10) :
    h.values[k]? = h'.values[k]? ↔ block bytes k = block bytes' k := by
  obtain ⟨hlong, hword⟩ := of_decode_eq_ok hd
  obtain ⟨hlong', hword'⟩ := of_decode_eq_ok hd'
  have hget : h.values[k]? = some h.values[k] := List.getElem?_eq_getElem hk
  obtain ⟨f, rfl, -⟩ := exists_field_of_getElem?_values hget
  rw [getElem?_values_index, getElem?_values_index, Option.some_inj, value_inj, hword, hword',
    storedWord_eq_iff hlong hlong']

theorem agreeAt_of_block {places : List Nat}
    (e : ∀ k ∈ places, block bytes k = block bytes' k) : AgreeAt places h h' := by
  intro k hk
  by_cases hlt : k < 10
  · exact (getElem?_values_eq_iff hd hd' hlt).2 (e k hk)
  · have hnone : ∀ h : Header, h.values[k]? = none := fun h =>
      List.getElem?_eq_none (Nat.not_lt.1 hlt)
    rw [hnone, hnone]

end Header

/-! ## Binaries -/

namespace Binary

/-- Two binaries give the same answers to the queries for which `p` holds: with their images,
with their bounded images and with the images behind the bounds. A slot of the glue table counts
as the piece of glue in it. If an image cannot be had from one of them, it cannot be had from the
other for the same reason. -/
structure AnswersAlike (p : Query → Prop) (b b' : Binary) : Prop where
  image : ∀ q, p q → ∀ sink,
    b.image.value.map (·.ask sink q) = b'.image.value.map (·.ask sink q)
  slot : ∀ g, p (.glue g) →
    b.image.value.map (·.glueTable.get g) = b'.image.value.map (·.glueTable.get g)
  bounded : ∀ q, p q → ∀ sink,
    b.bounded.value.map (·.ask sink q) = b'.bounded.value.map (·.ask sink q)
  behind : ∀ q, p q → ∀ sink,
    b.bounded.value.map (·.image.ask sink q) = b'.bounded.value.map (·.image.ask sink q)
  extent : b.bounded.value.map (·.extent) = b'.bounded.value.map (·.extent)

theorem exists_bounded_eq_ok {b : Binary} (hheader : 80 ≤ b.buffer.bytes.length)
    (hlength : b.buffer.bytes.length ≤ Int64.maxValue.toInt) :
    ∃ c, b.bounded.value = .ok c := by
  obtain ⟨c, -, -, -, hloads⟩ := exists_loads hheader hlength
  exact ⟨c, (hloads b rfl).bounded⟩

section TwoBuffers

variable {b b' : Binary} {h h' : Header} (hstart : b.buffer.start = b'.buffer.start)
  (hlength : b.buffer.bytes.length = b'.buffer.bytes.length)

include hstart hlength

theorem map_bounded_congr {α : Type} {give : BoundedImage → α} (hb : b.header = .ok h)
    (hb' : b'.header = .ok h')
    (hgive : ∀ c c' : BoundedImage, c.image = ⟨h, b.buffer.start⟩ →
      c'.image = ⟨h', b'.buffer.start⟩ → c.extent = c'.extent → give c = give c') :
    b.bounded.value.map give = b'.bounded.value.map give := by
  have hextent : b.buffer.extent = b'.buffer.extent := by
    rw [Buffer.extent, Buffer.extent, hstart, hlength]
  rw [value_bounded, value_bounded, hb, hb']
  exact BoundedImage.map_ofImage_congr hstart hextent fun c c' hc hc' he he' =>
    hgive c c' hc hc' (by rw [he, he', hextent])

theorem answersAlike_of_agreeAt {p : Query → Prop} (hb : b.header = .ok h)
    (hb' : b'.header = .ok h') (e : ∀ q, p q → h.AgreeAt q.places h') : AnswersAlike p b b' where
  image q hq sink := by
    rw [value_image, value_image, hb, hb']
    exact congrArg Except.ok (Image.ask_congr hstart (e q hq) sink)
  slot g hg := by
    have hglue : (Image.mk h b.buffer.start).glue g = (Image.mk h' b'.buffer.start).glue g :=
      Image.glue_congr hstart (e _ hg)
    rw [value_image, value_image, hb, hb']
    simp only [Except.map, Image.glueTable, Glue.Table.get_ofFn, hglue]
  bounded q hq sink := by
    refine map_bounded_congr hstart hlength hb hb' fun c c' hc hc' hextent => ?_
    refine BoundedImage.ask_congr ?_ hextent ?_ sink
    · rw [hc, hc', hstart]
    · rw [BoundedImage.header, BoundedImage.header, hc, hc']
      exact e q hq
  behind q hq sink := by
    refine map_bounded_congr hstart hlength hb hb' fun c c' hc hc' _ => ?_
    rw [hc, hc']
    exact Image.ask_congr hstart (e q hq) sink
  extent := map_bounded_congr hstart hlength hb hb' fun _ _ _ _ hextent => hextent

/-- Two buffers of the same length at the same address, with room for a header. If they differ in
one place only, the headers in them agree in all other places and not in this one, and every
answer is the same that is not made from it. If they differ behind the header only, the headers
and all answers are the same. -/
theorem answers_by_place (hlong : 80 ≤ b.buffer.bytes.length) :
    ∃ h h', b.header = .ok h ∧ b'.header = .ok h' ∧
      (b.buffer.bytes.length ≤ Int64.maxValue.toInt →
        (∃ c, b.bounded.value = .ok c) ∧ ∃ c', b'.bounded.value = .ok c') ∧
      (∀ k < 10,
        (∀ j, j < 8 * k ∨ 8 * k + 8 ≤ j → b.buffer.bytes[j]? = b'.buffer.bytes[j]?) →
          (∀ j, j ≠ k → h.values[j]? = h'.values[j]?) ∧
          (b.buffer.bytes ≠ b'.buffer.bytes → h.values[k]? ≠ h'.values[k]?) ∧
          AnswersAlike (fun q => k ∉ q.places) b b') ∧
      ((∀ j < 80, b.buffer.bytes[j]? = b'.buffer.bytes[j]?) →
        h = h' ∧ AnswersAlike (fun _ => True) b b') := by
  have hlong' : 80 ≤ b'.buffer.bytes.length := hlength ▸ hlong
  obtain ⟨h, hb, -⟩ := Header.exists_decode_eq_ok hlong
  obtain ⟨h', hb', -⟩ := Header.exists_decode_eq_ok hlong'
  refine ⟨h, h', hb, hb', fun hshort => ?_, fun k hk hsame => ?_, fun hsame => ?_⟩
  · exact ⟨exists_bounded_eq_ok hlong hshort, exists_bounded_eq_ok hlong' (hlength ▸ hshort)⟩
  · have hagree : ∀ places : List Nat, k ∉ places → h.AgreeAt places h' := by
      refine fun places hk => Header.agreeAt_of_block hb hb' fun j hj => ?_
      have hne : j ≠ k := ne_of_mem_of_not_mem hj hk
      exact Header.block_eq_iff.2 fun n _ _ => hsame n (by omega)
    refine ⟨fun j hj => hagree [j] (by simpa using hj.symm) j (List.mem_singleton_self j),
      fun hne heq => hne (Header.eq_of_block ?_ hsame),
      answersAlike_of_agreeAt hstart hlength hb hb' fun q => hagree q.places⟩
    exact (Header.getElem?_values_eq_iff hb hb' hk).1 heq
  · have heq : h = h' := by
      rw [Header.decode_congr hsame, hb'] at hb
      exact (Except.ok.inj hb).symm
    exact ⟨heq, answersAlike_of_agreeAt hstart hlength hb hb' fun _ _ _ _ => by rw [heq]⟩

end TwoBuffers

/-- The first byte of the third word is another one, and nothing but the activation glue and the
glue table can tell. -/
theorem answers_by_place_sampleBytes :
    let b : Binary := ⟨"sample", .null, sampleBytes⟩
    let b' : Binary := ⟨"other", .null, sampleBytes.set 16 0⟩
    b.buffer.start = b'.buffer.start ∧ b.buffer.bytes.length = b'.buffer.bytes.length ∧
      80 ≤ b.buffer.bytes.length ∧ ∃ h h', b.header = .ok h ∧ b'.header = .ok h' ∧
        h.values[2]? ≠ h'.values[2]? ∧
        (∃ c, b.bounded.value = .ok c) ∧ (∃ c', b'.bounded.value = .ok c') ∧
        AnswersAlike (fun q => 2 ∉ q.places) b b' := by
  intro b b'
  have hstart : b.buffer.start = b'.buffer.start := rfl
  have hlength : b.buffer.bytes.length = b'.buffer.bytes.length := (List.length_set ..).symm
  have hlong : 80 ≤ b.buffer.bytes.length := by decide
  have hshort : b.buffer.bytes.length ≤ Int64.maxValue.toInt := by decide
  have hsame : ∀ j, j < 8 * 2 ∨ 8 * 2 + 8 ≤ j → b.buffer.bytes[j]? = b'.buffer.bytes[j]? :=
    fun j hj => (List.getElem?_set_ne (by omega)).symm
  have hne : b.buffer.bytes ≠ b'.buffer.bytes := by decide
  obtain ⟨h, h', hb, hb', hbounded, hplace, -⟩ := answers_by_place hstart hlength hlong
  obtain ⟨-, hthird, halike⟩ := hplace 2 (by decide) hsame
  obtain ⟨hc, hc'⟩ := hbounded hshort
  exact ⟨hstart, hlength, hlong, h, h', hb, hb', hthird hne, hc, hc', halike⟩

end Binary

end LoadedImage
