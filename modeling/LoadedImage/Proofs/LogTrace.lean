import LoadedImage.Binary
import LoadedImage.Proofs.CorrectionEffect
import LoadedImage.Proofs.LogRouting
import LoadedImage.Proofs.Numerals
import LoadedImage.Proofs.StoredForm

/-!
# What the log tells of a run

An image that is made, a binary that is opened and a table that is corrected are noted in the
log, whatever sink is at hand. The notes are described by what they tell: each number in them is
the numeral of something the operation was given or has come to, and a distance is told in two's
complement (`LogEntry.TellsImage`, `LogEntry.TellsBinary`, `LogEntry.TellsCorrection`).

`Operation.Told` says what an operation comes to and which entries belong to it. An operation
that is refused has none, and so has a correction by a bias of zero; a binary is told before the
image in it. The count that is told of a correction is that of the places where the table has
changed. `Operation.performAll_told` is about runs: the log of a run is told, one operation
after the other, by what each was given and has come to, and could not have been told otherwise.
-/

namespace LoadedImage

/-! ## Distances in two's complement -/

/-- The remainder of a distance in the address space. -/
def twosComplement (d : Int64) : Nat :=
  (d.toInt % UInt64.size).toNat

theorem twosComplement_eq_toNat (d : Int64) : twosComplement d = d.toUInt64.toNat := by
  rw [twosComplement, Address.toInt_emod_size]
  exact Nat.mod_eq_of_lt d.toUInt64.toNat_lt

/-- The drift of an image leads from the address it was linked at to its own. -/
theorem Image.linkAddress_add_drift (i : Image) :
    (i.linkAddress.word.toNat + twosComplement i.drift) % UInt64.size =
      i.address.word.toNat := by
  have hmove : i.linkAddress.move i.drift = i.address := i.address.move_distance i.linkAddress
  rw [twosComplement_eq_toNat, ← hmove]
  exact (UInt64.toNat_add _ _).symm

/-! ## Entries -/

namespace LogEntry

variable {e : LogEntry} {i : Image} {b : Binary}

theorem line_inj {e e' : LogEntry} : e.line = e'.line ↔ e = e' := by
  refine ⟨fun h => ?_, congrArg line⟩
  cases e
  cases e'
  simpa [line, Target.path_inj] using h

/-- The entry tells of an image where it is and where it was linked, and the distance between. -/
def TellsImage (e : LogEntry) (i : Image) : Prop :=
  ∃ linked drift : String,
    Radix.hex.IsNumeral linked.toList i.linkAddress.word.toNat ∧
      Radix.hex.IsNumeral drift.toList (twosComplement i.drift) ∧
        e.line = (.debug, "crate_image::image",
          "[Crate] header: " ++ i.address.text ++ ", self_addr: 0x" ++ linked ++
            ", relocation diff: 0x" ++ drift)

/-- The entry tells of a binary its name and the place and the length of its buffer. -/
def TellsBinary (e : LogEntry) (b : Binary) : Prop :=
  ∃ length : String, Radix.decimal.IsNumeral length.toList b.buffer.bytes.length ∧
    e.line = (.debug, "crate_image::input::backend",
      "[Load] " ++ b.shortName ++ ": header at " ++ b.buffer.start.text ++ ", length: " ++ length)

/-- The entry tells of a correction where the table lies, how many entries it has, how many of
them were corrected, and by which distance. -/
def TellsCorrection (e : LogEntry) (place : Address) (d : Int64) (entries corrected : Nat) :
    Prop :=
  ∃ table total count bias : String,
    Radix.hex.IsNumeral table.toList place.word.toNat ∧
      Radix.decimal.IsNumeral total.toList entries ∧
        Radix.decimal.IsNumeral count.toList corrected ∧
          Radix.hex.IsNumeral bias.toList (twosComplement d) ∧
            e.line = (.trace, "crate_image::reloc",
              "[Reloc] table: 0x" ++ table ++ ", entries: " ++ total ++ ", corrected: " ++
                count ++ ", bias: 0x" ++ bias)

/-- The distance is taken anew for the entry. It is the drift of the image. -/
theorem line_loadEntry_image (i : Image) :
    (Image.loadEntry i.header i.address).line = (.debug, "crate_image::image",
      "[Crate] header: " ++ i.address.text ++ ", self_addr: 0x" ++
        Radix.hex.write i.linkAddress.word.toNat ++ ", relocation diff: 0x" ++
          Radix.hex.write (twosComplement i.drift)) := by
  have hself : ", self_addr: 0x" = ", self_addr: " ++ Radix.hex.mark := rfl
  have hdiff : ", relocation diff: 0x" = ", relocation diff: " ++ Radix.hex.mark := rfl
  rw [twosComplement_eq_toNat, hself, hdiff]
  simp only [line, Image.loadEntry, Address.shortText, Address.distanceText, Radix.writeMarked,
    String.append_assoc]
  rfl

theorem line_correctionEntry (b : Bias) (place : Address) (entries corrected : Nat) :
    (b.correctionEntry place entries corrected).line = (.trace, "crate_image::reloc",
      "[Reloc] table: 0x" ++ Radix.hex.write place.word.toNat ++ ", entries: " ++
        Radix.decimal.write entries ++ ", corrected: " ++ Radix.decimal.write corrected ++
          ", bias: 0x" ++ Radix.hex.write (twosComplement b.distance)) := by
  have htable : "[Reloc] table: 0x" = "[Reloc] table: " ++ Radix.hex.mark := rfl
  have hbias : ", bias: 0x" = ", bias: " ++ Radix.hex.mark := rfl
  rw [twosComplement_eq_toNat, htable, hbias]
  simp only [line, Bias.correctionEntry, Address.shortText, Address.distanceText,
    Radix.writeMarked, String.append_assoc]
  rfl

theorem tellsImage_iff : e.TellsImage i ↔ e = Image.loadEntry i.header i.address := by
  simp only [TellsImage, Radix.isNumeral_toList_iff, exists_and_left, exists_eq_left,
    ← line_loadEntry_image, line_inj]

theorem tellsBinary_iff : e.TellsBinary b ↔ e = b.loadEntry := by
  simp only [TellsBinary, Radix.isNumeral_toList_iff, exists_eq_left]
  exact (line_inj : e.line = b.loadEntry.line ↔ _)

theorem tellsCorrection_iff {b : Bias} {place : Address} {entries corrected : Nat} :
    e.TellsCorrection place b.distance entries corrected ↔
      e = b.correctionEntry place entries corrected := by
  simp only [TellsCorrection, Radix.isNumeral_toList_iff, exists_and_left, exists_eq_left,
    ← line_correctionEntry, line_inj]

end LogEntry

/-! ## Operations -/

/-- An operation that can write to the log, with what it is given. -/
inductive Operation where
  | load (header : Header) (address : Address)
  | openImage (b : Binary)
  | openBounded (b : Binary)
  | correct (bias : Bias) (table : Table) (place : Address)
  | correctBounded (b : BoundedImage) (table : Table) (place : Address)

/-- What an operation comes to. -/
inductive Outcome where
  | image (result : Except Fault Image)
  | bounded (result : Except Fault BoundedImage)
  /-- How many entries were corrected, and the table after. -/
  | corrected (result : Except Fault Nat) (after : Table)

namespace Operation

/-- What an operation does and comes to. -/
def perform : Operation → Traced Outcome
  | load header address => (fun i => .image (.ok i)) <$> Image.load header address
  | openImage b => .image <$> b.image
  | openBounded b => .bounded <$> b.bounded
  | correct bias table place => (fun p => .corrected (.ok p.1) p.2) <$> bias.correct table place
  | correctBounded b table place => (fun p => .corrected p.1 p.2) <$> b.correct table place

/-- The outcomes of one operation after the other. -/
def performAll : List Operation → Traced (List Outcome)
  | [] => pure []
  | op :: ops => do
    let outcome ← op.perform
    let outcomes ← performAll ops
    pure (outcome :: outcomes)

/-- The entries tell of an operation and its outcome. -/
inductive Told : Operation → Outcome → List LogEntry → Prop
  | load {h : Header} {a : Address} {e : LogEntry} (he : e.TellsImage ⟨h, a⟩) :
    Told (.load h a) (.image (.ok ⟨h, a⟩)) [e]
  | short {b : Binary} (hshort : b.buffer.bytes.length < 80) :
    Told (.openImage b) (.image (.error (.shortHeader b.buffer.bytes.length))) []
  | image {b : Binary} {h : Header} {e e' : LogEntry} (hlong : 80 ≤ b.buffer.bytes.length)
    (hheader : b.header = .ok h) (he : e.TellsBinary b)
    (he' : e'.TellsImage ⟨h, b.buffer.start⟩) :
    Told (.openImage b) (.image (.ok ⟨h, b.buffer.start⟩)) [e, e']
  | boundedShort {b : Binary} (hshort : b.buffer.bytes.length < 80) :
    Told (.openBounded b) (.bounded (.error (.shortHeader b.buffer.bytes.length))) []
  /-- The bounds have nothing to add. -/
  | bounded {b : Binary} {h : Header} {result : Except Fault BoundedImage} {e e' : LogEntry}
    (hlong : 80 ≤ b.buffer.bytes.length) (hheader : b.header = .ok h)
    (hresult : BoundedImage.ofImage ⟨h, b.buffer.start⟩ b.buffer.extent = result)
    (he : e.TellsBinary b) (he' : e'.TellsImage ⟨h, b.buffer.start⟩) :
    Told (.openBounded b) (.bounded result) [e, e']
  | unmoved {b : Bias} {table : Table} {place : Address} (hzero : b.distance = 0) :
    Told (.correct b table place) (.corrected (.ok 0) table) []
  /-- All entries but the null ones have moved, and the count is that of the changes. -/
  | moved {b : Bias} {table after : Table} {place : Address} {n : Nat} {e : LogEntry}
    (hmoved : b.distance ≠ 0)
    (hafter : after = table.map fun a => if a = .null then .null else a.move b.distance)
    (hcount : n = table.differences after)
    (he : e.TellsCorrection place b.distance table.length n) :
    Told (.correct b table place) (.corrected (.ok n) after) [e]
  /-- The fault is that of the first stray entry, and the table is as it was. -/
  | refused {b : BoundedImage} {table : Table} {place : Address} {k : Nat} {a : Address}
    {fault : Fault} (hfirst : b.FirstStray table k a)
    (hfault : fault = .strayEntry k a (a.move b.drift) b.extent) :
    Told (.correctBounded b table place) (.corrected (.error fault) table) []
  /-- A table without stray entries is corrected by the bare image, and told of as by it. -/
  | allowed {b : BoundedImage} {table after : Table} {place : Address} {n : Nat}
    {es : List LogEntry} (hclean : ∀ a ∈ table, ¬b.IsStray a)
    (h : Told (.correct b.bias table place) (.corrected (.ok n) after) es) :
    Told (.correctBounded b table place) (.corrected (.ok n) after) es

end Operation

/-! ## What each operation writes -/

namespace Binary

variable {b : Binary}

/-- A binary is short, or it has a header. -/
theorem short_or_header (b : Binary) :
    b.buffer.bytes.length < 80 ∨ 80 ≤ b.buffer.bytes.length ∧ ∃ h, b.header = .ok h := by
  rcases Nat.lt_or_ge b.buffer.bytes.length 80 with hshort | hlong
  · exact .inl hshort
  · obtain ⟨h, hdecode, -⟩ := Header.exists_decode_eq_ok hlong
    exact .inr ⟨hlong, h, hdecode⟩

theorem image_of_short (hshort : b.buffer.bytes.length < 80) :
    b.image = pure (.error (.shortHeader b.buffer.bytes.length)) := by
  have hheader : b.header = .error (.shortHeader b.buffer.bytes.length) :=
    Header.decode_eq_error_iff.2 ⟨hshort, rfl⟩
  rw [image, hheader]

theorem image_of_header_eq_ok {header : Header} (h : b.header = .ok header) :
    b.image = ⟨.ok ⟨header, b.buffer.start⟩,
      [.logged b.loadEntry, .logged (Image.loadEntry header b.buffer.start)]⟩ := by
  rw [image, h]
  rfl

end Binary

namespace Bias

variable {b : Bias}

theorem correct_of_distance_eq_zero (h : b.distance = 0) (table : Table) (place : Address) :
    b.correct table place = pure (0, table) := by
  rw [correct, if_pos (distance_eq_zero_iff.1 h)]

/-- A correction that moves entries tells how many places have changed. -/
theorem correct_of_distance_ne_zero (h : b.distance ≠ 0) {table after : Table} (place : Address)
    (hafter : after = table.map fun a => if a = .null then .null else a.move b.distance) :
    b.correct table place = ⟨(table.differences after, after),
      [.logged (b.correctionEntry place table.length (table.differences after))]⟩ := by
  have hzero : b ≠ .zero := mt distance_eq_zero_iff.2 h
  have hmap : after = table.map b.correctEntry := by
    rw [hafter, funext b.correctEntry_eq_ite]
  rw [hmap, b.differences_correctEntry, if_neg hzero, correct, if_neg hzero]
  rfl

end Bias

namespace Operation

/-- The events of the operation are entries that tell of it and of its outcome. -/
def IsTold (op : Operation) : Prop :=
  ∃ entries : List LogEntry,
    op.perform.events = entries.map .logged ∧ Told op op.perform.value entries

theorem isTold_openImage (b : Binary) : (openImage b).IsTold := by
  rw [IsTold, perform]
  rcases b.short_or_header with hshort | ⟨hlong, h, hheader⟩
  · rw [Binary.image_of_short hshort]
    exact ⟨[], rfl, .short hshort⟩
  · rw [Binary.image_of_header_eq_ok hheader]
    exact ⟨[_, _], rfl, .image hlong hheader (LogEntry.tellsBinary_iff.2 rfl)
      (LogEntry.tellsImage_iff.2 rfl)⟩

theorem isTold_openBounded (b : Binary) : (openBounded b).IsTold := by
  rw [IsTold, perform, Binary.bounded]
  rcases b.short_or_header with hshort | ⟨hlong, h, hheader⟩
  · rw [Binary.image_of_short hshort]
    exact ⟨[], rfl, .boundedShort hshort⟩
  · rw [Binary.image_of_header_eq_ok hheader]
    exact ⟨[_, _], rfl, .bounded hlong hheader rfl (LogEntry.tellsBinary_iff.2 rfl)
      (LogEntry.tellsImage_iff.2 rfl)⟩

theorem isTold_correct (b : Bias) (table : Table) (place : Address) :
    (correct b table place).IsTold := by
  rw [IsTold, perform]
  by_cases hzero : b.distance = 0
  · rw [Bias.correct_of_distance_eq_zero hzero]
    exact ⟨[], rfl, .unmoved hzero⟩
  · rw [Bias.correct_of_distance_ne_zero hzero place rfl]
    exact ⟨[_], rfl, .moved hzero rfl rfl (LogEntry.tellsCorrection_iff.2 rfl)⟩

theorem isTold_correctBounded (b : BoundedImage) (table : Table) (place : Address) :
    (correctBounded b table place).IsTold := by
  rw [IsTold, perform]
  rcases b.not_stray_or_firstStray table with hclean | ⟨k, a, hfirst⟩
  · obtain ⟨entries, hevents, htold⟩ := isTold_correct b.bias table place
    rw [b.correct_of_not_stray table hclean, Functor.map_map]
    exact ⟨entries, hevents, .allowed hclean htold⟩
  · rw [b.correct_of_firstStray table hfirst]
    exact ⟨[], rfl, .refused hfirst rfl⟩

theorem isTold (op : Operation) : op.IsTold := by
  cases op with
  | load h a => exact ⟨[_], rfl, .load (LogEntry.tellsImage_iff.2 rfl)⟩
  | openImage b => exact isTold_openImage b
  | openBounded b => exact isTold_openBounded b
  | correct b table place => exact isTold_correct b table place
  | correctBounded b table place => exact isTold_correctBounded b table place

/-- What is told of an operation is what it came to and wrote. -/
theorem Told.perform_eq {op : Operation} {o : Outcome} {es : List LogEntry} (h : Told op o es) :
    op.perform = ⟨o, es.map .logged⟩ := by
  induction h with
  | load he =>
    rw [LogEntry.tellsImage_iff.1 he]
    rfl
  | short hshort =>
    rw [perform, Binary.image_of_short hshort]
    rfl
  | image _ hheader hb hi =>
    rw [perform, Binary.image_of_header_eq_ok hheader, LogEntry.tellsBinary_iff.1 hb,
      LogEntry.tellsImage_iff.1 hi]
    rfl
  | boundedShort hshort =>
    rw [perform, Binary.bounded, Binary.image_of_short hshort]
    rfl
  | bounded _ hheader hresult hb hi =>
    rw [perform, Binary.bounded, Binary.image_of_header_eq_ok hheader,
      LogEntry.tellsBinary_iff.1 hb, LogEntry.tellsImage_iff.1 hi, ← hresult]
    rfl
  | unmoved hzero =>
    rw [perform, Bias.correct_of_distance_eq_zero hzero]
    rfl
  | moved hmoved hafter hcount he =>
    rw [perform, Bias.correct_of_distance_ne_zero hmoved _ hafter,
      LogEntry.tellsCorrection_iff.1 he, hcount]
    rfl
  | refused hfirst hfault =>
    rw [perform, BoundedImage.correct_of_firstStray _ _ hfirst, hfault]
    rfl
  | allowed hclean _ ih =>
    rw [perform, BoundedImage.correct_of_not_stray _ _ hclean, Functor.map_map]
    exact ih

/-! ## Runs -/

/-- The entries tell of one operation and its outcome after the other. -/
inductive ToldAll : List Operation → List Outcome → List LogEntry → Prop
  | nil : ToldAll [] [] []
  | cons {op : Operation} {ops : List Operation} {o : Outcome} {os : List Outcome}
    {es rest : List LogEntry} (h : Told op o es) (hrest : ToldAll ops os rest) :
    ToldAll (op :: ops) (o :: os) (es ++ rest)

theorem ToldAll.performAll_eq {ops : List Operation} {os : List Outcome} {es : List LogEntry}
    (h : ToldAll ops os es) : performAll ops = ⟨os, es.map .logged⟩ := by
  induction h with
  | nil => rfl
  | cons h _ ih =>
    rw [performAll, h.perform_eq, ih, List.map_append]
    exact Traced.ext rfl (by simp)

theorem exists_toldAll (ops : List Operation) :
    ∃ entries : List LogEntry, (performAll ops).events = entries.map .logged ∧
      ToldAll ops (performAll ops).value entries := by
  induction ops with
  | nil => exact ⟨[], rfl, .nil⟩
  | cons op ops ih =>
    obtain ⟨es, hevents, htold⟩ := op.isTold
    obtain ⟨rest, hevents', htold'⟩ := ih
    refine ⟨es ++ rest, ?_, .cons htold htold'⟩
    rw [performAll, Traced.events_bind, Traced.events_bind, Traced.events_pure, hevents, hevents',
      List.append_nil, List.map_append]

/-- All that a run does besides its outcomes is to write entries to the log. What it has come to
and these entries, in order, are the one account of the operations that is told. The distance
taken for the entry of an image is its drift and that of its bias, and leads from the address it
was linked at to its own. -/
theorem performAll_told (ops : List Operation) :
    (∃ entries : List LogEntry, (performAll ops).events = entries.map .logged ∧
        ∀ outcomes told, ToldAll ops outcomes told ↔
          outcomes = (performAll ops).value ∧ told = entries) ∧
      ∀ i : Image, i.address.distance i.header.linkAddress = i.drift ∧
        i.bias.distance = i.drift ∧
        (i.linkAddress.word.toNat + twosComplement i.drift) % UInt64.size =
          i.address.word.toNat := by
  obtain ⟨entries, hevents, htold⟩ := exists_toldAll ops
  refine ⟨⟨entries, hevents, fun outcomes told => ⟨fun h => ?_, ?_⟩⟩,
    fun i => ⟨rfl, rfl, i.linkAddress_add_drift⟩⟩
  · rw [h.performAll_eq] at hevents ⊢
    exact ⟨rfl, (List.map_inj_right fun _ _ => Event.logged.inj).1 hevents⟩
  · rintro ⟨rfl, rfl⟩
    exact htold

end Operation

end LoadedImage
