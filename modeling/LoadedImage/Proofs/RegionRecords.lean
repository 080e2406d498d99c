import LoadedImage.Proofs.AddressText
import LoadedImage.Proofs.Restriction
import LoadedImage.Query

/-!
# One record for each region

A caller that hands its sink to many calls, on bare and bounded images and in any order, finds
in it one record for each region it was handed out, and no other. The reason is that there are
two kinds of answer only (`Reporting`): a new region, made by the one operation that
reports, and an answer that has nothing to do with the sink. A section that is refused is one of
the second kind.

`Call.answerAll_recorder` says this of a run of calls. The record tells which region it is about,
as it names both ends in full (`Region.message_record_inj`). And what the calls answer does not
depend on where the records go.
-/

namespace LoadedImage

/-! ## The record of a region -/

/-- The message of a record names both ends of the region, and neither runs into what follows
it. -/
theorem Region.message_record_inj {r r' : Region} :
    r.record.message = r'.record.message ↔ r.base = r'.base ∧ r.limit = r'.limit := by
  simp only [record, String.append_assoc, String.append_right_inj, String.append_left_inj,
    Address.text_append_inj, Address.text_inj]

theorem Region.records_create (base : Address) (size : UInt64) :
    (create .recorder base size).records = [(ofSize base size).record] := rfl

/-! ## Two kinds of answer -/

/-- An answer that depends on a sink is either a new region, which is reported to the sink, or
the same for all sinks, without a record and without a region. -/
inductive Reporting (answer : Sink → Traced Answer) : Prop where
  | region (base : Address) (size : UInt64)
      (h : ∀ sink, answer sink = .region <$> Region.create sink base size)
  | silent (t : Traced Answer) (hregion : t.value.region? = none) (hrecords : t.records = [])
      (h : ∀ sink, answer sink = t)

namespace Reporting

variable {answer : Sink → Traced Answer}

theorem of_pure (a : Answer) (ha : a.region? = none) : Reporting fun _ => pure a :=
  .silent (pure a) ha rfl fun _ => rfl

/-- A recorder receives the record of the region that is handed out, if there is one. -/
theorem records_eq (h : Reporting answer) :
    (answer .recorder).records =
      ((answer .recorder).value.region?.map Region.record).toList := by
  cases h with
  | region base size h =>
    rw [h, Traced.records_map, Region.records_create]
    rfl
  | silent t hregion hrecords h =>
    rw [h, hrecords, hregion]
    rfl

theorem value_eq (h : Reporting answer) (sink sink' : Sink) :
    (answer sink).value = (answer sink').value := by
  cases h with
  | region base size h =>
    rw [h, h, Traced.value_map, Traced.value_map, Region.value_create, Region.value_create]
  | silent t _ _ h => rw [h, h]

end Reporting

/-! ## Answers of images -/

@[simp]
theorem Bias.records_correct (b : Bias) (table : Table) (place : Address) :
    (b.correct table place).records = [] := by
  unfold correct
  split <;> rfl

@[simp]
theorem BoundedImage.records_correct (b : BoundedImage) (table : Table) (place : Address) :
    (b.correct table place).records = [] := by
  unfold correct
  split <;> simp

theorem Answer.region?_ofExcept {α : Type} {give : α → Answer}
    (h : ∀ a, (give a).region? = none) (e : Except Fault α) :
    (Answer.ofExcept give e).region? = none := by
  cases e with
  | ok a => exact h a
  | error fault => rfl

theorem Image.reporting_ask (i : Image) (q : Query) : Reporting (i.ask · q) := by
  cases q with
  | debugSection s => exact .region _ _ fun _ => rfl
  | debugInfo => exact .region _ _ fun _ => rfl
  | debugAbbreviations => exact .region _ _ fun _ => rfl
  | correct table place =>
    exact .silent (i.ask .discard (.correct table place)) rfl (by simp [ask]) fun _ => rfl
  | _ => exact .of_pure _ rfl

/-- A section that is refused is refused before the sink is touched. -/
theorem BoundedImage.reporting_debugSection (b : BoundedImage) (s : DebugSection) :
    Reporting fun sink => .ofExcept .region <$> b.debugSection s sink := by
  by_cases h : b.extent.Covers (b.image.sectionBase s) (s.size b.image.header)
  · refine .region (b.image.sectionBase s) (s.size b.image.header) fun sink => ?_
    rw [(b.debugSection_restricts s sink).passes h, Functor.map_map]
    rfl
  · refine .silent (pure (.refused (.sectionOutside s (b.image.sectionBase s)
      (s.size b.image.header) b.extent))) rfl rfl fun sink => ?_
    exact congrArg (Answer.ofExcept .region <$> ·) (if_neg h)

theorem BoundedImage.reporting_ask (b : BoundedImage) (q : Query) : Reporting (b.ask · q) := by
  cases q with
  | debugSection s => exact b.reporting_debugSection s
  | debugInfo => exact b.reporting_debugSection .info
  | debugAbbreviations => exact b.reporting_debugSection .abbreviations
  | correct table place =>
    exact .silent (b.ask .discard (.correct table place)) rfl (by simp [ask]) fun _ => rfl
  | base | glue | glueTable | activateGlue | mainExitTaskGlue | unwindGlue | yieldGlue =>
    exact .of_pure _ (Answer.region?_ofExcept (fun _ => rfl) _)
  | _ => exact .of_pure _ rfl

/-! ## Runs of calls -/

/-- A call that can be handed a sink: a new region, or a query to an image. -/
inductive Call where
  | create (base : Address) (size : UInt64)
  | bare (i : Image) (q : Query)
  | bounded (b : BoundedImage) (q : Query)

namespace Call

/-- The answer to a call that is handed the sink. -/
def answer (sink : Sink) : Call → Traced Answer
  | create base size => .region <$> Region.create sink base size
  | bare i q => i.ask sink q
  | bounded b q => b.ask sink q

/-- The answers of one call after the other, all with the same sink. -/
def answerAll (sink : Sink) : List Call → Traced (List Answer)
  | [] => pure []
  | c :: calls => do
    let first ← c.answer sink
    let rest ← answerAll sink calls
    pure (first :: rest)

theorem reporting_answer (c : Call) : Reporting (answer · c) := by
  cases c with
  | create base size => exact .region base size fun _ => rfl
  | bare i q => exact i.reporting_ask q
  | bounded b q => exact b.reporting_ask q

theorem records_answerAll (calls : List Call) :
    (answerAll .recorder calls).records = calls.filterMap fun c =>
      (c.answer .recorder).value.region?.map Region.record := by
  induction calls with
  | nil => rfl
  | cons c calls ih =>
    rw [answerAll, Traced.records_bind, Traced.records_bind, ih, c.reporting_answer.records_eq]
    cases hregion : (c.answer .recorder).value.region? with
    | none => simp [hregion]
    | some r => simp [hregion]

theorem value_answerAll (sink : Sink) (calls : List Call) :
    (answerAll sink calls).value = calls.map fun c => (c.answer .recorder).value := by
  induction calls with
  | nil => rfl
  | cons c calls ih =>
    rw [answerAll, Traced.value_bind, Traced.value_bind, ih,
      c.reporting_answer.value_eq sink .recorder]
    rfl

/-- A recorder that is handed to a run of calls receives, in the order of the calls, the record of
each region they hand out and nothing else. The category is that of memory layout, and two such
messages are the same if and only if the regions are. What the calls answer is the same with any
other sink. -/
theorem answerAll_recorder (calls : List Call) :
    (answerAll .recorder calls).records =
        (calls.filterMap fun c => (c.answer .recorder).value.region?.map Region.record) ∧
      (∀ r : Region, r.record.category = .single .mem) ∧
      (∀ r r' : Region, r.record.message = r'.record.message ↔
        r.base = r'.base ∧ r.limit = r'.limit) ∧
      ∀ sink, (answerAll sink calls).value = calls.map fun c => (c.answer .recorder).value :=
  ⟨records_answerAll calls, fun _ => rfl, fun _ _ => Region.message_record_inj,
    fun sink => value_answerAll sink calls⟩

end Call

end LoadedImage
