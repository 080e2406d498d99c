import LoadedImage.Diagnostics.Sink
import LoadedImage.Proofs.CategoryNames

/-!
# What the log tells of a record

The level of a log entry is picked by all topics of the category, and its target by the lowest
one alone. Most topics have no target of their own and share one; there the name of the category
stands in brackets before the message, and since no bracketed name begins another one, it can be
told from whatever the message is. So target and text tell the name and the message, and of the
category only that is lost on which neither its name nor its level depends
(`Record.entry_faithful`).
-/

namespace LoadedImage

/-! ## Lines -/

theorem Target.path_inj {a b : Target} : a.path = b.path ↔ a = b := by
  refine ⟨fun h => ?_, congrArg path⟩
  cases a <;> cases b <;> first | rfl | exact absurd h (by decide)

/-- The topic that has the target to itself. -/
def Target.topic? : Target → Option Topic
  | err => some .err
  | mem => some .mem
  | dwarf => some .dwarf
  | _ => none

/-- What a log is given: the level, the path of the target and the text. -/
def LogEntry.line (e : LogEntry) : Level × String × String :=
  (e.level, e.target.path, e.message)

/-! ## Levels -/

/-- One of the topics is set that are written in bulk: memory, traces and debug sections. -/
def Category.HasBulkBit (c : Category) : Prop :=
  c.HasBit Topic.mem.index ∨ c.HasBit Topic.trace.index ∨ c.HasBit Topic.dwarf.index

namespace Record

variable {r r' : Record}

theorem meets_bulk_iff {c : Category} :
    c.Meets bulk ↔ .mem ∈ c ∨ .trace ∈ c ∨ .dwarf ∈ c := by
  simp only [bulk, Category.meets_union_iff, Category.meets_single_iff, or_assoc]

/-- One test for a common bit is three tests for a topic. -/
theorem level_eq_ite (r : Record) :
    r.level = if .err ∈ r.category then .error
      else if .mem ∈ r.category ∨ .trace ∈ r.category ∨ .dwarf ∈ r.category then .trace
      else .debug := by
  simp only [level, meets_bulk_iff]

theorem level_eq_error_iff : r.level = .error ↔ r.category.HasBit Topic.err.index := by
  rw [← Category.mem_iff_hasBit, level_eq_ite]
  split_ifs <;> simp [*]

theorem level_eq_trace_iff :
    r.level = .trace ↔ ¬ r.category.HasBit Topic.err.index ∧ r.category.HasBulkBit := by
  simp only [Category.HasBulkBit, ← Category.mem_iff_hasBit, level_eq_ite]
  split_ifs <;> simp [*]

theorem level_eq_debug_iff :
    r.level = .debug ↔ ¬ r.category.HasBit Topic.err.index ∧ ¬ r.category.HasBulkBit := by
  simp only [Category.HasBulkBit, ← Category.mem_iff_hasBit, level_eq_ite]
  split_ifs <;> simp [*]

/-! ## Levels and names -/

/-- A category with the name of a topic that is written in bulk has the bit of this topic, and no
error bit, which is the lowest of all. -/
theorem level_eq_trace_of_name (h : r.category.name ∈ ["mem", "trace", "dwarf"]) :
    r.level = .trace := by
  have hlowest : ∃ t ∈ [Topic.mem, .trace, .dwarf], r.category.lowest? = some t := by
    simpa [← Category.name_eq_topic_name_iff, Topic.name] using h
  obtain ⟨t, hbulk, ht⟩ := hlowest
  obtain ⟨hmem, hbelow⟩ := Category.lowest?_eq_some_iff.1 ht
  have hbit := Category.mem_iff_hasBit.1 hmem
  rw [level_eq_trace_iff, ← Category.mem_iff_hasBit]
  simp only [List.mem_cons, List.not_mem_nil, or_false] at hbulk
  obtain rfl | rfl | rfl := hbulk
  · exact ⟨hbelow .err (by decide), .inl hbit⟩
  · exact ⟨hbelow .err (by decide), .inr (.inl hbit)⟩
  · exact ⟨hbelow .err (by decide), .inr (.inr hbit)⟩

/-- If the lowest topic comes behind those that are written in bulk, or there is no topic at all,
none of these is set. -/
theorem level_ne_trace_of_name
    (h : r.category.name ∈ ["none", "link", "upcall", "rt", "cache"]) : r.level ≠ .trace := by
  have hlowest : r.category.lowest? = none ∨
      ∃ t ∈ [Topic.link, .upcall, .rt, .cache], r.category.lowest? = some t := by
    simpa [← Category.name_eq_topic_name_iff, ← Category.name_eq_none_iff, Topic.name] using h
  have hbehind : ∀ l, r.category.lowest? = some l → Topic.dwarf.index < l.index := by
    intro l hl
    obtain hnone | ⟨t, hlink, ht⟩ := hlowest
    · exact absurd (hl.symm.trans hnone) (Option.some_ne_none l)
    · obtain rfl : t = l := Option.some.inj (ht.symm.trans hl)
      exact (by decide : ∀ t ∈ [Topic.link, .upcall, .rt, .cache], Topic.dwarf.index < t.index)
        t hlink
  have hclear : ∀ t : Topic, t.index ≤ Topic.dwarf.index → ¬ r.category.HasBit t.index := by
    intro t ht
    rw [← Category.mem_iff_hasBit]
    exact Category.not_mem_of_lowest? fun l hl => Nat.lt_of_le_of_lt ht (hbehind l hl)
  rw [Ne, level_eq_trace_iff]
  rintro ⟨-, hmem | htrace | hdwarf⟩
  · exact hclear .mem (by decide) hmem
  · exact hclear .trace (by decide) htrace
  · exact hclear .dwarf (by decide) hdwarf

/-! ## Targets -/

/-- Outside of the general target, the target tells the lowest topic. -/
theorem target_eq_general_or (r : Record) :
    r.target = .general ∨ r.category.lowest? = r.target.topic? := by
  unfold target
  cases r.category.lowest? with
  | none => exact .inl rfl
  | some t => cases t <;> first | exact .inl rfl | exact .inr rfl

theorem target_congr (h : r.category.lowest? = r'.category.lowest?) : r.target = r'.target := by
  unfold target
  rw [h]

theorem target_eq_err_iff : r.target = .err ↔ r.category.HasBit Topic.err.index := by
  rw [← Category.mem_iff_hasBit]
  constructor
  · intro h
    have hlowest := r.target_eq_general_or
    rw [h] at hlowest
    exact (Category.lowest?_eq_some_iff.1 (hlowest.resolve_left (by decide))).1
  · intro h
    have hlowest : r.category.lowest? = some .err :=
      Category.lowest?_eq_some_iff.2 ⟨h, fun t ht => absurd ht (Nat.not_lt_zero _)⟩
    unfold target
    rw [hlowest]

/-- Target and text tell the name and the message. Under the general target the text begins with
the name in brackets; under another one the target is the name. -/
theorem target_message_inj :
    r.target = r'.target ∧ r.entry.message = r'.entry.message ↔
      r.category.name = r'.category.name ∧ r.message = r'.message := by
  rw [Category.name_eq_iff]
  constructor
  · rintro ⟨htarget, htext⟩
    simp only [entry, ← htarget] at htext
    by_cases hgeneral : r.target = .general
    · rw [if_pos hgeneral, if_pos hgeneral] at htext
      exact Category.prefixFree_bracketed.append_inj.1 htext
    · rw [if_neg hgeneral, if_neg hgeneral] at htext
      have hr := r.target_eq_general_or.resolve_left hgeneral
      have hr' := r'.target_eq_general_or.resolve_left (htarget ▸ hgeneral)
      exact ⟨by rw [hr, hr', htarget], htext⟩
  · rintro ⟨hlowest, hmessage⟩
    have htarget := target_congr hlowest
    have hname := Category.name_eq_iff.2 hlowest
    exact ⟨htarget, by simp only [entry, htarget, hname, hmessage]⟩

/-! ## Entries -/

/-- A record that is sent to the log becomes one entry. Two records become the same line if their
categories have the same name and lead to the same level, and their messages are the same; target
and text alone tell the name and the message. An entry is an error, and stands under the target of
errors, if the error bit is set. Without it, the entry is a trace if some topic is set that is
written in bulk, as it is under the name of such a topic and is not under the names behind them;
if none is set, the entry is there to debug. -/
theorem entry_faithful (r : Record) :
    (Sink.log.send r).events = [.logged r.entry] ∧
      (∀ r' : Record,
        (r.entry.line = r'.entry.line ↔
          r.category.name = r'.category.name ∧ r.level = r'.level ∧ r.message = r'.message) ∧
        (r.entry.target.path = r'.entry.target.path ∧ r.entry.message = r'.entry.message ↔
          r.category.name = r'.category.name ∧ r.message = r'.message)) ∧
      (r.entry.level = .error ↔ r.category.HasBit Topic.err.index) ∧
      (r.entry.target.path = "crate_image::err" ↔ r.category.HasBit Topic.err.index) ∧
      (r.entry.level = .trace ↔
        ¬ r.category.HasBit Topic.err.index ∧ r.category.HasBulkBit) ∧
      (r.category.name ∈ ["mem", "trace", "dwarf"] → r.entry.level = .trace) ∧
      (r.category.name ∈ ["none", "link", "upcall", "rt", "cache"] → r.entry.level ≠ .trace) ∧
      (r.entry.level = .debug ↔
        ¬ r.category.HasBit Topic.err.index ∧ ¬ r.category.HasBulkBit) := by
  have htold : ∀ r' : Record,
      r.entry.target.path = r'.entry.target.path ∧ r.entry.message = r'.entry.message ↔
        r.category.name = r'.category.name ∧ r.message = r'.message := fun r' => by
    rw [Target.path_inj]
    exact target_message_inj
  refine ⟨rfl, fun r' => ⟨?_, htold r'⟩, level_eq_error_iff, ?_, level_eq_trace_iff,
    level_eq_trace_of_name, level_ne_trace_of_name, level_eq_debug_iff⟩
  · rw [LogEntry.line, LogEntry.line, Prod.mk.injEq, Prod.mk.injEq, htold r']
    exact and_left_comm
  · have hpath : r.entry.target.path = Target.err.path ↔ r.target = .err := Target.path_inj
    exact hpath.trans target_eq_err_iff

end Record

end LoadedImage
