import LoadedImage.Diagnostics.Record

/-!
# Traced answers

A traced answer is a value with the events that happened while it was found, in order:
records that reached a recorder and entries written to the log. Traced answers form a
lawful monad, in which the events of a sequence are the events of its steps one after
the other (`Traced.events_bind`).
-/

namespace LoadedImage

/-- What can be observed of an operation besides its value. -/
inductive Event where
  | received (record : Record)
  | logged (entry : LogEntry)
deriving DecidableEq

/-- The record of an event, if it is one that was received. -/
def Event.record? : Event → Option Record
  | received r => some r
  | logged _ => none

/-- The entry of an event, if it is one that was logged. -/
def Event.entry? : Event → Option LogEntry
  | received _ => none
  | logged e => some e

/-- A value and the events on the way to it. -/
structure Traced (α : Type) where
  value : α
  events : List Event

namespace Traced

variable {α β : Type}

/-- The events of a step come before those of what is done with its value. -/
instance : Monad Traced where
  pure a := ⟨a, []⟩
  bind t f := ⟨(f t.value).value, t.events ++ (f t.value).events⟩

/-- A single event. -/
def emit (e : Event) : Traced Unit := ⟨(), [e]⟩

/-- An entry written to the log. -/
def log (e : LogEntry) : Traced Unit := emit (.logged e)

/-- The records that were received, in order. -/
def records (t : Traced α) : List Record := t.events.filterMap Event.record?

/-- The entries that were logged, in order. -/
def entries (t : Traced α) : List LogEntry := t.events.filterMap Event.entry?

@[simp]
theorem value_pure (a : α) : (pure a : Traced α).value = a := rfl

@[simp]
theorem events_pure (a : α) : (pure a : Traced α).events = [] := rfl

@[simp]
theorem value_bind (t : Traced α) (f : α → Traced β) :
    (t >>= f).value = (f t.value).value := rfl

@[simp]
theorem events_bind (t : Traced α) (f : α → Traced β) :
    (t >>= f).events = t.events ++ (f t.value).events := rfl

@[simp]
theorem value_map (t : Traced α) (f : α → β) : (f <$> t).value = f t.value := rfl

@[simp]
theorem events_map (t : Traced α) (f : α → β) : (f <$> t).events = t.events :=
  List.append_nil _

@[simp]
theorem records_pure (a : α) : (pure a : Traced α).records = [] := rfl

@[simp]
theorem records_map (t : Traced α) (f : α → β) : (f <$> t).records = t.records := by
  simp [records]

theorem records_bind (t : Traced α) (f : α → Traced β) :
    (t >>= f).records = t.records ++ (f t.value).records := by
  simp [records]

@[ext]
theorem ext {s t : Traced α} (hv : s.value = t.value) (he : s.events = t.events) : s = t := by
  cases s
  cases t
  simp_all

instance : LawfulMonad Traced :=
  LawfulMonad.mk' Traced (fun _ => by ext1 <;> simp) (fun _ _ => by ext1 <;> simp)
    (fun _ _ _ => by ext1 <;> simp)

end Traced

end LoadedImage
