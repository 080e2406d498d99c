import LoadedImage.Diagnostics.Traced

/-!
# Sinks

A sink is where the caller of an operation wants its records to go: to a recorder, to
the log, nowhere, or through a filter to another sink. A filter lets a record pass if
its category has a bit in common with the mask.
-/

namespace LoadedImage

/-- Where records go. -/
inductive Sink where
  | recorder
  | log
  | discard
  | filtered (inner : Sink) (mask : Category)
deriving DecidableEq

namespace Sink

/-- What happens when a record is sent to the sink. -/
def send : Sink → Record → Traced Unit
  | recorder, r => .emit (.received r)
  | log, r => .log r.entry
  | discard, _ => pure ()
  | filtered inner mask, r => if mask.Meets r.category then inner.send r else pure ()

/-- A sink behind filters, the first mask innermost. -/
def stack (inner : Sink) (masks : List Category) : Sink :=
  masks.foldl filtered inner

/-- A stack of filters passes what every mask passes. -/
theorem send_stack (inner : Sink) (masks : List Category) (r : Record) :
    (inner.stack masks).send r =
      if ∀ m ∈ masks, m.Meets r.category then inner.send r else pure () := by
  induction masks generalizing inner with
  | nil => simp [stack]
  | cons m masks ih =>
    rw [stack, List.foldl_cons, ← stack, ih]
    by_cases hm : m.Meets r.category <;> simp [send, hm]

/-- The sink behind the outermost filter. -/
def unfiltered : Sink → Sink
  | filtered inner _ => inner
  | sink => sink

end Sink

end LoadedImage
