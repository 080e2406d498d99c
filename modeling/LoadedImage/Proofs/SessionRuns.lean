import LoadedImage.Session

/-!
# Runs of a session

A session takes one command after the other and goes on after a refusal (`Session.runAll`). A
command that is refused may have written to the log, but it leaves the session as it was
(`Session.run_of_refused`), so nothing that comes later can tell that it was there. What a run
leads to is therefore decided by the commands that were accepted: in a run of their own they are
accepted again, with the same answers, and lead to the same session (`Session.runAll_accepted`).
-/

namespace LoadedImage.Session

variable {s : Session} {c : Command} {cs : List Command}

/-! ## One command -/

/-- A command that is refused leaves the session as it was. -/
theorem run_of_refused {refusal : Refusal} (h : (s.run c).value.1 = .error refusal) :
    (s.run c).value.2 = s := by
  rw [run, Traced.value_map] at h ⊢
  cases hperform : ((Action.perform c).run s).run.value with
  | ok p =>
    rw [hperform] at h
    cases h
  | error => rfl

/-! ## Runs -/

/-- The answers to one command after the other, whether they are accepted or not, and the
session after. -/
def runAll : Session → List Command → Traced (List (Except Refusal Answer) × Session)
  | s, [] => pure ([], s)
  | s, c :: cs => do
    let (answer, after) ← s.run c
    let (answers, last) ← runAll after cs
    pure (answer :: answers, last)

/-- The commands that were accepted. -/
def accepted (cs : List Command) (answers : List (Except Refusal Answer)) : List Command :=
  ((cs.zip answers).filter fun p => p.2.isOk).map Prod.fst

theorem value_runAll_cons : (s.runAll (c :: cs)).value =
    ((s.run c).value.1 :: ((s.run c).value.2.runAll cs).value.1,
      ((s.run c).value.2.runAll cs).value.2) := rfl

theorem events_runAll_cons : (s.runAll (c :: cs)).events =
    (s.run c).events ++ ((s.run c).value.2.runAll cs).events := by
  simp [runAll]

/-- The commands of a run that were accepted are a run of their own: they have the answers they
had, end in the same session and write what they wrote, in the same order. -/
theorem runAll_accepted (s : Session) (cs : List Command) :
    (s.runAll (accepted cs (s.runAll cs).value.1)).value =
        ((s.runAll cs).value.1.filter (·.isOk), (s.runAll cs).value.2) ∧
      (s.runAll (accepted cs (s.runAll cs).value.1)).events.Sublist (s.runAll cs).events := by
  -- the session varies: an accepted command hands another one on to the rest of the run
  induction cs generalizing s with
  | nil => exact ⟨rfl, .refl _⟩
  | cons c cs ih =>
    rw [value_runAll_cons, events_runAll_cons]
    cases hc : (s.run c).value.1 with
    | ok answer =>
      obtain ⟨hvalue, hevents⟩ := ih (s.run c).value.2
      change (s.runAll (c :: accepted cs _)).value = _ ∧
        (s.runAll (c :: accepted cs _)).events.Sublist _
      rw [value_runAll_cons, events_runAll_cons, hvalue, hc]
      exact ⟨rfl, .append_left hevents _⟩
    | error refusal =>
      obtain ⟨hvalue, hevents⟩ := ih s
      rw [run_of_refused hc]
      exact ⟨hvalue, hevents.trans (List.sublist_append_right _ _)⟩

end LoadedImage.Session
