import LoadedImage.Proofs.CorrectionRuns
import LoadedImage.Proofs.FaultText

/-!
# Tables in two parts

It makes no difference to a bounded image whether a table comes in one piece or in two. The bare
correction works entry by entry, so its tables are put together and its counts are added
(`Bias.value_correct_append`). The search for a stray entry goes through the front first and then
through the back (`BoundedImage.FirstStray.append_right`, `BoundedImage.FirstStray.append_left`),
so the whole table is refused for the fault of the front if there is one, and else for that of the
back.

`BoundedImage.correct_append` says what comes of the whole table, given what comes of the parts. A
fault of the back is reported with the entries of the front counted in, and is the same in all
else.
-/

namespace LoadedImage

namespace Bias

theorem liveCount_append (front back : Table) :
    liveCount (front ++ back) = liveCount front + liveCount back :=
  List.countP_append

/-- A bare correction of two tables at once, also the one by zero, which counts nothing. The
tables may lie anywhere. -/
theorem value_correct_append (b : Bias) (front back : Table) (p q r : Address) :
    (b.correct (front ++ back) r).value =
      ((b.correct front p).value.1 + (b.correct back q).value.1,
        (b.correct front p).value.2 ++ (b.correct back q).value.2) := by
  refine Prod.ext ?_ ?_
  · simp only [count_correct, liveCount_append]
    split <;> rfl
  · simp only [table_correct, List.map_append]

end Bias

/-- The index is named once in the message. -/
theorem Fault.detail_strayEntry (k : Nat) (a corrected : Address) (e : Extent) :
    (Fault.strayEntry k a corrected e).detail =
      "entry " ++ Radix.decimal.write k ++
        (": " ++ a.shortText ++ " relocates to " ++ corrected.text ++ ", " ++
          "outside image " ++ e.text) := by
  rw [detail_eq]
  simp only [subject, Subject.words, numbers, Address.shortText, Radix.writeMarked,
    String.append_assoc]

namespace BoundedImage

/-! ## The first stray entry of two tables -/

namespace FirstStray

variable {b : BoundedImage} {front back : Table} {k : Nat} {a : Address}

/-- What stands behind the first stray entry makes no difference to it. -/
theorem append_right (h : b.FirstStray front k a) (back : Table) :
    b.FirstStray (front ++ back) k a := by
  obtain ⟨hget, hstray, hbefore⟩ := h
  obtain ⟨hk, -⟩ := List.getElem?_eq_some_iff.1 hget
  refine ⟨?_, hstray, fun j hj c hc => hbefore j hj c ?_⟩
  · rw [List.getElem?_append_left hk, hget]
  · rwa [List.getElem?_append_left (Nat.lt_trans hj hk)] at hc

/-- Behind a table without stray entries it is found later by the length of the table. -/
theorem append_left (hfront : ∀ c ∈ front, ¬b.IsStray c) (h : b.FirstStray back k a) :
    b.FirstStray (front ++ back) (k + front.length) a := by
  obtain ⟨hget, hstray, hbefore⟩ := h
  refine ⟨?_, hstray, fun j hj c hc => ?_⟩
  · rw [List.getElem?_append_right (by omega), Nat.add_sub_cancel, hget]
  · by_cases hlt : j < front.length
    · rw [List.getElem?_append_left hlt] at hc
      exact hfront c (List.mem_of_getElem? hc)
    · rw [List.getElem?_append_right (by omega)] at hc
      exact hbefore (j - front.length) (by omega) c hc

end FirstStray

/-! ## Outcomes put together -/

/-- A table in two parts is corrected if and only if both parts are, and then the tables after
are put together and the counts are added. It is refused for the fault of its front if the front
is refused. If only its back is, it is refused for the fault of the back: for the same entry, with
the same address it would be corrected to and the same extent, and with an index that is larger by
the length of the front. The front may lie at `p`, the back at `q` and the whole table at `r`,
wherever these are. -/
theorem correct_append (b : BoundedImage) (front back : Table) (p q r : Address) :
    ((∃ n, (b.correct (front ++ back) r).value.1 = .ok n) ↔
        (∃ n, (b.correct front p).value.1 = .ok n) ∧
          ∃ n, (b.correct back q).value.1 = .ok n) ∧
      (∀ n m after after', (b.correct front p).value = (.ok n, after) →
        (b.correct back q).value = (.ok m, after') →
          (b.correct (front ++ back) r).value = (.ok (n + m), after ++ after')) ∧
      (∀ fault after, (b.correct front p).value = (.error fault, after) →
        (b.correct (front ++ back) r).value = (.error fault, front ++ back)) ∧
      (∀ n after fault after', (b.correct front p).value = (.ok n, after) →
        (b.correct back q).value = (.error fault, after') →
          ∃ k a fault' rest,
            (b.correct (front ++ back) r).value = (.error fault', front ++ back) ∧
            fault = .strayEntry k a (a.move b.drift) b.extent ∧
            fault' = .strayEntry (k + front.length) a (a.move b.drift) b.extent ∧
            fault.detail = "entry " ++ Radix.decimal.write k ++ rest ∧
            fault'.detail = "entry " ++ Radix.decimal.write (k + front.length) ++ rest) := by
  refine ⟨?_, ?_, ?_, ?_⟩
  · simp only [exists_correct_eq_ok_iff, List.forall_mem_append]
  · intro n m after after' hn hm
    obtain ⟨hfront, hn⟩ := (b.value_correct_eq_ok_iff front).1 hn
    obtain ⟨hback, hm⟩ := (b.value_correct_eq_ok_iff back).1 hm
    refine (b.value_correct_eq_ok_iff _).2 ⟨List.forall_mem_append.2 ⟨hfront, hback⟩, ?_⟩
    rw [b.bias.value_correct_append front back p q, hn, hm]
  · intro fault after hf
    obtain ⟨k, a, hfirst, rfl, -⟩ := (b.value_correct_eq_error_iff front).1 hf
    exact (b.value_correct_eq_error_iff _).2 ⟨k, a, hfirst.append_right back, rfl, rfl⟩
  · intro n after fault after' hn hf
    obtain ⟨hfront, -⟩ := (b.value_correct_eq_ok_iff front).1 hn
    obtain ⟨k, a, hfirst, rfl, -⟩ := (b.value_correct_eq_error_iff back).1 hf
    have hwhole : (b.correct (front ++ back) r).value = (.error _, front ++ back) :=
      (b.value_correct_eq_error_iff _).2 ⟨_, a, hfirst.append_left hfront, rfl, rfl⟩
    exact ⟨k, a, _, _, hwhole, rfl, rfl, Fault.detail_strayEntry .., Fault.detail_strayEntry ..⟩

/-- The second entry of the back is stray. It is the fourth of the whole table, and reported as
that. -/
theorem correct_append_relocated :
    ((relocated ⟨0x1000⟩ ⟨0x9000⟩).correct [⟨0x1010⟩, .null] ⟨0x7000⟩).value =
        (.ok 1, [⟨0x9010⟩, .null]) ∧
      ((relocated ⟨0x1000⟩ ⟨0x9000⟩).correct [⟨0x1020⟩, ⟨0x5000⟩] ⟨0x7010⟩).value =
        (.error (.strayEntry 1 ⟨0x5000⟩ ⟨0xd000⟩ ⟨⟨0x9000⟩, 256⟩), [⟨0x1020⟩, ⟨0x5000⟩]) ∧
      ((relocated ⟨0x1000⟩ ⟨0x9000⟩).correct [⟨0x1010⟩, .null, ⟨0x1020⟩, ⟨0x5000⟩]
          ⟨0x7000⟩).value =
        (.error (.strayEntry 3 ⟨0x5000⟩ ⟨0xd000⟩ ⟨⟨0x9000⟩, 256⟩),
          [⟨0x1010⟩, .null, ⟨0x1020⟩, ⟨0x5000⟩]) := by
  have hfront : ((relocated ⟨0x1000⟩ ⟨0x9000⟩).correct [⟨0x1010⟩, .null] ⟨0x7000⟩).value =
      (.ok 1, [⟨0x9010⟩, .null]) := rfl
  have hback : ((relocated ⟨0x1000⟩ ⟨0x9000⟩).correct [⟨0x1020⟩, ⟨0x5000⟩] ⟨0x7010⟩).value =
      (.error (.strayEntry 1 ⟨0x5000⟩ ⟨0xd000⟩ ⟨⟨0x9000⟩, 256⟩), [⟨0x1020⟩, ⟨0x5000⟩]) := rfl
  obtain ⟨-, -, -, hlater⟩ := correct_append (relocated ⟨0x1000⟩ ⟨0x9000⟩) [⟨0x1010⟩, .null]
    [⟨0x1020⟩, ⟨0x5000⟩] ⟨0x7000⟩ ⟨0x7010⟩ ⟨0x7000⟩
  obtain ⟨k, a, fault', -, hwhole, hfault, rfl, -⟩ := hlater _ _ _ _ hfront hback
  cases hfault
  exact ⟨hfront, hback, hwhole⟩

end BoundedImage

end LoadedImage
