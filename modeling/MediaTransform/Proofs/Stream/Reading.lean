import MediaTransform.Proofs.Stream.Schedule
import MediaTransform.Service.Render

/-! # What a reader comes to that stays

A reader that takes every item stops at the end of the stream or at the first failure. Whatever the
interleaving, it comes to all of the output or to a failure:

* **`Transcode.Reads`** — what such a reader comes to after the events of a run.
* **`Transcode.Reads.of_ok`** — contents that it comes to are the whole output of a program that
  ended well.
* **`Transcode.reads_of_failure`** — a failure anywhere in the stream leads to a failure.
* **`Transcode.exists_reads_received`** — what is computed for such a reader is one of these. -/

namespace MediaTransform

namespace Transcode

variable {t : Transcode} {c : Child} {capacity : Nat} {events : List Event} {s s' : State}

/-! ## (1) Completed and collapsed transcodes -/

/-- A step completes a transcode only where the program ended well. -/
theorem Step.completed_well {e : Event} (step : Step t c s e s')
    (h : ∀ n, s.phase = .finished (.completed n) → c.ending.isSuccess = true) :
    ∀ n, s'.phase = .finished (.completed n) → c.ending.isSuccess = true := by
  intro n hn
  cases step with
  | complete sent sink well => exact well
  | read i phase sink next got present => exact h n hn
  | leave phase sink present => exact h n hn
  | _ => cases hn

/-- **A transcode that has completed is one of a program that ended well.** -/
theorem Run.completed_well (run : Run t c s events s')
    (h : ∀ n, s.phase = .finished (.completed n) → c.ending.isSuccess = true) :
    ∀ n, s'.phase = .finished (.completed n) → c.ending.isSuccess = true := by
  induction run with
  | here => exact h
  | next before step ih => exact step.completed_well ih

/-- No step leads to a collapse. -/
theorem Step.phase_of_collapsed {e : Event} (step : Step t c s e s')
    (h : s'.phase = .collapsed) : s.phase = .collapsed := by
  cases step with
  | read i phase sink next got present => exact h
  | leave phase sink present => exact h
  | _ => cases h

/-- A transcode that has collapsed did so at its beginning. -/
theorem Run.phase_of_collapsed (run : Run t c s events s') (h : s'.phase = .collapsed) :
    s.phase = .collapsed := by
  induction run with
  | here => exact h
  | next before step ih => exact ih (step.phase_of_collapsed h)

/-- **The child of a run that ended well is the one that was started**, and the clock took nothing
of it. -/
theorem start_of_begin_well {sink : Sink} (h : (t.begin sink).1.ending.isSuccess = true) :
    t.start = .ok (t.begin sink).1 := by
  unfold begin at h ⊢
  cases hstart : t.start with
  | error e =>
    rw [hstart] at h
    cases h
  | ok c =>
    rw [hstart] at h
    dsimp only at h ⊢
    -- with no time at all the child would never end
    have htime : t.timeoutMillis ≠ 0 := by
      intro hzero
      rw [childInTime, if_pos hzero] at h
      cases h
    rw [childInTime, if_neg htime]

/-- A transcode collapses where its beginning does. -/
theorem collapses_of_begin {sink : Sink} (h : (t.begin sink).2.phase = .collapsed) :
    t.collapses = true := by
  unfold begin at h
  unfold collapses
  cases hstart : t.start with
  | error e =>
    rw [hstart] at h
    cases h
  | ok c =>
    rw [hstart] at h
    dsimp only [launch] at h
    split at h
    · rename_i hlimit
      rw [decide_eq_true hlimit]
      rfl
    · cases h

/-! ## (2) Failures among items -/

theorem failureOf_of_plain {items : List Item} (h : Plain items) : failureOf items = none := by
  induction items with
  | nil => rfl
  | cons i items ih =>
    cases i with
    | chunk b => exact ih fun j hj => h j (List.mem_cons_of_mem _ hj)
    | failure e => cases h (.failure e) List.mem_cons_self

theorem failureOf_append {chunks : List Item} (h : Plain chunks) (e : Error) :
    failureOf (chunks ++ [.failure e]) = some e := by
  induction chunks with
  | nil => rfl
  | cons i chunks ih =>
    cases i with
    | chunk b => exact ih fun j hj => h j (List.mem_cons_of_mem _ hj)
    | failure e' => cases h (.failure e') List.mem_cons_self

/-! ## (3) Readers that stay -/

/-- **What a reader comes to that takes every item**, after the events of a run in which it stayed:
the contents at the end of a stream whose writer has an outcome, a failure as soon as it takes one,
or the failure that there is no outcome. -/
inductive Reads (t : Transcode) (capacity : Nat) (events : List Event) : Except Error Bytes → Prop
  | contents (s : State) (o : Outcome) (run : t.Runs capacity events s) (stays : .left ∉ events)
      (ended : s.sink.Ended) (settled : s.phase = .finished o) (plain : Plain (takenOut events)) :
      Reads t capacity events (.ok (outputOf (takenOut events)))
  | failure (s : State) (chunks : List Item) (e : Error) (run : t.Runs capacity events s)
      (stays : .left ∉ events) (took : takenOut events = chunks ++ [.failure e])
      (plain : Plain chunks) : Reads t capacity events (.error e)
  | noOutcome (s : State) (run : t.Runs capacity events s) (stays : .left ∉ events)
      (ended : s.sink.Ended) (settled : s.phase = .collapsed) :
      Reads t capacity events (.error collapseError)

/-- **Contents are the whole output of a program that ended well**, and there was no failure in the
stream. -/
theorem Reads.of_ok {bytes : Bytes} (h : t.Reads capacity events (.ok bytes)) :
    (∃ c, t.start = .ok c ∧ c.ending.isSuccess = true ∧ bytes = c.output) ∧
      Plain (putIn events) := by
  cases h with
  | contents s o run stays ended settled plain =>
    have hconsistent := run.consistent
    have htaken := hconsistent.queued.takenOut_eq stays ended
    rw [htaken] at plain ⊢
    rcases hconsistent.ended_or_collapsed stays ended with
      hcollapsed | ⟨hphase, -, houtput⟩ | ⟨-, chunks, e, hput, -⟩
    · rw [hcollapsed] at settled
      cases settled
    · -- the transcode has completed, so the child is the one that was started
      have hstart : ∀ n, (t.begin (.ofCapacity capacity)).2.phase = .finished (.completed n) →
          (t.begin (.ofCapacity capacity)).1.ending.isSuccess = true := by
        intro n hn
        unfold begin launch at hn
        split at hn
        · dsimp only at hn
          split at hn <;> cases hn
        · cases hn
      have hwell := Run.completed_well run hstart _ hphase
      exact ⟨⟨_, start_of_begin_well hwell, hwell, houtput⟩, plain⟩
    · rw [hput] at plain
      exact absurd plain (not_plain_append_failure chunks e)

/-- **A failure anywhere in the stream leads to a failure**, though chunks may have come before. -/
theorem reads_of_failure {result : Except Error Bytes} {e : Error}
    (h : t.Reads capacity events result) (he : .failure e ∈ putIn events) :
    ∃ e', result = .error e' := by
  cases result with
  | error e' => exact ⟨e', rfl⟩
  | ok bytes =>
    have hplain := h.of_ok.2 _ he
    cases hplain

/-! ## (4) The schedule that is run -/

/-- The run for a reader that takes every item is one from the beginning to the end of the
stream. -/
theorem exists_runs_run (t : Transcode) (capacity : Nat) :
    ∃ events s, t.Runs capacity events s ∧ .left ∉ events ∧ s.sink.Ended ∧
      t.run capacity = (s.outcome, takenOut events) := by
  have hstart : Consistent t (t.begin (.ofCapacity capacity)).1 (max capacity 1) []
      (t.begin (.ofCapacity capacity)).2 := Runs.consistent .here
  obtain ⟨events, s, hrun, hleft, hover, hwaiting, hdrain⟩ :=
    drain_run (t := t) (c := (t.begin (.ofCapacity capacity)).1) [] hstart.queued (by omega)
      (remaining_le_stepBound _)
  have hsettled := (hrun.consistent hstart).settled
  exact ⟨events, s, hrun, hleft, Sink.ended_iff.2 ⟨hwaiting, hsettled.trans hover⟩, hdrain⟩

/-- **What is computed for a reader that takes every item is what such a reader may come to.** -/
theorem exists_reads_received (h : t.collapses = false) (capacity : Nat) :
    ∃ events, t.Reads capacity events (t.received capacity) := by
  obtain ⟨events, s, hrun, hleft, hend, hreceived⟩ := exists_runs_run t capacity
  have hconsistent := hrun.consistent
  have htaken := hconsistent.queued.takenOut_eq hleft hend
  refine ⟨events, ?_⟩
  rcases hconsistent.ended_or_collapsed hleft hend with
    hcollapsed | ⟨hphase, hplain, -⟩ | ⟨-, chunks, e, hput, hplain⟩
  · rw [collapses_of_begin (Run.phase_of_collapsed hrun hcollapsed)] at h
    cases h
  · rw [← htaken] at hplain
    have hok : t.received capacity = .ok (outputOf (takenOut events)) := by
      rw [received, hreceived]
      dsimp only
      rw [failureOf_of_plain hplain]
    rw [hok]
    exact .contents s _ hrun hleft hend hphase hplain
  · rw [← htaken] at hput
    have herror : t.received capacity = .error e := by
      rw [received, hreceived]
      dsimp only
      rw [hput, failureOf_append hplain]
    rw [herror]
    exact .failure s chunks e hrun hleft hput hplain

/-- **A transcode that collapses comes to a failure** at once. -/
theorem reads_of_collapses (h : t.collapses = true) (capacity : Nat) :
    t.Reads capacity [] (.error collapseError) := by
  rw [collapses, Bool.and_eq_true, decide_eq_true_eq] at h
  obtain ⟨hlimit, hstart⟩ := h
  cases hchild : t.start with
  | error e =>
    rw [hchild] at hstart
    cases hstart
  | ok c =>
    have hbegin : (t.begin (.ofCapacity capacity)).2
        = ⟨.collapsed, (Sink.ofCapacity capacity).dropWriter⟩ := by
      rw [begin, hchild]
      exact if_pos hlimit
    have hend : (t.begin (.ofCapacity capacity)).2.sink.Ended := by
      rw [hbegin]
      exact Sink.ended_iff.2 ⟨rfl, rfl⟩
    exact .noOutcome _ .here (by simp) hend (by rw [hbegin])

end Transcode

end MediaTransform
