import MediaTransform.Proofs.Stream.Delivery

/-! # The schedules that are run

`Transcode.run` and `Transcode.runUnread` are two of the runs that `Transcode.Step` allows:

* **`Transcode.write?_spec`** — what the writer does next is a step.
* **`Transcode.drain_run`** — taking turns is a run, to a state in which nothing is left to do.
* **`Transcode.run_isRun`**, **`Transcode.runUnread_isRun`** — so are the two schedules from their
  beginnings. -/

namespace MediaTransform

namespace Transcode

/-! ## (1) Runs put together -/

/-- Two runs one after the other are a run. -/
theorem Run.trans {t : Transcode} {c : Child} {s s' s'' : State} {events more : List Event}
    (run : Run t c s events s') (further : Run t c s' more s'') : Run t c s (events ++ more) s'' := by
  induction further with
  | here =>
    rw [List.append_nil]
    exact run
  | next before step ih =>
    rw [← List.append_assoc]
    exact ih.next step

/-- A run may begin with a step. -/
theorem Run.cons {t : Transcode} {c : Child} {s s' s'' : State} {e : Event} {events : List Event}
    (step : Step t c s e s') (run : Run t c s' events s'') : Run t c s (e :: events) s'' :=
  (Run.here.next step).trans run

/-! ## (2) The writer -/

/-- **What the writer does next is a step** in which the reader does nothing; where there is none,
the writer is gone or has no room. -/
theorem write?_spec (t : Transcode) (c : Child) (s : State) :
    match write? t c s with
    | some s' => ∃ e, Step t c s e s' ∧ e ≠ .left ∧ takenOut [e] = []
    | none => s.phase.isOver = true ∨ s.sink.slots ≤ s.sink.waiting.length := by
  obtain ⟨phase, sink⟩ := s
  match phase with
  | .finished _ => exact .inl rfl
  | .collapsed => exact .inl rfl
  | .failing e =>
    unfold write?
    dsimp only
    cases hoffer : sink.offer (.failure e) with
    | mk offer next =>
      cases offer with
      | taken => exact ⟨_, .report e sink next hoffer, by simp, rfl⟩
      | full => exact .inr (Sink.offer_full_iff.1 hoffer).2.1
      | closed =>
        obtain ⟨hgone, rfl⟩ := Sink.offer_closed_iff.1 hoffer
        exact ⟨_, .giveUp e next hgone, by simp, rfl⟩
  | .pumping [] sent =>
    unfold write?
    dsimp only
    by_cases hwell : c.ending.isSuccess = true
    · rw [if_pos hwell]
      exact ⟨_, .complete sent sink hwell, by simp, rfl⟩
    · rw [if_neg hwell]
      by_cases hnever : c.ending = .never
      · rw [if_pos hnever]
        exact ⟨_, .timeOut [] sent sink, by simp, rfl⟩
      · rw [if_neg hnever]
        exact ⟨_, .fail sent sink (by simpa using hwell) hnever, by simp, rfl⟩
  | .pumping (b :: rest) sent =>
    -- a chunk is the longest one allowed, and not empty since at least one byte is
    have hlimit : 0 < t.chunkLimit := Nat.lt_of_lt_of_le Nat.one_pos (Nat.le_max_right _ _)
    have hsize : (b :: rest).take t.chunkLimit ≠ [] ∧
        ((b :: rest).take t.chunkLimit).length ≤ t.chunkLimit := by
      refine ⟨?_, List.length_take_le _ _⟩
      rw [Ne, List.take_eq_nil_iff]
      simp only [reduceCtorEq, or_false]
      omega
    unfold write?
    dsimp only
    cases hoffer : sink.offer (.chunk ((b :: rest).take t.chunkLimit)) with
    | mk offer next =>
      cases offer with
      | taken =>
        have hstep := Step.send (c := c) ((b :: rest).take t.chunkLimit)
          ((b :: rest).drop t.chunkLimit) sent sink next hsize hoffer
        rw [List.take_append_drop] at hstep
        exact ⟨_, hstep, by simp, rfl⟩
      | full => exact .inr (Sink.offer_full_iff.1 hoffer).2.1
      | closed =>
        obtain ⟨hgone, rfl⟩ := Sink.offer_closed_iff.1 hoffer
        exact ⟨_, .abandon (b :: rest) sent next (by simp) hgone, by simp, rfl⟩

/-! ## (3) Taking turns -/

/-- Where no step may come, the writer is gone and nothing waits. -/
theorem State.settled_of_remaining {s : State} (h : s.remaining = 0) :
    s.phase.isOver = true ∧ s.sink.waiting = [] := by
  have hwaiting : s.sink.waiting.length = 0 := by
    rw [remaining] at h
    omega
  refine ⟨?_, List.length_eq_zero_iff.1 hwaiting⟩
  rw [remaining] at h
  cases hphase : s.phase with
  | finished o => rfl
  | collapsed => rfl
  | pumping rest sent =>
    rw [hphase] at h
    simp at h
  | failing e =>
    rw [hphase] at h
    simp at h

/-- **Taking turns is a run** without leaving, to a state in which the writer is gone and nothing
waits. -/
theorem drain_run {t : Transcode} {c : Child} {room fuel : Nat} {before : List Event} {s : State}
    (taken : List Item) (hqueued : Queued room before s.sink) (hroom : 0 < room)
    (hfuel : s.remaining ≤ fuel) :
    ∃ events s', Run t c s events s' ∧ .left ∉ events ∧ s'.phase.isOver = true ∧
      s'.sink.waiting = [] ∧
      drain t c fuel s taken = (s'.outcome, taken.reverse ++ takenOut events) := by
  induction fuel generalizing before s taken with
  | zero =>
    obtain ⟨hover, hwaiting⟩ := State.settled_of_remaining (Nat.le_zero.1 hfuel)
    exact ⟨[], s, .here, by simp, hover, hwaiting, by simp [drain, takenOut]⟩
  | succ fuel ih =>
    have hspec := write?_spec t c s
    cases hwrite : write? t c s with
    | some next =>
      -- the writer's turn: nothing is taken
      rw [hwrite] at hspec
      obtain ⟨e, hstep, hne, htaken⟩ := hspec
      have hless := hstep.remaining_lt
      obtain ⟨events, s', hrun, hleft, hover, hwaiting, hdrain⟩ :=
        ih taken (hstep.queued hqueued) (by omega)
      refine ⟨e :: events, s', hrun.cons hstep, by simp [hleft, hne.symm], hover, hwaiting, ?_⟩
      have hcons : takenOut (e :: events) = takenOut [e] ++ takenOut events :=
        takenOut_append [e] events
      rw [drain, hwrite, hcons, htaken, List.nil_append]
      exact hdrain
    | none =>
      rw [hwrite] at hspec
      cases hitems : s.sink.waiting with
      | nil =>
        -- an empty queue is not full, so the writer that does nothing is gone
        have hover : s.phase.isOver = true := by
          rcases hspec with hover | hfull
          · exact hover
          · rw [hitems, List.length_nil, hqueued.slots] at hfull
            omega
        refine ⟨[], s, .here, by simp, hover, hitems, ?_⟩
        have hreceive : ∀ i next, s.sink.receive ≠ (.item i, next) := by
          intro i next hgot
          obtain ⟨rest, hrest, -⟩ := Sink.receive_item_iff.1 hgot
          rw [hitems] at hrest
          cases hrest
        rw [drain, hwrite]
        dsimp only
        split
        · rename_i i next hgot
          exact absurd hgot (hreceive i next)
        · simp [takenOut]
      | cons i rest =>
        -- the reader's turn
        have hgot : s.sink.receive = (.item i, { s.sink with waiting := rest }) :=
          Sink.receive_item_iff.2 ⟨rest, hitems, rfl⟩
        have hpresent : s.sink.readerGone = false := by
          rw [← Bool.not_eq_true]
          intro hgone
          rw [hqueued.dropped hgone] at hitems
          cases hitems
        have hstep : Step t c s (.took i) { s with sink := { s.sink with waiting := rest } } :=
          .read i s.phase s.sink _ hgot hpresent
        have hless := hstep.remaining_lt
        obtain ⟨events, s', hrun, hleft, hover, hwaiting, hdrain⟩ :=
          ih (i :: taken) (hstep.queued hqueued) (by omega)
        refine ⟨.took i :: events, s', hrun.cons hstep, by simp [hleft], hover, hwaiting, ?_⟩
        have hcons : takenOut (.took i :: events) = i :: takenOut events :=
          takenOut_append [.took i] events
        rw [drain, hwrite, hgot, hcons]
        dsimp only
        rw [hdrain, List.reverse_cons, List.append_assoc]
        rfl

/-- There is fuel for every step that may come. -/
theorem remaining_le_stepBound (s : State) : s.remaining ≤ stepBound s := by
  have hpresent : (!s.sink.readerGone).toNat ≤ 1 := Bool.toNat_le _
  unfold State.remaining stepBound
  cases s.phase with
  | pumping rest sent =>
    dsimp only
    omega
  | failing e =>
    dsimp only
    omega
  | finished o =>
    dsimp only
    omega
  | collapsed =>
    dsimp only
    omega

/-! ## (4) The two schedules -/

/-- **The run for a reader that takes every item is a run** of the started child, to the end of the
stream. -/
theorem run_isRun {t : Transcode} {c : Child} (h : t.start = .ok c) (capacity : Nat) :
    ∃ events s,
      Run t (t.childInTime c) (t.launch (t.childInTime c) (.ofCapacity capacity)) events s ∧
        .left ∉ events ∧ s.sink.Ended ∧ t.run capacity = (s.outcome, takenOut events) := by
  have hbegin : t.begin (.ofCapacity capacity)
      = (t.childInTime c, t.launch (t.childInTime c) (.ofCapacity capacity)) := by
    rw [begin, h]
  have hstart := consistent_launch t (t.childInTime c) capacity
  obtain ⟨events, s, hrun, hleft, hover, hwaiting, hdrain⟩ :=
    drain_run (t := t) (c := t.childInTime c) [] hstart.queued (by omega)
      (remaining_le_stepBound _)
  refine ⟨events, s, hrun, hleft, ?_, ?_⟩
  · exact Sink.ended_iff.2 ⟨hwaiting, hrun.invariant.settled.trans hover⟩
  · rw [run, runWith, hbegin]
    exact hdrain

/-- **The run when nobody reads is a run** in which the reader leaves first. -/
theorem runUnread_isRun {t : Transcode} {c : Child} (h : t.start = .ok c) (capacity : Nat) :
    ∃ events s,
      Run t (t.childInTime c) (t.launch (t.childInTime c) (.ofCapacity capacity))
        (.left :: events) s ∧
        s.phase.isOver = true ∧ t.runUnread capacity = s.outcome := by
  have hbegin : t.begin (Sink.ofCapacity capacity).dropReader
      = (t.childInTime c, t.launch (t.childInTime c) (Sink.ofCapacity capacity).dropReader) := by
    rw [begin, h]
  -- the reader may as well leave right after the start
  have hleave : Step t (t.childInTime c) (t.launch (t.childInTime c) (.ofCapacity capacity)) .left
      (t.launch (t.childInTime c) (Sink.ofCapacity capacity).dropReader) := by
    unfold launch
    split
    · exact .leave _ _ rfl
    · exact .leave _ _ rfl
  have hqueued := hleave.queued (consistent_launch t (t.childInTime c) capacity).queued
  obtain ⟨events, s, hrun, -, hover, -, hdrain⟩ :=
    drain_run (t := t) (c := t.childInTime c) [] hqueued (by omega)
      (remaining_le_stepBound _)
  refine ⟨events, s, hrun.cons hleave, hover, ?_⟩
  rw [runUnread, runWith, hbegin]
  exact congrArg Prod.fst hdrain

end Transcode

end MediaTransform
