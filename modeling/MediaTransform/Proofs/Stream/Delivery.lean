import Mathlib.Data.List.Basic
import MediaTransform.Stream.ScriptedProgram
import MediaTransform.Stream.Transcode

/-! # What a reader gets of a transcode

Every interleaving of the writer, the clock and the reader, and what holds in all of them:

* **`Transcode.Queued`** — the stream as a queue: what was put in is what was taken out and what
  waits.
* **`Transcode.Accounts`** — what the items put in so far say about the output, by what the writer
  is at.
* **`Transcode.Run.invariant`** — both hold in every state of every run, as every step keeps them.
* **`Transcode.Runs`** — the runs of a transcode from its beginning.
* **`Transcode.Reliable`** — no output is lost silently; `reliable_iff` says for which
  transcodes. -/

namespace MediaTransform

/-! ## (1) The two ends of a stream -/

/-- An item is taken exactly where somebody reads and there is room. -/
theorem Sink.offer_taken_iff {s next : Sink} {i : Item} :
    s.offer i = (.taken, next) ↔
      s.readerGone = false ∧ s.waiting.length < s.slots ∧
        next = { s with waiting := s.waiting ++ [i] } := by
  unfold offer
  cases hgone : s.readerGone with
  | true => simp
  | false =>
    by_cases hroom : s.waiting.length < s.slots
    · simp [hroom, eq_comm]
    · simp [hroom]

/-- An item is refused for good exactly where nobody reads. -/
theorem Sink.offer_closed_iff {s next : Sink} {i : Item} :
    s.offer i = (.closed, next) ↔ s.readerGone = true ∧ next = s := by
  unfold offer
  cases hgone : s.readerGone with
  | true => simp [eq_comm]
  | false =>
    by_cases hroom : s.waiting.length < s.slots
    · simp [hroom]
    · simp [hroom]

/-- An item has to wait exactly where somebody reads and there is no room. -/
theorem Sink.offer_full_iff {s next : Sink} {i : Item} :
    s.offer i = (.full, next) ↔
      s.readerGone = false ∧ s.slots ≤ s.waiting.length ∧ next = s := by
  unfold offer
  cases hgone : s.readerGone with
  | true => simp
  | false =>
    by_cases hroom : s.waiting.length < s.slots
    · simp [hroom, Nat.not_le.2 hroom]
    · simp [hroom, Nat.not_lt.1 hroom, eq_comm]

/-- The reader gets the oldest item. -/
theorem Sink.receive_item_iff {s next : Sink} {i : Item} :
    s.receive = (.item i, next) ↔
      ∃ rest, s.waiting = i :: rest ∧ next = { s with waiting := rest } := by
  unfold receive
  cases hwaiting : s.waiting with
  | nil => cases s.writerGone <;> simp
  | cons j rest => simp [eq_comm]

/-- **The stream has ended** for the reader: nothing waits and nobody writes. -/
def Sink.Ended (s : Sink) : Prop := s.receive.1 = .ended

theorem Sink.ended_iff {s : Sink} : s.Ended ↔ s.waiting = [] ∧ s.writerGone = true := by
  unfold Ended receive
  cases s.waiting with
  | nil => cases s.writerGone <;> simp
  | cons i rest => simp

namespace Transcode

/-! ## (2) The stream as a queue -/

@[simp] theorem putIn_append (events more : List Event) :
    putIn (events ++ more) = putIn events ++ putIn more :=
  List.filterMap_append

@[simp] theorem takenOut_append (events more : List Event) :
    takenOut (events ++ more) = takenOut events ++ takenOut more :=
  List.filterMap_append

@[simp] theorem putIn_put (i : Item) : putIn [.put i] = [i] := rfl

@[simp] theorem putIn_turn : putIn [.turn] = [] := rfl

@[simp] theorem putIn_took (i : Item) : putIn [.took i] = [] := rfl

@[simp] theorem putIn_left : putIn [.left] = [] := rfl

@[simp] theorem takenOut_put (i : Item) : takenOut [.put i] = [] := rfl

@[simp] theorem takenOut_turn : takenOut [.turn] = [] := rfl

@[simp] theorem takenOut_took (i : Item) : takenOut [.took i] = [i] := rfl

@[simp] theorem takenOut_left : takenOut [.left] = [] := rfl

/-- **The stream as a queue**, after the events of a run in a stream of so many slots. -/
structure Queued (room : Nat) (events : List Event) (sink : Sink) : Prop where
  slots : sink.slots = room
  bounded : sink.waiting.length ≤ room
  gone : sink.readerGone = true ↔ .left ∈ events
  /-- Nothing waits for a reader that is gone. -/
  dropped : sink.readerGone = true → sink.waiting = []
  /-- What was put in was taken out in the same order, or waits. -/
  order : sink.readerGone = false → putIn events = takenOut events ++ sink.waiting
  taken : takenOut events <+: putIn events

/-- **A stream changes in four ways**, whoever causes them; the writer may leave besides. -/
theorem Queued.next {room : Nat} {events : List Event} {sink next : Sink} {e : Event}
    (h : Queued room events sink)
    (change : (∃ i, e = .put i ∧ sink.offer i = (.taken, next)) ∨ (e = .turn ∧ next = sink) ∨
      (∃ i, e = .took i ∧ sink.receive = (.item i, next) ∧ sink.readerGone = false) ∨
      (e = .left ∧ next = sink.dropReader)) :
    Queued room (events ++ [e]) next := by
  rcases change with ⟨i, rfl, hoffer⟩ | ⟨rfl, rfl⟩ | ⟨i, rfl, hreceive, hpresent⟩ | ⟨rfl, rfl⟩
  · -- an item joins the queue at its end
    obtain ⟨hpresent, hroom, rfl⟩ := Sink.offer_taken_iff.1 hoffer
    refine ⟨h.slots, ?_, ?_, ?_, ?_, ?_⟩
    · have hslots := h.slots
      rw [List.length_append, List.length_singleton]
      omega
    · simp [← h.gone]
    · simp [hpresent]
    · intro _
      simp [h.order hpresent]
    · simpa using h.taken.trans (List.prefix_append _ _)
  · -- nothing happens to the queue
    refine ⟨h.slots, h.bounded, ?_, h.dropped, ?_, ?_⟩
    · simp [← h.gone]
    · simpa using h.order
    · simpa using h.taken
  · -- the oldest item moves from the queue to what was taken
    obtain ⟨rest, hwaiting, rfl⟩ := Sink.receive_item_iff.1 hreceive
    have horder := h.order hpresent
    rw [hwaiting] at horder
    refine ⟨h.slots, ?_, ?_, ?_, ?_, ?_⟩
    · have hbound := h.bounded
      rw [hwaiting, List.length_cons] at hbound
      show rest.length ≤ room
      omega
    · simp [← h.gone]
    · simp [hpresent]
    · intro _
      simpa using horder
    · simp [horder]
  · -- the reader leaves and the queue is dropped with it
    refine ⟨h.slots, by simp [Sink.dropReader], ?_, ?_, ?_, ?_⟩
    · simp [Sink.dropReader]
    · simp [Sink.dropReader]
    · simp [Sink.dropReader]
    · simpa using h.taken

/-- The writer that leaves changes nothing of it. -/
theorem Queued.dropWriter {room : Nat} {events : List Event} {sink : Sink}
    (h : Queued room events sink) : Queued room events sink.dropWriter :=
  ⟨h.slots, h.bounded, h.gone, h.dropped, h.order, h.taken⟩

/-- The stream of a capacity is a queue at the start. -/
theorem queued_ofCapacity (capacity : Nat) :
    Queued (max capacity 1) [] (.ofCapacity capacity) :=
  ⟨rfl, by simp [Sink.ofCapacity], by simp [Sink.ofCapacity], by simp [Sink.ofCapacity],
    by simp [Sink.ofCapacity, putIn, takenOut], by simp [putIn, takenOut]⟩

/-- **Every step moves the stream as a queue.** -/
theorem Step.queued {t : Transcode} {c : Child} {s s' : State} {e : Event} {room : Nat}
    {events : List Event} (step : Step t c s e s') (h : Queued room events s.sink) :
    Queued room (events ++ [e]) s'.sink := by
  cases step with
  | send chunk rest sent sink next size taken => exact h.next (.inl ⟨_, rfl, taken⟩)
  | abandon rest sent sink more gone => exact (h.next (.inr (.inl ⟨rfl, rfl⟩))).dropWriter
  | complete sent sink well => exact (h.next (.inr (.inl ⟨rfl, rfl⟩))).dropWriter
  | fail sent sink badly ended => exact h.next (.inr (.inl ⟨rfl, rfl⟩))
  | timeOut rest sent sink => exact h.next (.inr (.inl ⟨rfl, rfl⟩))
  | report e sink next taken => exact (h.next (.inl ⟨_, rfl, taken⟩)).dropWriter
  | giveUp e sink gone => exact (h.next (.inr (.inl ⟨rfl, rfl⟩))).dropWriter
  | read i phase sink next got present => exact h.next (.inr (.inr (.inl ⟨i, rfl, got, present⟩)))
  | leave phase sink present => exact h.next (.inr (.inr (.inr ⟨rfl, rfl⟩)))

/-! ## (3) The output among the items -/

/-- The items are chunks only. -/
def Plain (items : List Item) : Prop := ∀ i ∈ items, i.isFailure = false

@[simp] theorem outputOf_append (items more : List Item) :
    outputOf (items ++ more) = outputOf items ++ outputOf more :=
  List.flatMap_append

@[simp] theorem outputOf_chunk (b : Bytes) : outputOf [.chunk b] = b := by
  simp [outputOf, Item.bytes]

@[simp] theorem outputOf_failure (e : Error) : outputOf [.failure e] = [] := rfl

/-- A chunk added to chunks leaves chunks. -/
theorem Plain.append_chunk {items : List Item} (h : Plain items) (b : Bytes) :
    Plain (items ++ [.chunk b]) := by
  intro i hi
  rcases List.mem_append.1 hi with hold | hnew
  · exact h i hold
  · rw [List.mem_singleton.1 hnew]
    rfl

/-- A prefix of the items carries a prefix of the output. -/
theorem outputOf_mono {items more : List Item} (h : items <+: more) :
    outputOf items <+: outputOf more := by
  obtain ⟨rest, rfl⟩ := h
  exact ⟨outputOf rest, (outputOf_append items rest).symm⟩

/-- **What the items put in so far say about the output**, by what the writer is at; `left` is
whether the reader is gone. -/
def Accounts (t : Transcode) (c : Child) (items : List Item) (left : Prop) : Phase → Prop
  | .pumping rest sent =>
    Plain items ∧ outputOf items ++ rest = c.output ∧ sent = (outputOf items).length
  | .failing _ => Plain items ∧ outputOf items <+: c.output
  | .finished (.completed n) => Plain items ∧ outputOf items = c.output ∧ n = c.output.length
  | .finished (.cancelled n) =>
    Plain items ∧ outputOf items <+: c.output ∧ n = (outputOf items).length ∧ left
  | .finished .failed =>
    outputOf items <+: c.output ∧
      ((∃ chunks e, items = chunks ++ [.failure e] ∧ Plain chunks) ∨ (Plain items ∧ left))
  | .collapsed => items = [] ∧ mostChunkBytes < t.chunkLimit

/-- Whether the writer is gone. -/
def Phase.isOver : Phase → Bool
  | .finished _ => true
  | .collapsed => true
  | _ => false

/-- A reader that leaves changes no account. -/
theorem Accounts.mono {t : Transcode} {c : Child} {items : List Item} {left left' : Prop}
    {phase : Phase} (h : Accounts t c items left phase) (himp : left → left') :
    Accounts t c items left' phase := by
  match phase, h with
  | .pumping _ _, h => exact h
  | .failing _, h => exact h
  | .finished (.completed _), h => exact h
  | .finished (.cancelled _), ⟨hplain, hbegins, hn, hleft⟩ =>
    exact ⟨hplain, hbegins, hn, himp hleft⟩
  | .finished .failed, ⟨hbegins, hend⟩ =>
    exact ⟨hbegins, hend.imp_right fun ⟨hplain, hleft⟩ => ⟨hplain, himp hleft⟩⟩
  | .collapsed, h => exact h

/-- In every account the items carry a prefix of the output. -/
theorem Accounts.begins {t : Transcode} {c : Child} {items : List Item} {left : Prop}
    {phase : Phase} (h : Accounts t c items left phase) : outputOf items <+: c.output := by
  match phase, h with
  | .pumping rest _, ⟨_, houtput, _⟩ => exact ⟨rest, houtput⟩
  | .failing _, ⟨_, hbegins⟩ => exact hbegins
  | .finished (.completed _), ⟨_, houtput, _⟩ => exact houtput ▸ List.prefix_refl _
  | .finished (.cancelled _), ⟨_, hbegins, _⟩ => exact hbegins
  | .finished .failed, ⟨hbegins, _⟩ => exact hbegins
  | .collapsed, ⟨hnone, _⟩ =>
    rw [hnone]
    exact List.nil_prefix

/-! ## (4) What every step keeps -/

/-- **What holds in every state of a run** after its events. -/
structure Consistent (t : Transcode) (c : Child) (room : Nat) (events : List Event)
    (s : State) : Prop where
  queued : Queued room events s.sink
  accounts : Accounts t c (putIn events) (.left ∈ events) s.phase
  settled : s.sink.writerGone = s.phase.isOver
  sizes : ∀ b, .chunk b ∈ putIn events → b ≠ [] ∧ b.length ≤ t.chunkLimit

/-- The account of the next state. -/
theorem Step.accounts {t : Transcode} {c : Child} {s s' : State} {e : Event} {room : Nat}
    {events : List Event} (step : Step t c s e s') (h : Consistent t c room events s) :
    Accounts t c (putIn (events ++ [e])) (.left ∈ events ++ [e]) s'.phase := by
  have hleft : Event.left ∈ events → Event.left ∈ events ++ [e] := List.mem_append_left _
  have hgone := h.queued.gone
  have haccounts := h.accounts
  cases step with
  | send chunk rest sent sink next size taken =>
    -- the chunk moves from the rest of the output to what was put in
    obtain ⟨hplain, houtput, hsent⟩ := haccounts
    refine ⟨?_, ?_, ?_⟩
    · rw [putIn_append, putIn_put]
      exact hplain.append_chunk chunk
    · rw [putIn_append, putIn_put, outputOf_append, outputOf_chunk, List.append_assoc]
      exact houtput
    · rw [putIn_append, putIn_put, outputOf_append, outputOf_chunk, List.length_append, hsent]
  | abandon rest sent sink more gone =>
    obtain ⟨hplain, houtput, hsent⟩ := haccounts
    rw [putIn_append, putIn_turn, List.append_nil]
    exact ⟨hplain, ⟨rest, houtput⟩, hsent, hleft (hgone.1 gone)⟩
  | complete sent sink well =>
    -- the rest is empty, so all of the output was put in
    obtain ⟨hplain, houtput, hsent⟩ := haccounts
    rw [List.append_nil] at houtput
    rw [putIn_append, putIn_turn, List.append_nil]
    exact ⟨hplain, houtput, houtput ▸ hsent⟩
  | fail sent sink badly ended =>
    obtain ⟨hplain, houtput, -⟩ := haccounts
    rw [putIn_append, putIn_turn, List.append_nil]
    exact ⟨hplain, ⟨[], houtput⟩⟩
  | timeOut rest sent sink =>
    obtain ⟨hplain, houtput, -⟩ := haccounts
    rw [putIn_append, putIn_turn, List.append_nil]
    exact ⟨hplain, ⟨rest, houtput⟩⟩
  | report e sink next taken =>
    obtain ⟨hplain, hbegins⟩ := haccounts
    rw [putIn_append, putIn_put]
    refine ⟨?_, .inl ⟨putIn events, e, rfl, hplain⟩⟩
    rw [outputOf_append, outputOf_failure, List.append_nil]
    exact hbegins
  | giveUp e sink gone =>
    -- no failure was put in, which only happens to a reader that left
    obtain ⟨hplain, hbegins⟩ := haccounts
    rw [putIn_append, putIn_turn, List.append_nil]
    exact ⟨hbegins, .inr ⟨hplain, hleft (hgone.1 gone)⟩⟩
  | read i phase sink next got present =>
    rw [putIn_append, putIn_took, List.append_nil]
    exact haccounts.mono hleft
  | leave phase sink present =>
    rw [putIn_append, putIn_left, List.append_nil]
    exact haccounts.mono hleft

/-- The writer is gone from the stream exactly when it is over. -/
theorem Step.settled {t : Transcode} {c : Child} {s s' : State} {e : Event}
    (step : Step t c s e s') (h : s.sink.writerGone = s.phase.isOver) :
    s'.sink.writerGone = s'.phase.isOver := by
  cases step with
  | send chunk rest sent sink next size taken =>
    obtain ⟨-, -, rfl⟩ := Sink.offer_taken_iff.1 taken
    exact h
  | abandon => rfl
  | complete => rfl
  | fail => exact h
  | timeOut => exact h
  | report => rfl
  | giveUp => rfl
  | read i phase sink next got present =>
    obtain ⟨rest, -, rfl⟩ := Sink.receive_item_iff.1 got
    exact h
  | leave => exact h

/-- Only chunks of a right size are put in. -/
theorem Step.size {t : Transcode} {c : Child} {s s' : State} {e : Event} {b : Bytes}
    (step : Step t c s e s') (h : .chunk b ∈ putIn [e]) : b ≠ [] ∧ b.length ≤ t.chunkLimit := by
  cases step with
  | send chunk rest sent sink next size taken =>
    rw [putIn_put, List.mem_singleton] at h
    cases h
    exact size
  | report e sink next taken =>
    rw [putIn_put, List.mem_singleton] at h
    cases h
  | _ => cases h

/-- **Every step keeps what holds in a run.** -/
theorem Step.consistent {t : Transcode} {c : Child} {s s' : State} {e : Event} {room : Nat}
    {events : List Event} (step : Step t c s e s') (h : Consistent t c room events s) :
    Consistent t c room (events ++ [e]) s' where
  queued := step.queued h.queued
  accounts := step.accounts h
  settled := step.settled h.settled
  sizes b hb := by
    rw [putIn_append, List.mem_append] at hb
    rcases hb with hold | hnew
    · exact h.sizes b hold
    · exact step.size hnew

/-- It holds at the start. -/
theorem consistent_launch (t : Transcode) (c : Child) (capacity : Nat) :
    Consistent t c (max capacity 1) [] (t.launch c (.ofCapacity capacity)) := by
  unfold launch
  split
  · -- no memory for a chunk: the writer is gone at once, with nothing put in
    rename_i hlimit
    exact ⟨(queued_ofCapacity capacity).dropWriter, ⟨rfl, hlimit⟩, rfl, fun b hb => nomatch hb⟩
  · refine ⟨queued_ofCapacity capacity, ⟨?_, rfl, rfl⟩, rfl, fun b hb => nomatch hb⟩
    exact fun i hi => nomatch hi

/-- **It holds in every run**, if it does at the start. -/
theorem Run.consistent {t : Transcode} {c : Child} {room : Nat} {events : List Event}
    {s s' : State} (run : Run t c s events s') (h : Consistent t c room [] s) :
    Consistent t c room events s' := by
  induction run with
  | here => exact h
  | next before step ih => exact step.consistent ih

/-- So it holds in every run of a started child. -/
theorem Run.invariant {t : Transcode} {c : Child} {capacity : Nat} {events : List Event}
    {s : State} (run : Run t c (t.launch c (.ofCapacity capacity)) events s) :
    Consistent t c (max capacity 1) events s :=
  run.consistent (consistent_launch t c capacity)

/-- **A run of a transcode from its beginning**, over the stream of a capacity: of the child that is
started, or of the failure to start one. -/
def Runs (t : Transcode) (capacity : Nat) (events : List Event) (s : State) : Prop :=
  Run t (t.begin (.ofCapacity capacity)).1 (t.begin (.ofCapacity capacity)).2 events s

/-- A run from the beginning is consistent, whether or not there is a child. -/
theorem Runs.consistent {t : Transcode} {capacity : Nat} {events : List Event} {s : State}
    (run : t.Runs capacity events s) :
    Consistent t (t.begin (.ofCapacity capacity)).1 (max capacity 1) events s := by
  refine Run.consistent run ?_
  unfold begin
  cases t.start with
  | ok c => exact consistent_launch t (t.childInTime c) capacity
  | error e =>
    -- nothing was put in, and the failure is still to be told
    exact ⟨queued_ofCapacity capacity, ⟨fun i hi => (nomatch hi), List.nil_prefix⟩, rfl,
      fun b hb => nomatch hb⟩

/-! ## (5) Runs go on and end -/

/-- **How many steps may still come**, at most: two for each byte to be sent, one for each item that
waits, and a few at the ends. -/
def State.remaining (s : State) : Nat :=
  (match s.phase with
    | .pumping rest _ => 2 * rest.length + 3
    | .failing _ => 2
    | _ => 0) + s.sink.waiting.length + (!s.sink.readerGone).toNat

/-- Every step is one of them. -/
theorem Step.remaining_lt {t : Transcode} {c : Child} {s s' : State} {e : Event}
    (step : Step t c s e s') : s'.remaining < s.remaining := by
  cases step with
  | send chunk rest sent sink next size taken =>
    obtain ⟨hpresent, -, rfl⟩ := Sink.offer_taken_iff.1 taken
    have hlength : 0 < chunk.length := List.length_pos_iff.2 size.1
    simp only [State.remaining, List.length_append, List.length_singleton]
    omega
  | abandon rest sent sink more gone =>
    simp only [State.remaining, Sink.dropWriter]
    omega
  | complete sent sink well =>
    simp only [State.remaining, Sink.dropWriter]
    omega
  | fail sent sink badly ended =>
    simp only [State.remaining]
    omega
  | timeOut rest sent sink =>
    simp only [State.remaining]
    omega
  | report e sink next taken =>
    obtain ⟨hpresent, -, rfl⟩ := Sink.offer_taken_iff.1 taken
    simp only [State.remaining, Sink.dropWriter, hpresent, List.length_append,
      List.length_singleton]
    omega
  | giveUp e sink gone =>
    simp only [State.remaining, Sink.dropWriter]
    omega
  | read i phase sink next got present =>
    obtain ⟨rest, hwaiting, rfl⟩ := Sink.receive_item_iff.1 got
    simp only [State.remaining, hwaiting, List.length_cons]
    omega
  | leave phase sink present =>
    simp only [State.remaining, Sink.dropReader, present, List.length_nil, Bool.not_false,
      Bool.not_true, Bool.toNat_false, Bool.toNat_true]
    omega

/-- **A run has no more steps than its first state allows.** -/
theorem Run.length_le {t : Transcode} {c : Child} {s s' : State} {events : List Event}
    (run : Run t c s events s') : events.length + s'.remaining ≤ s.remaining := by
  induction run with
  | here => simp
  | next before step ih =>
    have hless := step.remaining_lt
    rw [List.length_append, List.length_singleton]
    omega

/-- The steps that a transcode of a child may take. -/
theorem remaining_launch_le (t : Transcode) (c : Child) (capacity : Nat) :
    (t.launch c (.ofCapacity capacity)).remaining ≤ 2 * c.output.length + 4 := by
  unfold launch
  split <;> simp [State.remaining, Sink.ofCapacity, Sink.dropWriter]

/-- **A stream that has not ended for a present reader goes on** without its leaving. -/
theorem Consistent.exists_step {t : Transcode} {c : Child} {capacity : Nat} {events : List Event}
    {s : State} (h : Consistent t c (max capacity 1) events s) (hleft : .left ∉ events)
    (hend : ¬s.sink.Ended) : ∃ e s', e ≠ .left ∧ Step t c s e s' := by
  obtain ⟨phase, sink⟩ := s
  have hpresent : sink.readerGone = false := by
    rw [← Bool.not_eq_true]
    exact fun hgone => hleft (h.queued.gone.1 hgone)
  cases hwaiting : sink.waiting with
  | cons i rest =>
    have hgot : sink.receive = (.item i, { sink with waiting := rest }) :=
      Sink.receive_item_iff.2 ⟨rest, hwaiting, rfl⟩
    exact ⟨.took i, _, by simp, .read i phase sink _ hgot hpresent⟩
  | nil =>
    -- the queue is empty, so there is room for whatever the writer has
    have hroom : sink.waiting.length < sink.slots := by
      have hslots : sink.slots = max capacity 1 := h.queued.slots
      rw [hwaiting, List.length_nil]
      omega
    have htaken : ∀ i, sink.offer i = (.taken, { sink with waiting := sink.waiting ++ [i] }) :=
      fun i => Sink.offer_taken_iff.2 ⟨hpresent, hroom, rfl⟩
    have hover : phase.isOver = false := by
      rw [← Bool.not_eq_true]
      exact fun hover => hend (Sink.ended_iff.2 ⟨hwaiting, h.settled.trans hover⟩)
    -- whatever the child has come to, one step of the writer is open
    match phase, hover with
    | .pumping [] sent, _ => exact ⟨.turn, _, by simp, .timeOut [] sent sink⟩
    | .pumping (b :: rest) sent, _ =>
      have hsize : [b] ≠ [] ∧ [b].length ≤ t.chunkLimit := ⟨by simp, Nat.le_max_right _ _⟩
      exact ⟨_, _, by simp, .send [b] rest sent sink _ hsize (htaken _)⟩
    | .failing e, _ => exact ⟨_, _, by simp, .report e sink _ (htaken _)⟩

/-! ## (6) No silent loss -/

/-- **No output is lost silently.** In every run of a transcode of the child `c` over a stream of a
capacity, whatever the interleaving: what the reader got is a prefix of the output in chunks of a
right size; a reader that stays sees an end without failure exactly where the transcode completed,
with the whole output, and one failure at the end otherwise; only a reader that left cancels; and
the stream of a reader that stays always goes on to its end. -/
structure Reliable (t : Transcode) (c : Child) (capacity : Nat) : Prop where
  /-- What was taken is a prefix of the output. -/
  got : ∀ events s, Run t c (t.launch c (.ofCapacity capacity)) events s →
    outputOf (takenOut events) <+: c.output
  /-- Chunks that were taken or wait are of a right size. -/
  sizes : ∀ events s, Run t c (t.launch c (.ofCapacity capacity)) events s →
    ∀ b, .chunk b ∈ takenOut events ++ s.sink.waiting → b ≠ [] ∧ b.length ≤ max t.chunkBytes 1
  /-- No more items wait than the stream has slots. -/
  bounded : ∀ events s, Run t c (t.launch c (.ofCapacity capacity)) events s →
    s.sink.waiting.length ≤ max capacity 1
  /-- An end without failure is a completed transcode. -/
  completes : ∀ events s, Run t c (t.launch c (.ofCapacity capacity)) events s →
    .left ∉ events → s.sink.Ended →
      (Plain (takenOut events) ↔ ∃ n, s.phase = .finished (.completed n))
  /-- A completed transcode has passed on the whole output. -/
  whole : ∀ events s, Run t c (t.launch c (.ofCapacity capacity)) events s →
    .left ∉ events → s.sink.Ended → ∀ n, s.phase = .finished (.completed n) →
      outputOf (takenOut events) = c.output ∧ n = c.output.length
  /-- Every other end has failed, with one failure as the last item. -/
  fails : ∀ events s, Run t c (t.launch c (.ofCapacity capacity)) events s →
    .left ∉ events → s.sink.Ended → (∀ n, s.phase ≠ .finished (.completed n)) →
      s.phase = .finished .failed ∧
        ∃ chunks e, takenOut events = chunks ++ [.failure e] ∧ Plain chunks
  /-- Only a reader that left cancels, and what was accepted until then is counted. -/
  cancels : ∀ events s, Run t c (t.launch c (.ofCapacity capacity)) events s →
    ∀ n, s.phase = .finished (.cancelled n) →
      .left ∈ events ∧ n = (outputOf (putIn events)).length
  /-- A stream that has not ended goes on, also when its reader stays. -/
  goesOn : ∀ events s, Run t c (t.launch c (.ofCapacity capacity)) events s →
    .left ∉ events → ¬s.sink.Ended → ∃ e s', e ≠ .left ∧ Step t c s e s'
  /-- No run goes on for ever. -/
  ends : ∀ events s, Run t c (t.launch c (.ofCapacity capacity)) events s →
    events.length ≤ 2 * c.output.length + 4

/-- What a reader that stayed has got at the end is what was put in. -/
theorem Queued.takenOut_eq {room : Nat} {events : List Event} {sink : Sink}
    (h : Queued room events sink) (hleft : .left ∉ events) (hend : sink.Ended) :
    takenOut events = putIn events := by
  have hpresent : sink.readerGone = false := by
    rw [← Bool.not_eq_true]
    exact fun hgone => hleft (h.gone.1 hgone)
  rw [h.order hpresent, (Sink.ended_iff.1 hend).1, List.append_nil]

/-- A failure at the end is not plain. -/
theorem not_plain_append_failure (chunks : List Item) (e : Error) :
    ¬Plain (chunks ++ [.failure e]) := by
  intro h
  have hfailure := h (.failure e) (List.mem_append_right _ (List.mem_singleton.2 rfl))
  cases hfailure

/-- **The end of a run with a reader that stayed**: the transcode has collapsed, or completed with
the whole output put in, or failed with a failure put in last. -/
theorem Consistent.ended_or_collapsed {t : Transcode} {c : Child} {room : Nat}
    {events : List Event} {s : State} (h : Consistent t c room events s) (hleft : .left ∉ events)
    (hend : s.sink.Ended) :
    s.phase = .collapsed ∨
      (s.phase = .finished (.completed c.output.length) ∧ Plain (putIn events) ∧
        outputOf (putIn events) = c.output) ∨
      (s.phase = .finished .failed ∧
        ∃ chunks e, putIn events = chunks ++ [.failure e] ∧ Plain chunks) := by
  have hover : s.phase.isOver = true := h.settled.symm.trans (Sink.ended_iff.1 hend).2
  have haccounts := h.accounts
  match hphase : s.phase, hover with
  | .finished (.completed n), _ =>
    rw [hphase] at haccounts
    obtain ⟨hplain, houtput, rfl⟩ := haccounts
    exact .inr (.inl ⟨rfl, hplain, houtput⟩)
  | .finished (.cancelled n), _ =>
    rw [hphase] at haccounts
    exact absurd haccounts.2.2.2 hleft
  | .finished .failed, _ =>
    rw [hphase] at haccounts
    rcases haccounts.2 with hfailure | ⟨-, hgone⟩
    · exact .inr (.inr ⟨rfl, hfailure⟩)
    · exact absurd hgone hleft
  | .collapsed, _ => exact .inl rfl

/-- Where memory allows a chunk, it has completed or failed. -/
theorem Consistent.ended {t : Transcode} {c : Child} {room : Nat} {events : List Event}
    {s : State} (h : Consistent t c room events s) (hlimit : t.chunkLimit ≤ mostChunkBytes)
    (hleft : .left ∉ events) (hend : s.sink.Ended) :
    (s.phase = .finished (.completed c.output.length) ∧ Plain (putIn events) ∧
        outputOf (putIn events) = c.output) ∨
      (s.phase = .finished .failed ∧
        ∃ chunks e, putIn events = chunks ++ [.failure e] ∧ Plain chunks) := by
  rcases h.ended_or_collapsed hleft hend with hcollapsed | hover
  · have haccounts := h.accounts
    rw [hcollapsed] at haccounts
    exact absurd haccounts.2 (Nat.not_lt.2 hlimit)
  · exact hover

/-- **Where memory allows a chunk, nothing is lost silently.** -/
theorem reliable_of_le {t : Transcode} (hlimit : t.chunkLimit ≤ mostChunkBytes) (c : Child)
    (capacity : Nat) : Reliable t c capacity where
  got events s run :=
    (outputOf_mono run.invariant.queued.taken).trans run.invariant.accounts.begins
  sizes events s run b hb := by
    have hqueued := run.invariant.queued
    refine run.invariant.sizes b ?_
    rcases List.mem_append.1 hb with htaken | hwaiting
    · exact hqueued.taken.subset htaken
    · -- something waits, so the reader is there and what waits was put in
      have hpresent : s.sink.readerGone = false := by
        rw [← Bool.not_eq_true]
        intro hgone
        rw [hqueued.dropped hgone] at hwaiting
        cases hwaiting
      rw [hqueued.order hpresent]
      exact List.mem_append_right _ hwaiting
  bounded events s run := run.invariant.queued.bounded
  completes events s run hleft hend := by
    rw [run.invariant.queued.takenOut_eq hleft hend]
    rcases run.invariant.ended hlimit hleft hend with
      ⟨hphase, hplain, -⟩ | ⟨hphase, chunks, e, hput, -⟩
    · exact iff_of_true hplain ⟨_, hphase⟩
    · rw [hput, hphase]
      exact iff_of_false (not_plain_append_failure chunks e) (by simp)
  whole events s run hleft hend n hn := by
    rw [run.invariant.queued.takenOut_eq hleft hend]
    rcases run.invariant.ended hlimit hleft hend with ⟨hphase, -, houtput⟩ | ⟨hphase, -⟩
    · rw [hphase] at hn
      cases hn
      exact ⟨houtput, rfl⟩
    · rw [hphase] at hn
      cases hn
  fails events s run hleft hend hn := by
    rw [run.invariant.queued.takenOut_eq hleft hend]
    rcases run.invariant.ended hlimit hleft hend with ⟨hphase, -⟩ | hfailed
    · exact absurd hphase (hn _)
    · exact hfailed
  cancels events s run n hn := by
    have haccounts := run.invariant.accounts
    rw [hn] at haccounts
    exact ⟨haccounts.2.2.2, haccounts.2.2.1⟩
  goesOn events s run hleft hend := run.invariant.exists_step hleft hend
  ends events s run := by
    have hlength := run.length_le
    have hstart := remaining_launch_le t c capacity
    omega

/-- **Where there can be no memory for a chunk, the stream ends at once**, without a failure and
without an outcome. -/
theorem not_reliable_of_lt {t : Transcode} (hlimit : mostChunkBytes < t.chunkLimit) (c : Child)
    (capacity : Nat) : ¬Reliable t c capacity := by
  intro h
  -- the reader sees a stream that ended with no items, and `completes` would have it completed
  have hlaunch : t.launch c (.ofCapacity capacity)
      = ⟨.collapsed, (Sink.ofCapacity capacity).dropWriter⟩ := if_pos hlimit
  have hend : (t.launch c (.ofCapacity capacity)).sink.Ended := by
    rw [hlaunch]
    exact Sink.ended_iff.2 ⟨rfl, rfl⟩
  have hplain : Plain (takenOut []) := fun i hi => nomatch hi
  obtain ⟨n, hn⟩ := (h.completes [] _ .here (by simp) hend).1 hplain
  rw [hlaunch] at hn
  cases hn

/-- **A transcode loses nothing silently exactly where there can be memory for one of its
chunks**, for every child, every capacity and every interleaving. -/
theorem reliable_iff (t : Transcode) (c : Child) (capacity : Nat) :
    Reliable t c capacity ↔ max t.chunkBytes 1 ≤ mostChunkBytes := by
  constructor
  · intro h
    by_contra hlimit
    exact not_reliable_of_lt (Nat.lt_of_not_le hlimit) c capacity h
  · intro hlimit
    exact reliable_of_le hlimit c capacity

/-- A program that writes three bytes and ends well, transcoded in the largest chunks that can be
asked for: its reader sees an empty stream end, with no failure and no outcome. -/
theorem not_reliable_largest_chunks :
    ¬Reliable ⟨ScriptedProgram.run, 300000, 2 ^ 64 - 1, {}, [], [], .ofMime "video/mp4"⟩
      ⟨[1, 2, 3], [], .exited 0⟩ 16 :=
  not_reliable_of_lt (by decide) _ _

end Transcode

end MediaTransform
