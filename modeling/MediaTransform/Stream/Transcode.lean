import MediaTransform.Stream.Child
import MediaTransform.Stream.Sink
import MediaTransform.Text.Duration
import MediaTransform.Video.Command

/-! # Transcodes: a program's output streamed to a reader

* **`Transcode`** — a command with its inputs, the program and the limits.
* **`Transcode.State`** — what the writer is at, and the stream; **`Transcode.launch`** — how a
  started program is met.
* **`Transcode.write?`** — the writer's next step; **`Transcode.Step`** — every step that the
  writer, the clock or the reader may take, with what happens to the stream; **`Transcode.Run`** —
  rows of steps.
* **`Transcode.run`** — the run for a reader that takes every item: the outcome and the items.
* **`Transcode.runUnread`** — the outcome when nobody reads.

Failures of the system are left out: the folder for the inputs can always be made and written, output
can be read, and the end of a program can be learnt. -/

namespace MediaTransform

/-- **How a transcode ends.** -/
inductive Outcome where
  /-- The program ended well and all its output is in the stream. -/
  | completed (bytes : Nat)
  /-- The reader left and the program was stopped. -/
  | cancelled (bytes : Nat)
  /-- A failure was put into the stream. -/
  | failed
  deriving DecidableEq, Repr

/-- **A transcode that is ready to run.** -/
structure Transcode where
  program : Program
  timeoutMillis : Nat
  chunkBytes : Nat
  command : Command
  primary : Bytes
  splices : List Bytes
  container : Container

namespace Transcode

/-! ## (1) Starting -/

/-- The name of an input file. -/
def inputName (index : Nat) : String := "input" ++ toString index

/-- The inputs under their names: the primary one, then the spliced ones. -/
def inputs (t : Transcode) : List (String × Bytes) :=
  (t.primary :: t.splices).mapIdx fun index bytes => (inputName index, bytes)

/-- **The program started on the inputs.** -/
def start (t : Transcode) : Except Error Child :=
  match t.command.arguments? (t.inputs.map (·.1)) t.container with
  | .error e => .error e
  | .ok arguments =>
    match t.program.launch arguments t.inputs with
    | .child c => .ok c
    | .refused reason => .error (.tool "ffmpeg" ("failed to spawn: " ++ reason))

/-- The largest chunk. -/
def chunkLimit (t : Transcode) : Nat := max t.chunkBytes 1

/-- The most bytes that memory for one chunk can have: they are counted in 63 bits. -/
def mostChunkBytes : Nat := 2 ^ 63 - 1

/-- **Whether the run stops without an outcome**: the program has been started and there can be no
memory for a chunk. The stream ends there, as if the program had written nothing. -/
def collapses (t : Transcode) : Bool := decide (mostChunkBytes < t.chunkLimit) && t.start.isOk

/-- The failure of a program that takes too long. -/
def timeoutError (t : Transcode) : Error :=
  .tool "ffmpeg" ("timed out after " ++ Text.durationText t.timeoutMillis)

/-- The failure of a program that ended badly. -/
def exitError (c : Child) : Error := .tool "ffmpeg" c.failureText

/-! ## (2) Steps -/

/-- **What the writer is at.** -/
inductive Phase where
  /-- Passing on output, of which `sent` bytes are in the stream. -/
  | pumping (rest : Bytes) (sent : Nat)
  /-- Telling the reader of a failure. -/
  | failing (e : Error)
  | finished (o : Outcome)
  /-- Gone without an outcome, as there can be no memory for a chunk. -/
  | collapsed
  deriving DecidableEq

/-- The writer and the stream. -/
structure State where
  phase : Phase
  sink : Sink
  deriving DecidableEq

/-- **The state in which a started program is met.** The memory for the first chunk is asked for
before anything is read; where there can be none, the writer is gone at once. -/
def launch (t : Transcode) (c : Child) (sink : Sink) : State :=
  if mostChunkBytes < t.chunkLimit then ⟨.collapsed, sink.dropWriter⟩
  else ⟨.pumping c.output 0, sink⟩

/-- The writer leaves with an outcome. -/
def State.finish (s : State) (o : Outcome) : State := ⟨.finished o, s.sink.dropWriter⟩

/-- **The writer's next step**, with chunks as large as they may be; nothing while it must wait or
has finished. A program that never ends is waited for until its time is over. -/
def write? (t : Transcode) (c : Child) (s : State) : Option State :=
  match s.phase with
  | .finished _ => none
  | .collapsed => none
  | .failing e =>
    match s.sink.offer (.failure e) with
    | (.full, _) => none
    -- a failure that nobody reads is dropped, and the outcome is the same
    | (_, sink) => some ({ s with sink }.finish .failed)
  | .pumping [] sent =>
    -- how the program ended is asked only after its last byte
    if c.ending.isSuccess then some (s.finish (.completed sent))
    else if c.ending = .never then some { s with phase := .failing t.timeoutError }
    else some { s with phase := .failing (exitError c) }
  | .pumping rest sent =>
    let chunk := rest.take t.chunkLimit
    match s.sink.offer (.chunk chunk) with
    | (.full, _) => none
    | (.closed, _) => some (s.finish (.cancelled sent))
    | (.taken, sink) => some ⟨.pumping (rest.drop t.chunkLimit) (sent + chunk.length), sink⟩

/-- **What happens to the stream in one step.** -/
inductive Event where
  /-- The writer puts an item in. -/
  | put (i : Item)
  /-- The writer goes on without an item. -/
  | turn
  /-- The reader takes an item. -/
  | took (i : Item)
  /-- The reader leaves. -/
  | left
  deriving DecidableEq

/-- **Every step of a running transcode** of the child `c`: chunks of any size up to the limit, the
clock at any time before the output ends, and a reader that takes items or leaves. -/
inductive Step (t : Transcode) (c : Child) : State → Event → State → Prop
  | send (chunk rest : Bytes) (sent : Nat) (sink next : Sink)
      (size : chunk ≠ [] ∧ chunk.length ≤ t.chunkLimit)
      (taken : sink.offer (.chunk chunk) = (.taken, next)) :
      Step t c ⟨.pumping (chunk ++ rest) sent, sink⟩ (.put (.chunk chunk))
        ⟨.pumping rest (sent + chunk.length), next⟩
  | abandon (rest : Bytes) (sent : Nat) (sink : Sink) (more : rest ≠ [])
      (gone : sink.readerGone = true) :
      Step t c ⟨.pumping rest sent, sink⟩ .turn ⟨.finished (.cancelled sent), sink.dropWriter⟩
  | complete (sent : Nat) (sink : Sink) (well : c.ending.isSuccess = true) :
      Step t c ⟨.pumping [] sent, sink⟩ .turn ⟨.finished (.completed sent), sink.dropWriter⟩
  | fail (sent : Nat) (sink : Sink) (badly : c.ending.isSuccess = false)
      (ended : c.ending ≠ .never) :
      Step t c ⟨.pumping [] sent, sink⟩ .turn ⟨.failing (exitError c), sink⟩
  | timeOut (rest : Bytes) (sent : Nat) (sink : Sink) :
      Step t c ⟨.pumping rest sent, sink⟩ .turn ⟨.failing t.timeoutError, sink⟩
  | report (e : Error) (sink next : Sink) (taken : sink.offer (.failure e) = (.taken, next)) :
      Step t c ⟨.failing e, sink⟩ (.put (.failure e)) ⟨.finished .failed, next.dropWriter⟩
  | giveUp (e : Error) (sink : Sink) (gone : sink.readerGone = true) :
      Step t c ⟨.failing e, sink⟩ .turn ⟨.finished .failed, sink.dropWriter⟩
  | read (i : Item) (phase : Phase) (sink next : Sink)
      (got : sink.receive = (.item i, next)) (present : sink.readerGone = false) :
      Step t c ⟨phase, sink⟩ (.took i) ⟨phase, next⟩
  | leave (phase : Phase) (sink : Sink) (present : sink.readerGone = false) :
      Step t c ⟨phase, sink⟩ .left ⟨phase, sink.dropReader⟩

/-- **A run**: steps from a state, with what happened in order. -/
inductive Run (t : Transcode) (c : Child) (s : State) : List Event → State → Prop
  | here : Run t c s [] s
  | next {events : List Event} {e : Event} {middle last : State}
      (before : Run t c s events middle) (step : Step t c middle e last) :
      Run t c s (events ++ [e]) last

/-- The items that were put in, in order. -/
def putIn (events : List Event) : List Item :=
  events.filterMap fun
    | .put i => some i
    | _ => none

/-- The items that the reader took, in order. -/
def takenOut (events : List Event) : List Item :=
  events.filterMap fun
    | .took i => some i
    | _ => none

/-! ## (3) Runs -/

/-- **The child as far as the clock allows**: with no time at all it writes nothing and never
ends. -/
def childInTime (t : Transcode) (c : Child) : Child :=
  if t.timeoutMillis = 0 then { c with output := [], ending := .never } else c

/-- The child and the state at the start; a child that cannot be started is reported at once. -/
def begin (t : Transcode) (sink : Sink) : Child × State :=
  match t.start with
  | .ok c => (t.childInTime c, t.launch (t.childInTime c) sink)
  | .error e => (⟨[], [], .never⟩, ⟨.failing e, sink⟩)

/-- The outcome of a finished state; every other one counts as failed. -/
def State.outcome (s : State) : Outcome :=
  match s.phase with
  | .finished o => o
  | _ => .failed

/-- The writer steps as long as it can, and whenever it waits the reader takes an item. -/
def drain (t : Transcode) (c : Child) : Nat → State → List Item → Outcome × List Item
  | 0, s, taken => (s.outcome, taken.reverse)
  | fuel + 1, s, taken =>
    match write? t c s with
    | some next => drain t c fuel next taken
    | none =>
      match s.sink.receive with
      | (.item i, sink) => drain t c fuel { s with sink } (i :: taken)
      | _ => (s.outcome, taken.reverse)

/-- The steps that a run can take at most: two for each byte, and a few at the ends. -/
def stepBound (s : State) : Nat :=
  match s.phase with
  | .pumping rest _ => 2 * rest.length + 2 * s.sink.waiting.length + 8
  | _ => 2 * s.sink.waiting.length + 8

/-- **A run from a stream's state**: the outcome and the items that a reader takes. -/
def runWith (t : Transcode) (sink : Sink) : Outcome × List Item :=
  let (c, s) := t.begin sink
  drain t c (stepBound s) s []

/-- **The run for a reader that takes every item.** -/
def run (t : Transcode) (capacity : Nat) : Outcome × List Item := t.runWith (.ofCapacity capacity)

/-- **The outcome when nobody reads.** -/
def runUnread (t : Transcode) (capacity : Nat) : Outcome :=
  (t.runWith (Sink.ofCapacity capacity).dropReader).1

/-- The output among items. -/
def outputOf (items : List Item) : Bytes := items.flatMap Item.bytes

/-- The failure among items. -/
def failureOf : List Item → Option Error
  | [] => none
  | .chunk _ :: rest => failureOf rest
  | .failure e :: _ => some e

/-- **What a reader gets who takes every item**: all the output, or the failure. -/
def received (t : Transcode) (capacity : Nat) : Except Error Bytes :=
  let (_, items) := t.run capacity
  match failureOf items with
  | some e => .error e
  | none => .ok (outputOf items)

end Transcode

end MediaTransform
