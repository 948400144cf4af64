import MediaTransform.Error
import MediaTransform.Number.Instances
import MediaTransform.Text.Utf8

/-! # Sinks: bounded streams from a writer to a reader

* **`Item`** — a chunk of output, or the failure that ends a stream.
* **`Sink`** — the items that wait for the reader, and which of the two sides are gone.
* **`Sink.offer`** — the writer's side: an item is taken, refused because the stream is full, or
  refused because nobody reads any more.
* **`Sink.receive`** — the reader's side: items in the order of writing. -/

namespace MediaTransform

/-- **One item of a stream.** -/
inductive Item where
  | chunk (bytes : Bytes)
  | failure (e : Error)
  deriving DecidableEq

/-- The bytes of a chunk. -/
def Item.bytes : Item → Bytes
  | chunk b => b
  | failure _ => []

/-- Whether an item is a failure. -/
def Item.isFailure : Item → Bool
  | chunk _ => false
  | failure _ => true

/-- **A bounded stream** between a writer and a reader. -/
structure Sink where
  /-- How many items may wait. -/
  slots : Nat
  waiting : List Item := []
  readerGone : Bool := false
  writerGone : Bool := false
  deriving DecidableEq

/-- What becomes of an item that is offered. -/
inductive Offer where
  | taken
  | full
  | closed
  deriving DecidableEq, Repr

/-- What a reader gets. -/
inductive Received where
  | item (i : Item)
  | nothing
  | ended
  deriving DecidableEq

namespace Sink

/-- The empty stream in which at most `capacity` items wait, but always one may. -/
def ofCapacity (capacity : Nat) : Sink := { slots := max capacity 1 }

/-- The most slots that a stream can have: its free ones are counted in 61 bits. -/
def mostSlots : Nat := 2 ^ 61 - 1

/-- Whether a stream of a capacity can be made at all. -/
def canExist (capacity : Nat) : Bool := max capacity 1 ≤ mostSlots

/-- **The writer offers an item.** Only a taken item is in the stream. -/
def offer (s : Sink) (i : Item) : Offer × Sink :=
  if s.readerGone then (.closed, s)
  else if s.waiting.length < s.slots then (.taken, { s with waiting := s.waiting ++ [i] })
  else (.full, s)

/-- **The reader takes the oldest item.** -/
def receive (s : Sink) : Received × Sink :=
  match s.waiting with
  | i :: rest => (.item i, { s with waiting := rest })
  | [] => (if s.writerGone then .ended else .nothing, s)

/-- The reader leaves; nothing waits for it any more. -/
def dropReader (s : Sink) : Sink := { s with readerGone := true, waiting := [] }

/-- The writer leaves; what waits can still be read. -/
def dropWriter (s : Sink) : Sink := { s with writerGone := true }

/-- The text of an offer that nobody reads. -/
def closedMessage : String := "output sink closed"

@[simp] theorem slots_ofCapacity (capacity : Nat) : (ofCapacity capacity).slots = max capacity 1 :=
  rfl

end Sink

end MediaTransform
