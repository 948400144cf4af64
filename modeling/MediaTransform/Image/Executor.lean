import MediaTransform.Registry
import MediaTransform.Text.Duration

/-! # Running image chains

Every operation gets the whole output of the one before. The contents are left open, so that the
executor is about order, failure and time only.

* **`Attempt`** — what comes of one operation: it is done, it fails, or it does not end in time.
* **`ImageChain.run`** — a chain over a source, with a limit on the whole time. -/

namespace MediaTransform

/-- **What comes of one operation.** -/
inductive Attempt (β : Type) where
  | done (result : β)
  | failed (e : Error)
  /-- It has not ended when the time is over. -/
  | hangs

/-- The attempt of a computation that always ends. -/
def Attempt.ofExcept {β : Type} : Except Error β → Attempt β
  | .ok b => .done b
  | .error e => .failed e

namespace ImageChain

/-- An operation on contents of the type `β`. -/
abbrev Operation (β : Type) := β → Params → Attempt β

/-- Why a chain stops early. -/
inductive Stop where
  | failed (e : Error)
  | overtime
  deriving DecidableEq

/-- One step of a chain. -/
def step {β : Type} (found : Resolved (Operation β)) (b : β) : Except Stop β :=
  match found.handler b found.params with
  | .done next => .ok next
  | .failed e => .error (.failed (Error.ascribe found.tag e))
  | .hangs => .error .overtime

/-- The failure of a chain that takes too long. -/
def overtimeError (limitMillis : Nat) : Error :=
  .operation "image" ("transformation chain timed out after " ++ Text.durationText limitMillis)

/-- The error of a chain that stops early. -/
def Stop.error (limitMillis : Nat) : Stop → Error
  | .failed e => e
  | .overtime => overtimeError limitMillis

/-- **A chain over a source.** An operation that has not ended when the time is over is
cut off. -/
def run {β : Type} (r : Registry (Operation β)) (limitMillis : Nat) (source : β) (chain : Chain) :
    Except Error β :=
  (r.fold step source chain).mapError (Stop.error limitMillis)

/-- **The calls that a run makes**, with the contents that each was given. -/
def calls {β : Type} (r : Registry (Operation β)) (source : β) (chain : Chain) :
    List (Resolved (Operation β) × β) :=
  r.calls step source chain

end ImageChain

end MediaTransform
