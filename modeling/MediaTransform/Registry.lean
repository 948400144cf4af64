import MediaTransform.Media.Asset
import MediaTransform.Media.Spec
import MediaTransform.Url.Coerce

/-! # Registries of operations

* **`Registry`** — the handlers of one media domain under their tags.
* **`Registry.resolve`** — the handler of a spec: that of its whole kind, else that of the text
  before the first underscore, which then also receives the text after it as a parameter.
* **`Registry.fold`** — a chain as a run over a state, in which specs without a handler do
  nothing; `Registry.calls` lists the calls that the run makes.
* **`Error.ascribe`** — an error that names an operation, as every failing step reports it. -/

namespace MediaTransform

/-! ## (1) Handlers under tags -/

/-- **The handlers of a media domain.** -/
structure Registry (H : Type) where
  domain : Domain
  handlers : Dictionary H

/-- **A handler found for a spec**, with the tag that matched and the parameters for the call. -/
structure Resolved (H : Type) where
  tag : String
  handler : H
  params : Params

namespace Registry

variable {H : Type}

/-- The registry without handlers. -/
def empty (domain : Domain) : Registry H := ⟨domain, .empty⟩

/-- The registry with `handler` under `tag`. -/
def register (r : Registry H) (tag : String) (handler : H) : Registry H :=
  { r with handlers := r.handlers.insert tag handler }

/-- The handler that registering under `tag` would replace. -/
def replaced (r : Registry H) (tag : String) : Option H := r.handlers.get? tag

/-- Whether a tag has a handler. -/
def contains (r : Registry H) (tag : String) : Bool := r.handlers.contains tag

/-- The tags, in increasing order. -/
def tags (r : Registry H) : List String := r.handlers.keys

/-- The registry of a list of handlers, of which the last under a tag counts. -/
def ofList (domain : Domain) (handlers : List (String × H)) : Registry H :=
  ⟨domain, Dictionary.ofList handlers⟩

/-- **The handler of a spec.** An explicit parameter with the name of the key beats the value in
the kind. -/
def resolve (r : Registry H) (s : Spec) : Option (Resolved H) :=
  match r.handlers.get? s.kind with
  | some handler => some ⟨s.kind, handler, s.params⟩
  | none =>
    -- a kind such as `q_80`: the key names the handler, and the value is its parameter
    match s.directive with
    | none => none
    | some (key, raw) =>
      (r.handlers.get? key).map fun handler =>
        ⟨key, handler, s.params.withDefault key (coerce raw)⟩

/-! ## (2) Chains -/

/-- **A chain run over a state**: one step per spec that has a handler, in order, up to the first
failure. -/
def fold {σ ε : Type} (r : Registry H) (step : Resolved H → σ → Except ε σ) :
    σ → Chain → Except ε σ
  | state, [] => .ok state
  | state, s :: rest =>
    match r.resolve s with
    -- a spec of an unknown kind is skipped
    | none => fold r step state rest
    | some found =>
      match step found state with
      | .ok next => fold r step next rest
      | .error e => .error e

/-- **The calls that a run makes**: each handler found, with the state that it was given. The last
one may have failed. -/
def calls {σ ε : Type} (r : Registry H) (step : Resolved H → σ → Except ε σ) :
    σ → Chain → List (Resolved H × σ)
  | _, [] => []
  | state, s :: rest =>
    match r.resolve s with
    | none => calls r step state rest
    | some found =>
      (found, state) ::
        match step found state with
        | .ok next => calls r step next rest
        | .error _ => []

theorem fold_append {σ ε : Type} (r : Registry H) (step : Resolved H → σ → Except ε σ)
    (state : σ) (first second : Chain) :
    r.fold step state (first ++ second) = (r.fold step state first).bind (r.fold step · second) := by
  induction first generalizing state with
  | nil => rfl
  | cons s rest ih =>
    simp only [List.cons_append, fold]
    cases r.resolve s with
    | none => exact ih state
    | some found =>
      dsimp only
      cases step found state with
      | ok next => exact ih next
      | error e => rfl

end Registry

/-! ## (3) Attribution -/

/-- **An error in the name of an operation**: one that names an operation stays as it is, any other
becomes the failure of `tag` with its wording. -/
def Error.ascribe (tag : String) : Error → Error
  | .operation op reason => .operation op reason
  | e => .operation tag e.message

theorem isOperation_ascribe (tag : String) (e : Error) : (Error.ascribe tag e).isOperation = true := by
  cases e <;> rfl

end MediaTransform
