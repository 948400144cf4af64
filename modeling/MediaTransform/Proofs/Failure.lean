import MediaTransform.Media.Params
import MediaTransform.Registry

/-! # How computations fail

* **`FailsOnly`** — a computation all of whose errors are of one sort, with a rule for each way in
  which computations are put together.
* **`Error.IsOf`** — an error in the name of an operation; **`FailsAs`** — a computation that fails
  in that name only. The readings of parameters do (`Params.failsAs_requireNumber` and those after
  it). -/

namespace MediaTransform

/-! ## (1) Errors of one sort -/

/-- **A computation whose errors are all of the sort `P`.** -/
def FailsOnly {ε α : Type} (P : ε → Prop) (x : Except ε α) : Prop := ∀ e, x = .error e → P e

namespace FailsOnly

variable {ε α β : Type} {P Q : ε → Prop} {x : Except ε α}

theorem ok (a : α) : FailsOnly P (.ok a : Except ε α) := nofun

theorem error {e : ε} (h : P e) : FailsOnly P (.error e : Except ε α) := by
  intro e' he
  cases he
  exact h

theorem bind (hx : FailsOnly P x) {f : α → Except ε β} (hf : ∀ a, FailsOnly P (f a)) :
    FailsOnly P (x.bind f) := by
  cases x with
  | ok a => exact hf a
  | error e => exact .error (hx e rfl)

theorem map (hx : FailsOnly P x) (f : α → β) : FailsOnly P (x.map f) := by
  cases x with
  | ok a => exact .ok (f a)
  | error e => exact .error (hx e rfl)

/-- Either of two computations, by a condition. -/
theorem ite {c : Prop} [Decidable c] {y : Except ε α} (hx : FailsOnly P x)
    (hy : FailsOnly P y) : FailsOnly P (if c then x else y) := by
  split
  · exact hx
  · exact hy

/-- A reading that is checked. -/
theorem checked (hx : FailsOnly P x) {bad : α → Prop} [DecidablePred bad] {e : α → ε}
    {f : α → β} (he : ∀ a, P (e a)) :
    FailsOnly P (do
      let a ← x
      if bad a then throw (e a)
      return f a) := by
  refine hx.bind fun a => ?_
  dsimp only
  split
  · exact .error (he a)
  · exact .ok (f a)

theorem imp (hx : FailsOnly P x) (h : ∀ e, P e → Q e) : FailsOnly Q x :=
  fun e he => h e (hx e he)

end FailsOnly

/-! ## (2) Errors in a name -/

/-- **An error in the name of an operation.** -/
def Error.IsOf (op : String) (e : Error) : Prop := ∃ reason, e = .operation op reason

/-- A tag is not put in the place of a name that is there. -/
theorem Error.IsOf.ascribe_eq {op : String} {e : Error} (h : e.IsOf op) (tag : String) :
    Error.ascribe tag e = e := by
  obtain ⟨reason, rfl⟩ := h
  rfl

/-- An error is in one name. -/
theorem Error.IsOf.unique {op op' : String} {e : Error} (h : e.IsOf op) (h' : e.IsOf op') :
    op = op' := by
  obtain ⟨reason, rfl⟩ := h
  obtain ⟨reason', heq⟩ := h'
  cases heq
  rfl

/-- **A computation that fails in the name of `op`**, if it fails. -/
abbrev FailsAs {α : Type} (op : String) (x : Except Error α) : Prop := FailsOnly (Error.IsOf op) x

/-- Such a computation has an error in this name if it has no result. -/
theorem FailsAs.exists_error {op : String} {α : Type} {x : Except Error α} (h : FailsAs op x)
    (hnone : ∀ a, x ≠ .ok a) : ∃ reason, x = .error (.operation op reason) := by
  cases x with
  | ok a => exact absurd rfl (hnone a)
  | error e =>
    obtain ⟨reason, rfl⟩ := h e rfl
    exact ⟨reason, rfl⟩

/-! ## (3) Parameters -/

namespace Params

variable (ps : Params) (op key : String)

theorem failsAs_requireNumber : FailsAs op (ps.requireNumber op key) := by
  unfold requireNumber
  split
  · exact .error ⟨_, rfl⟩
  · exact .ite (.ok _) (.error ⟨_, rfl⟩)
  · exact .error ⟨_, rfl⟩

theorem failsAs_dimension : FailsAs op (ps.dimension op key) := by
  unfold dimension
  refine .ite (.bind (ps.failsAs_requireNumber op key) fun x => ?_) (.ok none)
  exact .ite (.error ⟨_, rfl⟩) (.ok _)

theorem failsAs_requireDimension : FailsAs op (ps.requireDimension op key) := by
  refine .bind (ps.failsAs_dimension op key) fun side => ?_
  cases side with
  | none => exact .error ⟨_, rfl⟩
  | some n => exact .ok n

theorem failsAs_requireOffset : FailsAs op (ps.requireOffset op key) := by
  refine .bind (ps.failsAs_requireNumber op key) fun x => ?_
  exact .ite (.error ⟨_, rfl⟩) (.ok _)

end Params

end MediaTransform
