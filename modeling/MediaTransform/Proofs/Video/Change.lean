import MediaTransform.Proofs.Dictionary
import MediaTransform.Proofs.Registry
import MediaTransform.Proofs.Video.Filter

/-! # What one call changes of a command

Apart from timing, an operation does not look at the command that it extends:

* **`Video.Change`** — the changes that a call can make: nothing, a filter, a spliced asset or a
  level of quality.
* **`Video.Group`** — the operations by what they do, told by their tags; **`Group.Allows`** has the
  changes that each group makes.
* **`Video.Makes`** — a call that fails for every command or makes one change to every command;
  **`Video.Writes`** — a call that writes a filter.
* **`Video.Timed`** — a call that sets the seek and the duration and nothing else.
* **`Video.describes_operation`** — every registered operation does what its group does;
  **`exists_change_of_step`** says it of a step of planning. -/

namespace MediaTransform

namespace Video

/-! ## (1) Changes and groups -/

/-- **One change of a command** that does not depend on the command. -/
inductive Change where
  | nothing
  | filter (text : String)
  | splice (id : String)
  | level (value : Nat)
  deriving DecidableEq, Repr

/-- The command with the change made. -/
def Change.apply (c : Command) : Change → Command
  | nothing => c
  | filter text => c.withFilter text
  | splice id => c.withSplice id
  | level value => c.withOption qscaleFlag (toString value)

/-- **The operations by what they do** to a command. -/
inductive Group where
  | timing
  | filter
  | splice
  | quality
  /-- They leave the command as it is. -/
  | idle
  deriving DecidableEq, Repr

namespace Group

/-- **The group of a tag.** -/
def ofTag : String → Group
  | "so" | "eo" | "du" => timing
  | "c_fill" | "c_thumb" | "c_crop" | "c_pad" | "c_scale" | "c_fit" | "ar" | "b_blurred" => filter
  | "fl_splice" => splice
  | "q_auto" | "q" => quality
  | _ => idle

/-- **The changes that calls of a group make** with some parameters, apart from setting times. -/
inductive Allows (config : Config.Pipeline) (ps : Params) : Group → Change → Prop
  | timing : Allows config ps timing .nothing
  /-- One well-formed filter. -/
  | filter {f : Filter} (hf : f.WellFormed) : Allows config ps filter (.filter f.text)
  /-- The asset that `l` names. -/
  | splice {v : Value} (hv : ps.get? "l" = some v) (hname : withoutMark v.display ≠ "") :
      Allows config ps splice (.splice (withoutMark v.display))
  /-- The level that the parameters ask for, or the default one. -/
  | quality : Allows config ps quality (.level (qualityLevel 31 config.defaultVideoQscale ps))
  | idle : Allows config ps idle .nothing

end Group

/-- **A call makes a change**: it fails in the same way for every command, or makes the same change,
one of the allowed ones, to every command. -/
def Makes (allowed : Change → Prop) (call : Command → Except Error Command) : Prop :=
  (∃ e, ∀ c, call c = .error e) ∨ ∃ change, allowed change ∧ ∀ c, call c = .ok (change.apply c)

section Makes

variable {allowed : Change → Prop} {α : Type}

/-- A call that makes a change at once. -/
theorem makes_ok {change : Change} (h : allowed change) :
    Makes allowed fun c => .ok (change.apply c) :=
  .inr ⟨change, h, fun _ => rfl⟩

/-- A call that fails at once. -/
theorem makes_error (e : Error) : Makes allowed fun _ => .error e :=
  .inl ⟨e, fun _ => rfl⟩

/-- **A call that first reads parameters** makes a change if it does for what can be read. -/
theorem makes_bind {read : Except Error α} {call : α → Command → Except Error Command}
    (h : ∀ a, read = .ok a → Makes allowed (call a)) :
    Makes allowed fun c => read >>= fun a => call a c := by
  cases read with
  | error e => exact .inl ⟨e, fun _ => rfl⟩
  | ok a => exact h a rfl

/-- A call that makes a change makes one of any wider kind. -/
theorem Makes.imp {wider : Change → Prop} {call : Command → Except Error Command}
    (h : Makes allowed call) (hwider : ∀ change, allowed change → wider change) :
    Makes wider call :=
  h.imp_right fun ⟨change, hallowed, hchange⟩ => ⟨change, hwider change hallowed, hchange⟩

/-- **A call that succeeds once makes its change to every command.** -/
theorem Makes.of_ok {call : Command → Except Error Command} {c next : Command}
    (h : Makes allowed call) (hnext : call c = .ok next) :
    ∃ change, allowed change ∧ (∀ c, call c = .ok (change.apply c)) ∧ next = change.apply c := by
  rcases h with ⟨e, he⟩ | ⟨change, hallowed, hchange⟩
  · rw [he c] at hnext
    cases hnext
  · rw [hchange c] at hnext
    cases hnext
    exact ⟨change, hallowed, hchange, rfl⟩

end Makes

/-! ## (2) Filters -/

/-- **A call writes a filter**: a well-formed one, which leaves a side open only where this call
may. -/
def Writes (tag : String) (ps : Params) (change : Change) : Prop :=
  ∃ f : Filter, f.WellFormed ∧ f.OpenFor tag ps ∧ change = .filter f.text

variable {config : Config.Pipeline} {tag : String} {ps : Params}

/-- What is written is one of the changes of the group of filters. -/
theorem Writes.allows {change : Change} (h : Writes tag ps change) :
    Group.filter.Allows config ps change := by
  obtain ⟨f, hf, -, rfl⟩ := h
  exact .filter hf

/-- A call that adds such a filter. -/
theorem makes_filter {f : Filter} (hf : f.WellFormed) (hopen : f.OpenFor tag ps) :
    Makes (Writes tag ps) fun c => .ok (c.withFilter f.text) :=
  @makes_ok _ (.filter f.text) ⟨f, hf, hopen, rfl⟩

theorem makes_cover (op : String) (ps : Params) : Makes (Writes op ps) (cover op · ps) :=
  makes_bind fun w hw => makes_bind fun h hh =>
    makes_filter (f := .cover w h)
      ⟨Params.isSide_of_requireDimension hw, Params.isSide_of_requireDimension hh⟩ trivial

theorem makes_crop (ps : Params) : Makes (Writes "c_crop" ps) (crop · ps) :=
  makes_bind fun w hw => makes_bind fun h hh => makes_bind fun x _ => makes_bind fun y _ =>
    makes_filter (f := .crop w h x y)
      ⟨Params.isSide_of_requireDimension hw, Params.isSide_of_requireDimension hh⟩ trivial

theorem makes_pad (ps : Params) : Makes (Writes "c_pad" ps) (pad · ps) :=
  makes_bind fun w hw => makes_bind fun h hh =>
    makes_filter (f := .pad w h (Colour.ofValue .black (ps.get? "b")))
      ⟨Params.isSide_of_requireDimension hw, Params.isSide_of_requireDimension hh⟩ trivial

theorem makes_scale (ps : Params) : Makes (Writes "c_scale" ps) (scale · ps) := by
  refine makes_bind fun w hw => makes_bind fun h hh => ?_
  -- one side is enough, as the other one follows
  cases w with
  | some w =>
    cases h with
    | some h =>
      exact makes_filter (f := .fit w h)
        ⟨Params.isSide_of_dimension hw, Params.isSide_of_dimension hh⟩ trivial
    | none =>
      exact makes_filter (f := .toWidth w) (Params.isSide_of_dimension hw)
        ⟨rfl, (Params.isSome_of_dimension hh).symm⟩
  | none =>
    cases h with
    | some h =>
      exact makes_filter (f := .toHeight h) (Params.isSide_of_dimension hh)
        ⟨rfl, (Params.isSome_of_dimension hw).symm⟩
    | none => exact makes_error _

theorem makes_fit (ps : Params) : Makes (Writes "c_fit" ps) (fit · ps) :=
  makes_bind fun w hw => makes_bind fun h hh =>
    makes_filter (f := .fit w h)
      ⟨Params.isSide_of_requireDimension hw, Params.isSide_of_requireDimension hh⟩ trivial

/-- **A ratio that is read is a finite number above zero.** -/
theorem finite_pos_of_requireRatio {ratio : Number} (h : requireRatio ps = .ok ratio) :
    ratio.isFinite = true ∧ .ofNat 0 < ratio := by
  obtain ⟨x, hx, hpositive, rfl⟩ := (checked_eq_ok_iff (f := id)).1 h
  have hfinite := Params.isFinite_of_requireNumber hx
  exact ⟨hfinite, (Number.not_le_iff_lt hfinite (Number.isFinite_ofNat (by decide))).1 hpositive⟩

/-- A size of a ratio has a side that is given. -/
theorem isNone_of_aspectDimensions {w h : Option Nat} {ratio : Number}
    (hsides : aspectDimensions w h ratio = none) : w = none ∧ h = none := by
  cases w with
  | some w => cases hsides
  | none =>
    cases h with
    | some h => cases hsides
    | none => exact ⟨rfl, rfl⟩

theorem makes_reshape (ps : Params) : Makes (Writes "ar" ps) (reshape · ps) := by
  refine makes_bind fun ratio hratio => makes_bind fun w hw => makes_bind fun h hh => ?_
  cases hsides : aspectDimensions w h ratio with
  | some sides =>
    refine makes_filter (f := .toSize sides.1 sides.2)
      (isSide_of_aspectDimensions ?_ ?_ hsides) trivial
    · rintro n rfl
      exact Params.isSide_of_dimension hw
    · rintro n rfl
      exact Params.isSide_of_dimension hh
  | none =>
    obtain ⟨rfl, rfl⟩ := isNone_of_aspectDimensions hsides
    exact makes_filter (f := .toRatio ratio) (finite_pos_of_requireRatio hratio)
      ⟨rfl, (Params.isSome_of_dimension hw).symm, (Params.isSome_of_dimension hh).symm⟩

theorem makes_blur (defaultRadius : Nat) (ps : Params) :
    Makes (Writes "b_blurred" ps) (blur defaultRadius · ps) := by
  unfold blur
  by_cases hradius : ps.contains "radius" = true
  · simp only [if_pos hradius]
    exact makes_bind fun radius _ => makes_filter (f := .blur radius) trivial trivial
  · simp only [if_neg hradius]
    exact makes_bind fun radius _ => makes_filter (f := .blur radius) trivial trivial

/-! ## (3) The other changes -/

theorem makes_gravity (ps : Params) : Makes (Group.idle.Allows config ps) (gravity · ps) :=
  @makes_ok _ .nothing .idle

/-- Quality sets a level, and never fails. -/
theorem makes_quality (ps : Params) :
    Makes (Group.quality.Allows config ps) (quality config.defaultVideoQscale · ps) :=
  @makes_ok _ (.level _) .quality

/-- Splicing adds the asset that `l` names. -/
theorem makes_splice (ps : Params) : Makes (Group.splice.Allows config ps) (splice · ps) := by
  unfold splice
  cases hl : ps.get? "l" with
  | none => exact makes_error _
  | some v =>
    dsimp only
    by_cases hname : withoutMark v.display = ""
    · simp only [if_pos hname]
      exact makes_error _
    · simp only [if_neg hname]
      exact @makes_ok _ (.splice _) (.splice hl hname)

/-! ## (4) Timing -/

/-- **A call is timed**: it changes the seek and the duration of a command and nothing else. -/
def Timed (call : Command → Except Error Command) : Prop :=
  ∀ c next, call c = .ok next → next = { c with seek := next.seek, duration := next.duration }

section Timed

variable {α : Type} {call other : Command → Except Error Command}

/-- A call that leaves the command as it is. -/
theorem timed_same : Timed fun c => .ok c := by
  intro c next h
  cases h
  rfl

/-- A call that sets the seek. -/
theorem timed_seek (seconds : Command → Number) : Timed fun c => .ok (c.withSeek (seconds c)) := by
  intro c next h
  cases h
  rfl

/-- A call that sets the duration. -/
theorem timed_duration (seconds : Command → Number) :
    Timed fun c => .ok (c.withDuration (seconds c)) := by
  intro c next h
  cases h
  rfl

/-- A call that first reads parameters. -/
theorem timed_read {read : Command → Except Error α} {call : α → Command → Except Error Command}
    (h : ∀ a, Timed (call a)) : Timed fun c => read c >>= fun a => call a c := by
  intro c next hnext
  cases hread : read c with
  | error e =>
    simp only [hread] at hnext
    cases hnext
  | ok a =>
    simp only [hread] at hnext
    exact h a c next hnext

/-- A call that goes one of two ways. -/
theorem timed_ite {p : Command → Prop} [∀ c, Decidable (p c)] (hcall : Timed call)
    (hother : Timed other) : Timed fun c => if p c then call c else other c := by
  intro c next h
  by_cases hp : p c
  · simp only [if_pos hp] at h
    exact hcall c next h
  · simp only [if_neg hp] at h
    exact hother c next h

/-- Calls one after the other. -/
theorem timed_bind (hcall : Timed call) (hother : Timed other) :
    Timed fun c => call c >>= other := by
  intro c next h
  cases hc : call c with
  | error e =>
    simp only [hc] at h
    cases h
  | ok middle =>
    simp only [hc] at h
    rw [hother middle next h, hcall c middle hc]

end Timed

theorem timed_start (key : String) (ps : Params) : Timed (applyStart key · ps) := by
  unfold applyStart
  refine timed_ite (timed_ite ?_ ?_) timed_same
  · exact timed_read fun start =>
      timed_ite (timed_read fun _ => timed_seek fun _ => start) (timed_seek fun _ => start)
  · exact timed_read fun start =>
      timed_ite (timed_read fun _ => timed_seek fun _ => start) (timed_seek fun _ => start)

theorem timed_end (key : String) (ps : Params) : Timed (applyEnd key · ps) := by
  unfold applyEnd
  refine timed_ite (timed_read fun stop => timed_ite ?_ ?_) timed_same
  · exact timed_read fun _ => timed_duration fun c => stop - c.seek.getD (.ofNat 0)
  · exact timed_duration fun c => stop - c.seek.getD (.ofNat 0)

theorem timed_length (key : String) (ps : Params) : Timed (applyDuration key · ps) := by
  unfold applyDuration
  refine timed_ite (timed_read fun duration => timed_ite ?_ ?_) timed_same
  · exact timed_read fun _ => timed_duration fun _ => duration
  · exact timed_duration fun _ => duration

theorem timed_timing (key : String) (ps : Params) : Timed (timing key · ps) :=
  timed_bind (timed_start key ps) (timed_bind (timed_end key ps) (timed_length key ps))

/-! ## (5) All operations -/

variable {c next : Command}

namespace Group

variable {group : Group} {call : Command → Except Error Command}

/-- **What the calls of a group do** under a tag: set times, write a filter, or make another change
that does not depend on the command. -/
def Describes (config : Config.Pipeline) (tag : String) (ps : Params)
    (call : Command → Except Error Command) : Group → Prop
  | timing => Timed call
  | filter => Makes (Writes tag ps) call
  | group => Makes (group.Allows config ps) call

/-- Outside timing, calls make a change. -/
theorem Describes.makes (h : group.Describes config tag ps call) (htiming : group ≠ timing) :
    Makes (group.Allows config ps) call := by
  cases group with
  | timing => exact absurd rfl htiming
  | filter => exact Makes.imp h fun _ => Writes.allows
  | _ => exact h

/-- **Where a call succeeds, it makes an allowed change**, besides setting times. -/
theorem Describes.exists_change (h : group.Describes config tag ps call)
    (hnext : call c = .ok next) :
    ∃ change, group.Allows config ps change ∧
      next = { change.apply c with seek := next.seek, duration := next.duration } := by
  by_cases htiming : group = timing
  · subst htiming
    exact ⟨.nothing, .timing, h c next hnext⟩
  · obtain ⟨change, hallowed, -, rfl⟩ := Makes.of_ok (h.makes htiming) hnext
    exact ⟨change, hallowed, rfl⟩

end Group

/-- **Every registered operation is one of its group.** -/
theorem describes_operation {op : Operation} (h : (tag, op) ∈ operations config) (ps : Params) :
    (Group.ofTag tag).Describes config tag ps (op · ps) := by
  simp only [operations, List.mem_cons, Prod.mk.injEq, List.not_mem_nil, or_false] at h
  rcases h with ⟨rfl, rfl⟩ | ⟨rfl, rfl⟩ | ⟨rfl, rfl⟩ | ⟨rfl, rfl⟩ | ⟨rfl, rfl⟩ | ⟨rfl, rfl⟩ |
    ⟨rfl, rfl⟩ | ⟨rfl, rfl⟩ | ⟨rfl, rfl⟩ | ⟨rfl, rfl⟩ | ⟨rfl, rfl⟩ | ⟨rfl, rfl⟩ | ⟨rfl, rfl⟩ |
    ⟨rfl, rfl⟩ | ⟨rfl, rfl⟩
  · exact makes_cover _ ps
  · exact makes_cover _ ps
  · exact makes_crop ps
  · exact makes_pad ps
  · exact makes_scale ps
  · exact makes_fit ps
  · exact makes_reshape ps
  · exact makes_gravity ps
  · exact makes_splice ps
  · exact makes_blur _ ps
  · exact makes_quality ps
  · exact makes_quality ps
  · exact timed_timing _ ps
  · exact timed_timing _ ps
  · exact timed_timing _ ps

/-- The tags do not depend on the configuration. -/
theorem map_fst_operations (config : Config.Pipeline) :
    (operations config).map (·.1) = (operations {}).map (·.1) := rfl

/-- **An operation is found under its tag**, which no other operation has. -/
theorem get?_of_mem_operations {tag : String} {op : Operation}
    (h : (tag, op) ∈ operations config) : (registry config).handlers.get? tag = some op := by
  have hdistinct : ((operations config).map (·.1)).Nodup := by
    rw [map_fst_operations]
    decide
  exact Dictionary.get?_ofList_of_mem hdistinct h

/-! ## (6) Steps of a plan -/

variable {s : Spec} {found : Resolved Operation}

/-- The group of a spec: that of the tag under which its operation is found. -/
def groupOf (config : Config.Pipeline) (s : Spec) : Group :=
  match (registry config).resolve s with
  | some found => .ofTag found.tag
  | none => .idle

/-- The specs of all other groups have an operation. -/
theorem exists_resolve_of_groupOf (h : groupOf config s ≠ .idle) :
    ∃ found, (registry config).resolve s = some found := by
  cases hfound : (registry config).resolve s with
  | some found => exact ⟨found, rfl⟩
  | none =>
    rw [groupOf, hfound] at h
    exact absurd rfl h

/-- The operation of a spec does what the group of the spec does. -/
theorem describes_of_resolve (h : (registry config).resolve s = some found) :
    (groupOf config s).Describes config found.tag found.params (found.handler · found.params) := by
  have hmem : (found.tag, found.handler) ∈ operations config :=
    Dictionary.mem_of_mem_ofList (Registry.resolve_cases h).1
  rw [groupOf, h]
  exact describes_operation hmem found.params

/-- A step of planning succeeds exactly when its call does. -/
theorem step_eq_ok_iff :
    step found c = .ok next ↔ found.handler c found.params = .ok next := by
  unfold step
  cases found.handler c found.params with
  | ok c' => rfl
  | error e => exact ⟨nofun, nofun⟩

/-- **What a step of a plan can do**: make a change that the group of its spec allows, besides
setting times. -/
theorem exists_change_of_step (hfound : (registry config).resolve s = some found)
    (hnext : step found c = .ok next) :
    ∃ change, (groupOf config s).Allows config found.params change ∧
      next = { change.apply c with seek := next.seek, duration := next.duration } :=
  (describes_of_resolve hfound).exists_change (step_eq_ok_iff.1 hnext)

end Video

end MediaTransform
