import MediaTransform.Proofs.Video.Plan
import MediaTransform.Proofs.Video.Timing

/-! # Groups of video operations do not touch each other

Each group of operations has a part of the command to itself:

* **`Video.Group.part`**, **`Video.Group.put`** — the fields that a group works on, and a command
  with these fields replaced; a command is made of its parts (`ext_part`).
* **`Video.Group.WorksOn`** — a call that sees and changes its group's part only; so do all
  operations (`worksOn_of_resolve`).
* **`Video.planFrom_eq_ok_iff`** — a chain plans a command exactly where, group by group, its specs
  plan the part.
* **`Video.plan_of_groups_eq`** — so only the order within each group counts. -/

namespace MediaTransform

namespace Video

/-! ## (1) Parts of a command -/

namespace Group

/-- **The fields of a command that a group works on**, all others left empty. -/
def part : Group → Command → Command
  | timing, c => { seek := c.seek, duration := c.duration }
  | filter, c => { filters := c.filters }
  | splice, c => { splices := c.splices }
  | quality, c => { options := c.options }
  | idle, _ => {}

/-- **A command with the fields of a group replaced** by those of another one. -/
def put (group : Group) (c new : Command) : Command :=
  match group with
  | timing => { c with seek := new.seek, duration := new.duration }
  | filter => { c with filters := new.filters }
  | splice => { c with splices := new.splices }
  | quality => { c with options := new.options }
  | idle => c

variable {group other : Group} {c new : Command}

@[simp] theorem part_part (group : Group) (c : Command) :
    group.part (group.part c) = group.part c := by
  cases group <;> rfl

@[simp] theorem part_put (group : Group) (c new : Command) :
    group.part (group.put c new) = group.part new := by
  cases group <;> rfl

/-- The other groups do not see what is replaced. -/
theorem part_put_of_ne (h : other ≠ group) (c new : Command) :
    other.part (group.put c new) = other.part c := by
  cases group <;> cases other <;> simp_all [part, put]

@[simp] theorem put_part (group : Group) (c new : Command) :
    group.put (group.part c) new = group.part new := by
  cases group <;> rfl

@[simp] theorem put_put (group : Group) (c middle new : Command) :
    group.put (group.put c middle) new = group.put c new := by
  cases group <;> rfl

/-- **A command is made of its parts.** -/
theorem ext_part {c d : Command} (h : ∀ group : Group, group.part c = group.part d) : c = d := by
  have htiming := h timing
  have hfilter := h filter
  have hsplice := h splice
  have hquality := h quality
  simp only [part, Command.mk.injEq, and_true, true_and] at htiming hfilter hsplice hquality
  cases c
  cases d
  simp_all

/-! ## (2) Calls that keep to a part -/

/-- **A call works on the part of a group**: what it does to a command is what it does to that part
alone. -/
def WorksOn (group : Group) (call : Command → Except Error Command) : Prop :=
  ∀ c, call c = (call (group.part c)).map (group.put c)

section WorksOn

variable {call first second : Command → Except Error Command}

/-- What such a call makes of a part is a part again. -/
theorem WorksOn.eq_part (h : group.WorksOn call) (hnew : call (group.part c) = .ok new) :
    new = group.part new := by
  have hpart := h (group.part c)
  rw [part_part, hnew, Except.map, put_part] at hpart
  exact Except.ok.inj hpart

/-- **A call that works on a part succeeds exactly where it does on the part**, and leaves all other
parts as they are. -/
theorem WorksOn.ok_iff (h : group.WorksOn call) {next : Command} :
    call c = .ok next ↔
      call (group.part c) = .ok (group.part next) ∧
        ∀ other ≠ group, other.part next = other.part c := by
  rw [h c]
  constructor
  · intro hnext
    cases hnew : call (group.part c) with
    | error e =>
      rw [hnew] at hnext
      cases hnext
    | ok new =>
      rw [hnew] at hnext
      cases hnext
      rw [part_put, ← h.eq_part hnew]
      exact ⟨rfl, fun other hother => part_put_of_ne hother c new⟩
  · rintro ⟨hpart, hothers⟩
    rw [hpart]
    -- the commands agree part by part: on the group by `hpart`, on all others by `hothers`
    refine congrArg Except.ok (ext_part fun other => ?_)
    by_cases hother : other = group
    · rw [hother, part_put, part_part]
    · rw [part_put_of_ne hother, hothers other hother]

/-- Calls one after the other. -/
theorem WorksOn.bind (hfirst : group.WorksOn first) (hsecond : group.WorksOn second) :
    group.WorksOn fun c => first c >>= second := by
  intro c
  show (first c).bind second = ((first (group.part c)).bind second).map (group.put c)
  rw [hfirst c]
  cases hmiddle : first (group.part c) with
  | error e => rfl
  | ok middle =>
    show second (group.put c middle) = (second middle).map (group.put c)
    rw [hsecond (group.put c middle), part_put, ← hfirst.eq_part hmiddle]
    cases second middle with
    | error e => rfl
    | ok new => exact congrArg Except.ok (put_put group c middle new)

end WorksOn

/-! ## (3) All operations keep to the part of their group -/

/-- Changes that a group allows are made to its part. -/
theorem Allows.apply_eq {config : Config.Pipeline} {ps : Params} {change : Change}
    (h : group.Allows config ps change) (c : Command) :
    change.apply c = group.put c (change.apply (group.part c)) := by
  cases h <;> rfl

theorem worksOn_of_makes {config : Config.Pipeline} {ps : Params}
    {call : Command → Except Error Command} (h : Makes (group.Allows config ps) call) :
    group.WorksOn call := by
  intro c
  rcases h with ⟨e, he⟩ | ⟨change, hallowed, hchange⟩
  · rw [he, he]
    rfl
  · rw [hchange, hchange, hallowed.apply_eq c]
    rfl

end Group

/-- The start is set without a look at the command. -/
theorem worksOn_start (key : String) (ps : Params) :
    Group.timing.WorksOn (applyStart key · ps) := by
  intro c
  dsimp only
  rw [applyStart_eq, applyStart_eq]
  cases startSet key ps <;> rfl

/-- The end is set with a look at the start, which is of the same part. -/
theorem worksOn_end (key : String) (ps : Params) : Group.timing.WorksOn (applyEnd key · ps) := by
  intro c
  have hseek : (Group.timing.part c).seek = c.seek := rfl
  dsimp only
  rw [applyEnd_eq, applyEnd_eq, hseek]
  cases endSet key ps (c.seek.getD (.ofNat 0)) <;> rfl

theorem worksOn_length (key : String) (ps : Params) :
    Group.timing.WorksOn (applyDuration key · ps) := by
  intro c
  dsimp only
  rw [applyDuration_eq, applyDuration_eq]
  cases lengthSet key ps <;> rfl

theorem worksOn_timing (key : String) (ps : Params) : Group.timing.WorksOn (timing key · ps) :=
  (worksOn_start key ps).bind ((worksOn_end key ps).bind (worksOn_length key ps))

variable {config : Config.Pipeline} {s : Spec} {found : Resolved Operation} {c command : Command}
  {chain : Chain}

/-- **The operation of a spec works on the part of the group of the spec.** -/
theorem worksOn_of_resolve (h : (registry config).resolve s = some found) :
    (groupOf config s).WorksOn (found.handler · found.params) := by
  by_cases htiming : groupOf config s = .timing
  · obtain ⟨key, hkey⟩ := exists_key_of_resolve h htiming
    rw [htiming, hkey]
    exact worksOn_timing key found.params
  · exact Group.worksOn_of_makes ((describes_of_resolve h).makes htiming)

/-- And so does a step of planning, which only words errors anew. -/
theorem worksOn_step (h : (registry config).resolve s = some found) :
    (groupOf config s).WorksOn (step found) := by
  intro c
  have hcall : found.handler c found.params
      = (found.handler ((groupOf config s).part c) found.params).map ((groupOf config s).put c) :=
    worksOn_of_resolve h c
  unfold step
  rw [hcall]
  cases found.handler ((groupOf config s).part c) found.params <;> rfl

/-! ## (4) Plans, group by group -/

/-- A spec without an operation does nothing to the plan of any group. -/
theorem planFrom_ofGroup_of_none (h : (registry config).resolve s = none) (group : Group)
    (rest : Chain) :
    planFrom (registry config) c (ofGroup config group (s :: rest))
      = planFrom (registry config) c (ofGroup config group rest) := by
  by_cases hgroup : groupOf config s = group
  · rw [ofGroup_cons_of_eq hgroup, planFrom, Registry.fold_cons_of_none h, planFrom]
  · rw [ofGroup_cons_of_ne hgroup]

/-- **A chain plans a command exactly where its groups plan the parts of the command**, each from
its part alone. -/
theorem planFrom_eq_ok_iff :
    planFrom (registry config) c chain = .ok command ↔
      ∀ group : Group, planFrom (registry config) (group.part c) (ofGroup config group chain)
        = .ok (group.part command) := by
  -- a spec works on the part of its own group, and is not among the specs of the others
  induction chain generalizing c with
  | nil =>
    constructor
    · intro h group
      cases h
      rfl
    · intro h
      exact congrArg Except.ok (Group.ext_part fun group => Except.ok.inj (h group))
  | cons s rest ih =>
    cases hfound : (registry config).resolve s with
    | none =>
      simp only [planFrom_ofGroup_of_none hfound]
      rw [planFrom, Registry.fold_cons_of_none hfound]
      exact ih
    | some found =>
      have hworks := worksOn_step hfound
      have hcons (d : Command) (specs : Chain) :
          planFrom (registry config) d (s :: specs)
            = (step found d).bind (planFrom (registry config) · specs) :=
        Registry.fold_cons_of_some hfound d specs
      rw [hcons]
      constructor
      · intro h group
        obtain ⟨next, hnext, hrest⟩ := bind_eq_ok_iff.1 h
        obtain ⟨hpart, hothers⟩ := hworks.ok_iff.1 hnext
        by_cases hgroup : groupOf config s = group
        · subst hgroup
          rw [ofGroup_cons_of_eq rfl, hcons, hpart]
          exact ih.1 hrest _
        · rw [ofGroup_cons_of_ne hgroup, ← hothers group (Ne.symm hgroup)]
          exact ih.1 hrest group
      · intro h
        -- the group of the spec tells the next command, and the other groups see no difference
        have hown := h (groupOf config s)
        rw [ofGroup_cons_of_eq rfl, hcons] at hown
        obtain ⟨new, hnew, hrest⟩ := bind_eq_ok_iff.1 hown
        have hnext : step found c = .ok ((groupOf config s).put c new) := by
          rw [hworks c, hnew]
          rfl
        refine bind_eq_ok_iff.2 ⟨_, hnext, ih.2 fun group => ?_⟩
        by_cases hgroup : groupOf config s = group
        · subst hgroup
          rw [Group.part_put, ← hworks.eq_part hnew]
          exact hrest
        · rw [Group.part_put_of_ne (Ne.symm hgroup), ← ofGroup_cons_of_ne hgroup]
          exact h group

/-- The operation of an idle tag leaves the command as it is. -/
theorem eq_gravity_of_idle {tag : String} {op : Operation} (h : (tag, op) ∈ operations config)
    (htag : Group.ofTag tag = .idle) : op = gravity := by
  have hall : ∀ p ∈ operations config, Group.ofTag p.1 = .idle → p.2 = gravity := by
    simp [operations, Group.ofTag]
  exact hall _ h htag

/-- **Idle specs are planned**, and plan nothing. -/
theorem planFrom_idle (c : Command) (chain : Chain) :
    planFrom (registry config) c (ofGroup config .idle chain) = .ok c := by
  induction chain with
  | nil => rfl
  | cons s rest ih =>
    by_cases hidle : groupOf config s = .idle
    · cases hfound : (registry config).resolve s with
      | none => rw [planFrom_ofGroup_of_none hfound, ih]
      | some found =>
        have htag : Group.ofTag found.tag = .idle := by
          rw [← hidle, groupOf, hfound]
        have hgravity :=
          eq_gravity_of_idle (Dictionary.mem_of_mem_ofList (Registry.resolve_cases hfound).1) htag
        have hstep : step found c = .ok c := step_eq_ok_iff.2 (by rw [hgravity]; rfl)
        rw [ofGroup_cons_of_eq hidle, planFrom, Registry.fold_cons_of_some hfound, hstep]
        exact ih
    · rw [ofGroup_cons_of_ne hidle, ih]

/-- A chain has the plan of any other one with the same specs in each group that is not idle. -/
theorem plan_of_groups {first second : Chain}
    (h : ∀ group ≠ Group.idle, ofGroup config group first = ofGroup config group second)
    (hplan : plan (registry config) first = .ok command) :
    plan (registry config) second = .ok command := by
  refine planFrom_eq_ok_iff.2 fun group => ?_
  have hgroup := planFrom_eq_ok_iff.1 hplan group
  by_cases hidle : group = .idle
  · -- idle specs may differ, but plan nothing in either chain
    subst hidle
    exact planFrom_idle {} second
  · rwa [← h group hidle]

/-! ## (5) Interleavings -/

/-- **Only the order within each group counts.** Two chains that have the same specs of timing, the
same filters, the same splices and the same levels of quality, each in the same order, are both
planned or both fail. Where they are planned, they have the same command and the same arguments. -/
theorem plan_of_groups_eq (config : Config.Pipeline) (first second : Chain)
    (h : ∀ group ≠ Group.idle, ofGroup config group first = ofGroup config group second) :
    ((∃ command, plan (registry config) first = .ok command) ↔
      ∃ command, plan (registry config) second = .ok command) ∧
    ∀ one other, plan (registry config) first = .ok one →
      plan (registry config) second = .ok other →
        one = other ∧ ∀ inputs container,
          one.arguments? inputs container = other.arguments? inputs container := by
  have hback : ∀ group ≠ Group.idle, ofGroup config group second = ofGroup config group first :=
    fun group hidle => (h group hidle).symm
  refine ⟨⟨fun ⟨command, hplan⟩ => ⟨command, plan_of_groups h hplan⟩,
    fun ⟨command, hplan⟩ => ⟨command, plan_of_groups hback hplan⟩⟩, fun one other hone hother => ?_⟩
  obtain rfl : one = other := Except.ok.inj ((plan_of_groups h hone).symm.trans hother)
  exact ⟨rfl, fun inputs container => rfl⟩

/-- A chain with specs of all groups, one after the other. -/
def mixedChain : Chain :=
  [⟨"so_2", .empty⟩, ⟨"c_fit", .ofList [("w", .number (.ofNat 30)), ("h", .number (.ofNat 20))]⟩,
    ⟨"q_80", .empty⟩, ⟨"eo_12", .empty⟩, ⟨"fl_splice", .ofList [("l", .text "b.mp4")]⟩,
    ⟨"g_auto", .empty⟩, ⟨"ar_1.5", .empty⟩, ⟨"q_4", .empty⟩]

/-- Its specs group by group, with one that has no operation in the place of the idle one. -/
def sortedChain : Chain :=
  [⟨"q_80", .empty⟩, ⟨"q_4", .empty⟩, ⟨"fl_splice", .ofList [("l", .text "b.mp4")]⟩,
    ⟨"c_fit", .ofList [("w", .number (.ofNat 30)), ("h", .number (.ofNat 20))]⟩,
    ⟨"ar_1.5", .empty⟩, ⟨"zz_1", .empty⟩, ⟨"so_2", .empty⟩, ⟨"eo_12", .empty⟩]

/-- What both of them plan. -/
def mixedCommand : Command where
  seek := some (.ofNat 2)
  duration := some (.ofNat 10)
  filters :=
    ["scale=30:20:force_original_aspect_ratio=decrease", "scale=trunc(ih*1.5/2)*2:ih,setsar=1"]
  splices := ["b.mp4"]
  options := [("-qscale:v", "4")]

/-- Of two chains that differ in the order of their groups only, the plan of one tells that of the
other. -/
theorem plan_of_groups_eq_sample :
    (∀ group ≠ Group.idle, ofGroup {} group mixedChain = ofGroup {} group sortedChain) ∧
    mixedChain ≠ sortedChain ∧ plan (registry {}) mixedChain = .ok mixedCommand ∧
    (∃ command, plan (registry {}) sortedChain = .ok command) ∧
    ∀ command, plan (registry {}) sortedChain = .ok command → mixedCommand = command := by
  have hgroups : ∀ group ≠ Group.idle,
      ofGroup {} group mixedChain = ofGroup {} group sortedChain := by
    intro group hidle
    cases group with
    | idle => exact absurd rfl hidle
    | _ => decide +kernel
  have hplan : plan (registry {}) mixedChain = .ok mixedCommand := by decide +kernel
  obtain ⟨hsome, hsame⟩ := plan_of_groups_eq {} mixedChain sortedChain hgroups
  exact ⟨hgroups, by decide +kernel, hplan, hsome.1 ⟨_, hplan⟩,
    fun command hcommand => (hsame _ _ hplan hcommand).1⟩

end Video

end MediaTransform
