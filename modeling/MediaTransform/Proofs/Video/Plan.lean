import MediaTransform.Proofs.Video.Change

/-! # Plans of video chains

* **`Command.Planned`** — what the filters and the options of every plan are.
* **`Video.plan_harmless`** — so the text of a request is in the arguments of a plan as harmless
  filters at most.
* **`Command.Extends`** — a command with the filters and the splices of another one, and maybe more.
* **`Video.Contributes`** — a spec that makes one change, the same one to every command.
* **`Video.Group.Fills`** — the filters, and the splices, are those of one group of specs;
  `Group.Fills.forall₂` counts them off against these specs.
* **`Video.plan_appendOnly`** — plans are folds that only append. -/

namespace MediaTransform

/-! ## (1) What plans hold -/

namespace Command

open Video (Filter qscaleFlag)

/-- **A command as plans leave it**: its filters are well-formed ones, and it has at most one
option, which is a level of quality. -/
structure Planned (c : Command) : Prop where
  filters : ∀ text ∈ c.filters, ∃ f : Filter, f.WellFormed ∧ text = f.text
  options : c.options = [] ∨
    ∃ level, 1 ≤ level ∧ level ≤ 31 ∧ c.options = [(qscaleFlag, toString level)]

theorem planned_empty : Planned {} where
  filters := by simp
  options := .inl rfl

/-- **A command extends another one** whose filters and splices it has before all others. -/
structure Extends (next c : Command) : Prop where
  filters : c.filters <+: next.filters
  splices : c.splices <+: next.splices

/-- **The arguments depend on the spliced assets through their number only.** -/
theorem arguments?_splices {c : Command} {names : List String}
    (h : names.length = c.splices.length) (inputs : List String) (container : Container) :
    { c with splices := names }.arguments? inputs container = c.arguments? inputs container := by
  have hcount : inputCount { c with splices := names } = c.inputCount :=
    congrArg (1 + ·) h
  have hempty : names.isEmpty = c.splices.isEmpty := by
    rw [Bool.eq_iff_iff, List.isEmpty_iff_length_eq_zero, List.isEmpty_iff_length_eq_zero, h]
  have hgraph : filterGraph { c with splices := names } = c.filterGraph := by
    simp only [filterGraph, hcount]
  have hfilters : filterArguments { c with splices := names } = c.filterArguments := by
    simp only [filterArguments, hempty, hgraph, videoLabel]
  simp only [arguments?, hcount, hfilters, inputArguments, outputArguments]

end Command

namespace Video

variable {config : Config.Pipeline} {ps : Params} {group : Group} {change : Change} {s : Spec}
  {found : Resolved Operation} {c next command : Command} {chain : Chain}

/-- Levels of quality are held between one and the limit. -/
theorem qualityLevel_bounds {limit : Nat} (default : Nat) (ps : Params) (h : 1 ≤ limit) :
    1 ≤ qualityLevel limit default ps ∧ qualityLevel limit default ps ≤ limit := by
  unfold qualityLevel clampedLevel
  cases qualityNumber? ps with
  | some x =>
    have hround := x.round.toNatUpTo_le limit
    dsimp only
    omega
  | none =>
    dsimp only
    omega

/-- A change that a group allows leaves a planned command planned. -/
theorem Group.Allows.planned (h : group.Allows config ps change) (hc : c.Planned) :
    (change.apply c).Planned := by
  cases h with
  | timing | splice | idle => exact ⟨hc.filters, hc.options⟩
  | @filter f hf =>
    refine ⟨fun text htext => ?_, hc.options⟩
    rcases List.mem_append.1 htext with hold | hnew
    · exact hc.filters text hold
    · exact ⟨f, hf, List.mem_singleton.1 hnew⟩
  | quality =>
    obtain ⟨hone, hlimit⟩ := @qualityLevel_bounds 31 config.defaultVideoQscale ps (by decide)
    refine ⟨hc.filters, .inr ⟨_, hone, hlimit, ?_⟩⟩
    -- the flag is set for the first time, or again in its place
    rcases hc.options with hnone | ⟨level, -, -, hsome⟩
    · simp only [Change.apply, Command.withOption, hnone, Command.setOption]
    · simp only [Change.apply, Command.withOption, hsome, Command.setOption, if_true]

/-- **Every plan is planned.** -/
theorem planned_of_plan (h : plan (registry config) chain = .ok command) : command.Planned := by
  refine Registry.fold_induction Command.Planned (fun s _ found hfound c next hc hnext => ?_)
    Command.planned_empty h
  obtain ⟨change, hallowed, hchange⟩ := exists_change_of_step hfound hnext
  have hplanned := hallowed.planned hc
  rw [hchange]
  exact ⟨hplanned.filters, hplanned.options⟩

/-- The characters that separate or quote parts of a graph, and the white ones. -/
def graphMarks : List Char := ['[', ']', ';', '\'', '"', '\\', ' ', '\t', '\n', '\r']

/-- **No text of a request is read as a part of a graph.** In the command of a plan, every filter
consists of ASCII letters, ASCII digits and a few marks, so that nothing in it separates or quotes
anything; every option is a level of quality; and of the spliced assets the arguments tell how many
there are and no more. -/
theorem plan_harmless (h : plan (registry config) chain = .ok command) :
    (∀ text ∈ command.filters, Harmless text ∧ ∀ x ∈ graphMarks, x ∉ text.toList) ∧
    (∀ o ∈ command.options, o.1 = "-qscale:v" ∧ ∃ n : Nat, o.2 = toString n) ∧
    ∀ names : List String, names.length = command.splices.length → ∀ inputs container,
      { command with splices := names }.arguments? inputs container
        = command.arguments? inputs container := by
  have hplanned := planned_of_plan h
  have hmarks : graphMarks.all (¬ IsFilterChar ·) = true := by decide
  refine ⟨fun text htext => ?_, fun o ho => ?_, fun names hnames => ?_⟩
  · obtain ⟨f, hf, rfl⟩ := hplanned.filters text htext
    have hharmless := Filter.harmless_text hf
    refine ⟨hharmless, fun x hx hmem => ?_⟩
    exact of_decide_eq_true (List.all_eq_true.1 hmarks x hx) (hharmless x hmem)
  · rcases hplanned.options with hnone | ⟨level, -, -, hsome⟩
    · rw [hnone] at ho
      cases ho
    · rw [hsome] at ho
      rw [List.mem_singleton.1 ho]
      exact ⟨rfl, level, rfl⟩
  · exact Command.arguments?_splices hnames

/-- A video chain with a colour that is none, a spliced asset, two levels of quality and a spec that
no operation is found for. -/
def sampleChain : Chain :=
  [⟨"c_pad", .ofList [("w", .number (.ofNat 300)), ("h", .number (.ofNat 200)),
      ("b", .text "red[0:v];drawtext")]⟩,
    ⟨"q_80", .empty⟩, ⟨"fl_splice", .ofList [("l", .text "video:a];b.mp4")]⟩, ⟨"zz_1", .empty⟩,
    ⟨"q_4", .empty⟩, ⟨"ar_1.5", .empty⟩]

/-- The command of the chain. -/
def sampleCommand : Command where
  filters :=
    ["scale=300:200:force_original_aspect_ratio=decrease,pad=300:200:(ow-iw)/2:(oh-ih)/2" ++
        ":color=0x000000ff",
      "scale=trunc(ih*1.5/2)*2:ih,setsar=1"]
  splices := ["a];b.mp4"]
  options := [("-qscale:v", "4")]

/-- A colour and an asset that try to go on with the graph do not get into it. -/
theorem plan_harmless_sample :
    plan (registry {}) sampleChain = .ok sampleCommand ∧
    (∀ text ∈ sampleCommand.filters, Harmless text ∧ ∀ x ∈ graphMarks, x ∉ text.toList) ∧
    { sampleCommand with splices := ["b.mp4"] }.arguments? ["in", "b"] .fragmentedMp4
      = sampleCommand.arguments? ["in", "b"] .fragmentedMp4 := by
  have hplan : plan (registry {}) sampleChain = .ok sampleCommand := by decide +kernel
  obtain ⟨hfilters, -, harguments⟩ := plan_harmless hplan
  exact ⟨hplan, hfilters, harguments ["b.mp4"] rfl _ _⟩

/-! ## (2) Plans only append -/

/-- A change only adds. -/
theorem Change.extends_apply (change : Change) (c : Command) : (change.apply c).Extends c := by
  cases change with
  | nothing | level => exact ⟨List.prefix_refl _, List.prefix_refl _⟩
  | filter => exact ⟨List.prefix_append _ _, List.prefix_refl _⟩
  | splice => exact ⟨List.prefix_refl _, List.prefix_append _ _⟩

/-- **Going on with a plan only adds to it.** -/
theorem extends_of_planFrom (h : planFrom (registry config) c chain = .ok command) :
    command.Extends c := by
  refine Registry.fold_induction (·.Extends c) (fun s _ found hfound c' next hc' hnext => ?_)
    ⟨List.prefix_refl _, List.prefix_refl _⟩ h
  obtain ⟨change, -, hchange⟩ := exists_change_of_step hfound hnext
  obtain ⟨hfilters, hsplices⟩ := change.extends_apply c'
  rw [hchange]
  exact ⟨hc'.filters.trans hfilters, hc'.splices.trans hsplices⟩

theorem plan_append (r : Registry Operation) (first second : Chain) :
    plan r (first ++ second) = (plan r first).bind (planFrom r · second) :=
  Registry.fold_append r step {} first second

theorem plan_known (r : Registry Operation) (chain : Chain) :
    plan r (r.known chain) = plan r chain := by
  rw [plan, plan, planFrom, planFrom, Registry.fold_known]

/-! ## (3) Filters and splices are counted off against their specs -/

/-- **The specs of a group**, in the order of the chain. -/
def ofGroup (config : Config.Pipeline) (group : Group) (chain : Chain) : Chain :=
  chain.filter (groupOf config · = group)

theorem ofGroup_cons_of_eq (h : groupOf config s = group) (rest : Chain) :
    ofGroup config group (s :: rest) = s :: ofGroup config group rest :=
  List.filter_cons_of_pos (by simpa using h)

theorem ofGroup_cons_of_ne (h : groupOf config s ≠ group) (rest : Chain) :
    ofGroup config group (s :: rest) = ofGroup config group rest :=
  List.filter_cons_of_neg (by simpa using h)

/-- **A spec contributes a change**: it makes this change to every command. -/
def Contributes (config : Config.Pipeline) (s : Spec) (change : Change) : Prop :=
  ∀ c : Command, planFrom (registry config) c [s] = .ok (change.apply c)

/-- A step of a group that does not look at the command shows what the spec contributes. -/
theorem exists_contributes_of_step (hfound : (registry config).resolve s = some found)
    (htiming : groupOf config s ≠ .timing) (hnext : step found c = .ok next) :
    ∃ change, (groupOf config s).Allows config found.params change ∧
      Contributes config s change ∧ next = change.apply c := by
  obtain ⟨change, hallowed, hchange, happly⟩ :=
    Makes.of_ok ((describes_of_resolve hfound).makes htiming) (step_eq_ok_iff.1 hnext)
  refine ⟨change, hallowed, fun c' => ?_, happly⟩
  rw [planFrom, Registry.fold_cons_of_some hfound, step_eq_ok_iff.2 (hchange c')]
  rfl

/-- **A group fills a list of the commands**: each of its changes puts one text at the end of the
list, and all other changes leave the list as it is. -/
structure Group.Fills (group : Group) (wrap : String → Change) (list : Command → List String) :
    Prop where
  makes : group ≠ .timing ∧ group ≠ .idle
  wraps {config : Config.Pipeline} {ps : Params} {change : Change} :
    group.Allows config ps change → ∃ text, change = wrap text
  appends (text : String) (c : Command) : list ((wrap text).apply c) = list c ++ [text]
  keeps {config : Config.Pipeline} {ps : Params} {other : Group} {change : Change} :
    other ≠ group → other.Allows config ps change → ∀ c, list (change.apply c) = list c
  untimed (c : Command) (seek duration : Option Number) :
    list { c with seek := seek, duration := duration } = list c

theorem fills_filters : Group.filter.Fills .filter Command.filters where
  makes := by decide
  wraps h := by
    cases h
    exact ⟨_, rfl⟩
  appends _ _ := rfl
  keeps hne h c := by
    cases h with
    | filter => exact absurd rfl hne
    | _ => rfl
  untimed _ _ _ := rfl

theorem fills_splices : Group.splice.Fills .splice Command.splices where
  makes := by decide
  wraps h := by
    cases h
    exact ⟨_, rfl⟩
  appends _ _ := rfl
  keeps hne h c := by
    cases h with
    | splice => exact absurd rfl hne
    | _ => rfl
  untimed _ _ _ := rfl

/-- **What a chain adds to a list is what the specs of its group contribute**, one text for each, in
order. -/
theorem Group.Fills.exists_texts {wrap : String → Change} {list : Command → List String}
    (hfills : group.Fills wrap list) (h : planFrom (registry config) c chain = .ok command) :
    ∃ texts, List.Forall₂ (fun s text => Contributes config s (wrap text))
        (ofGroup config group chain) texts ∧
      list command = list c ++ texts := by
  unfold planFrom at h
  induction chain generalizing c with
  | nil =>
    cases h
    exact ⟨[], .nil, (List.append_nil _).symm⟩
  | cons s rest ih =>
    by_cases hgroup : groupOf config s = group
    · obtain ⟨htiming, hidle⟩ := hfills.makes
      obtain ⟨found, hfound⟩ := exists_resolve_of_groupOf (hgroup ▸ hidle)
      rw [Registry.fold_cons_of_some hfound] at h
      obtain ⟨next, hnext, hrest⟩ := bind_eq_ok_iff.1 h
      obtain ⟨change, hallowed, hcontributes, rfl⟩ :=
        exists_contributes_of_step hfound (hgroup ▸ htiming) hnext
      rw [hgroup] at hallowed
      obtain ⟨text, rfl⟩ := hfills.wraps hallowed
      obtain ⟨texts, htexts, hlist⟩ := ih hrest
      refine ⟨text :: texts, ?_, ?_⟩
      · rw [ofGroup_cons_of_eq hgroup]
        exact .cons hcontributes htexts
      · rw [hlist, hfills.appends, List.append_assoc, List.singleton_append]
    · rw [ofGroup_cons_of_ne hgroup]
      cases hfound : (registry config).resolve s with
      | none =>
        rw [Registry.fold_cons_of_none hfound] at h
        exact ih h
      | some found =>
        rw [Registry.fold_cons_of_some hfound] at h
        obtain ⟨next, hnext, hrest⟩ := bind_eq_ok_iff.1 h
        obtain ⟨change, hallowed, hchange⟩ := exists_change_of_step hfound hnext
        have hsame : list next = list c := by
          rw [hchange, hfills.untimed, hfills.keeps hgroup hallowed]
        rw [← hsame]
        exact ih hrest

/-- In a plan, the list is what the specs of the group contribute. -/
theorem Group.Fills.forall₂ {wrap : String → Change} {list : Command → List String}
    (hfills : group.Fills wrap list) (hempty : list {} = [])
    (h : plan (registry config) chain = .ok command) :
    List.Forall₂ (fun s text => Contributes config s (wrap text)) (ofGroup config group chain)
      (list command) := by
  obtain ⟨texts, htexts, hlist⟩ := hfills.exists_texts h
  rw [hempty, List.nil_append] at hlist
  rw [hlist]
  exact htexts

/-- Specs that contribute filters have exactly these as their plan. -/
theorem planFrom_of_contributes {specs : Chain} {texts : List String}
    (h : List.Forall₂ (fun s text => Contributes config s (.filter text)) specs texts)
    (c : Command) :
    planFrom (registry config) c specs = .ok { c with filters := c.filters ++ texts } := by
  induction h generalizing c with
  | nil => rw [List.append_nil]; rfl
  | @cons s text rest texts hcontributes _ ih =>
    have hrest : planFrom (registry config) c (s :: rest)
        = (planFrom (registry config) c [s]).bind (planFrom (registry config) · rest) :=
      Registry.fold_append _ _ c [s] rest
    rw [hrest, hcontributes c]
    show planFrom (registry config) (c.withFilter text) rest = _
    rw [ih, Command.withFilter, List.append_assoc, List.singleton_append]

/-! ## (4) Planning as a fold -/

/-- **Planning is a fold that only appends.** A chain that fails makes every longer one fail with
its error. Where a longer one goes well, so does the chain, and its filters and splices are the first
ones of the longer one. Specs for which no operation is found change nothing at all. The filters of a
plan are those that its specs of filters contribute, one for each, in order; and these specs alone
have them too. -/
theorem plan_appendOnly (config : Config.Pipeline) :
    (∀ first second e, plan (registry config) first = .error e →
      plan (registry config) (first ++ second) = .error e) ∧
    (∀ first second whole, plan (registry config) (first ++ second) = .ok whole →
      ∃ part, plan (registry config) first = .ok part ∧
        part.filters <+: whole.filters ∧ part.splices <+: whole.splices) ∧
    (∀ chain,
      plan (registry config) ((registry config).known chain) = plan (registry config) chain) ∧
    ∀ chain command, plan (registry config) chain = .ok command →
      List.Forall₂ (fun s text => Contributes config s (.filter text))
        (ofGroup config .filter chain) command.filters ∧
      plan (registry config) (ofGroup config .filter chain)
        = .ok { filters := command.filters } := by
  refine ⟨fun first second e h => ?_, fun first second whole h => ?_,
    fun chain => plan_known _ chain, fun chain command h => ?_⟩
  · rw [plan_append, h]
    rfl
  · rw [plan_append] at h
    obtain ⟨part, hpart, hrest⟩ := bind_eq_ok_iff.1 h
    obtain ⟨hfilters, hsplices⟩ := extends_of_planFrom hrest
    exact ⟨part, hpart, hfilters, hsplices⟩
  · have hspecs := fills_filters.forall₂ rfl h
    exact ⟨hspecs, planFrom_of_contributes hspecs {}⟩

/-- A chain that goes well and is gone on with, one that fails and is, and the two filters of two
specs between which others lie. -/
theorem plan_appendOnly_sample :
    plan (registry {}) sampleChain = .ok sampleCommand ∧
    plan (registry {}) [⟨"c_fit", .empty⟩] = .error (Params.missing "c_fit" "w") ∧
    plan (registry {}) ([⟨"c_fit", .empty⟩] ++ sampleChain) = .error (Params.missing "c_fit" "w") ∧
    (∃ part, plan (registry {}) (sampleChain.take 3) = .ok part ∧
      part.filters <+: sampleCommand.filters ∧ part.splices <+: sampleCommand.splices) ∧
    List.Forall₂ (fun s text => Contributes {} s (.filter text)) (ofGroup {} .filter sampleChain)
      sampleCommand.filters := by
  have hplan : plan (registry {}) sampleChain = .ok sampleCommand := by decide +kernel
  have hfails : plan (registry {}) [⟨"c_fit", .empty⟩] = .error (Params.missing "c_fit" "w") := by
    decide +kernel
  obtain ⟨herror, hprefix, -, hfilters⟩ := plan_appendOnly {}
  exact ⟨hplan, hfails, herror _ _ _ hfails,
    hprefix (sampleChain.take 3) (sampleChain.drop 3) _ hplan, (hfilters _ _ hplan).1⟩

end Video

end MediaTransform
