import MediaTransform.Proofs.Dictionary
import MediaTransform.Proofs.Directive
import MediaTransform.Proofs.Failure
import MediaTransform.Proofs.Url.Tokens
import MediaTransform.Proofs.Video.Timing

/-! # The order of tokens in timing segments

The first token of a segment is its kind, and so decides which handler is called; what the call does
is decided by all tokens together:

* **`FailsNamed`** — computations whose errors name an operation, so that no tag is put in their
  place; timing is one (`Video.failsNamed_timing`, `step_timing`).
* **`Video.timing_congr`** — the key does not matter to timing where its value is a parameter.
* **`Video.exists_spec_of_timing`** — a segment that a timing token leads calls timing with all its
  tokens as parameters.
* **`Video.planFrom_timing_perm`** — so two orders of the tokens have one plan. -/

namespace MediaTransform

/-! ## (1) Errors that name an operation -/

/-- **A computation that fails in the name of an operation**, if it fails. -/
def FailsNamed {α : Type} (x : Except Error α) : Prop := ∀ e, x = .error e → e.isOperation = true

namespace FailsNamed

variable {α β : Type} {x : Except Error α}

theorem ok (a : α) : FailsNamed (.ok a : Except Error α) := FailsOnly.ok a

theorem bind (hx : FailsNamed x) {f : α → Except Error β} (hf : ∀ a, FailsNamed (f a)) :
    FailsNamed (x.bind f) :=
  FailsOnly.bind hx hf

theorem map (hx : FailsNamed x) (f : α → β) : FailsNamed (x.map f) := FailsOnly.map hx f

/-- A reading that is checked. -/
theorem checked (hx : FailsNamed x) {bad : α → Prop} [DecidablePred bad] {e : α → Error} {f : α → β}
    (he : ∀ a, (e a).isOperation = true) :
    FailsNamed (do
      let a ← x
      if bad a then throw (e a)
      return f a) :=
  FailsOnly.checked hx he

end FailsNamed

theorem Params.failsNamed_requireNumber (ps : Params) (op key : String) :
    FailsNamed (ps.requireNumber op key) := by
  refine (ps.failsAs_requireNumber op key).imp ?_
  rintro e ⟨reason, rfl⟩
  rfl

namespace Video

variable {key key' : String} {ps : Params}

theorem failsNamed_startSet (key : String) (ps : Params) : FailsNamed (startSet key ps) := by
  have hread : FailsNamed (startRead ps) := by
    unfold startRead
    split
    · exact ps.failsNamed_requireNumber "so" "so"
    · exact .ok _
  unfold startSet
  split
  · exact hread.checked fun _ => rfl
  · exact .ok none

theorem failsNamed_endSet (key : String) (ps : Params) (start : Number) :
    FailsNamed (endSet key ps start) := by
  unfold endSet
  split
  · exact (ps.failsNamed_requireNumber "eo" "eo").checked fun _ => rfl
  · exact .ok none

theorem failsNamed_lengthSet (key : String) (ps : Params) : FailsNamed (lengthSet key ps) := by
  unfold lengthSet
  split
  · exact (ps.failsNamed_requireNumber "du" "du").checked fun _ => rfl
  · exact .ok none

/-- **The errors of timing name an operation.** -/
theorem failsNamed_timing (key : String) (c : Command) (ps : Params) :
    FailsNamed (timing key c ps) := by
  refine .bind ?_ fun started => .bind ?_ fun ended => ?_
  · rw [applyStart_eq]
    exact (failsNamed_startSet key ps).map _
  · rw [applyEnd_eq]
    exact (failsNamed_endSet key ps _).map _
  · rw [applyDuration_eq]
    exact (failsNamed_lengthSet key ps).map _

/-- **The tag does not show** in a step of timing. -/
theorem step_timing (tag key : String) (ps : Params) (c : Command) :
    step ⟨tag, timing key, ps⟩ c = timing key c ps := by
  have hnamed := failsNamed_timing key c ps
  unfold step
  dsimp only
  cases htiming : timing key c ps with
  | ok next => rfl
  | error e =>
    -- a tag is put only where no operation is named
    obtain ⟨-, hsame⟩ | ⟨hother, -⟩ := Error.ascribe_cases tag e
    · dsimp only
      rw [hsame]
    · rw [hnamed e htiming] at hother
      cases hother

/-! ## (2) The key -/

/-- A spec that has a value for its own key is about what it has values for. -/
theorem about_iff (h : ps.contains key = true) {name : String} :
    (key = name ∨ ps.contains name = true) ↔ ps.contains name = true := by
  constructor
  · rintro (rfl | hname)
    · exact h
    · exact hname
  · exact .inr

/-- **The key does not matter** where its value is among the parameters. -/
theorem timing_congr (h : ps.contains key = true) (h' : ps.contains key' = true) (c : Command) :
    timing key c ps = timing key' c ps := by
  have hstart : ∀ c, applyStart key c ps = applyStart key' c ps := by
    intro c
    simp only [applyStart, about_iff h, about_iff h']
  have hend : ∀ c, applyEnd key c ps = applyEnd key' c ps := by
    intro c
    simp only [applyEnd, about_iff h, about_iff h']
  have hduration : ∀ c, applyDuration key c ps = applyDuration key' c ps := by
    intro c
    simp only [applyDuration, about_iff h, about_iff h']
  simp only [timing, hstart, hend, hduration]

/-! ## (3) Segments that a timing token leads -/

/-- The keys of timing. -/
def timingKeys : List String := ["so", "eo", "du"]

variable (config : Config.Pipeline)

theorem not_mem_of_mem_timingKeys (hkey : key ∈ timingKeys) : '_' ∉ key.toList :=
  (by decide : ∀ key ∈ timingKeys, '_' ∉ key.toList) key hkey

theorem get?_timing (hkey : key ∈ timingKeys) :
    (registry config).handlers.get? key = some (timing key) := by
  refine get?_of_mem_operations ?_
  have hkeys : key = "so" ∨ key = "eo" ∨ key = "du" := by simpa [timingKeys] using hkey
  rcases hkeys with rfl | rfl | rfl <;> simp [operations]

/-- No tag is a timing key with more after an underscore. -/
theorem not_mem_timingKeys_of_mem_operations {tag : String} {op : Operation}
    (h : (tag, op) ∈ operations config) {p : String × String} (hp : Text.cut? '_' tag = some p) :
    p.1 ∉ timingKeys := by
  have hall : ∀ tag ∈ (operations {}).map (·.1),
      ((Text.cut? '_' tag).all fun p => !timingKeys.contains p.1) = true := by
    decide +kernel
  have hkey := hall tag (map_fst_operations config ▸ List.mem_map.2 ⟨(tag, op), h, rfl⟩)
  rw [hp] at hkey
  simpa using hkey

/-- **Timing keys take any value in the kind.** -/
theorem takesDirective_timing (hkey : key ∈ timingKeys) (raw : String) :
    (registry config).TakesDirective key raw where
  unbroken := not_mem_of_mem_timingKeys hkey
  registered := by
    rw [Registry.contains, Dictionary.contains, get?_timing config hkey, Option.isSome_some]
  unshadowed := by
    refine Bool.eq_false_iff.2 fun hcontains => ?_
    obtain ⟨op, hop⟩ := Option.isSome_iff_exists.1 hcontains
    exact not_mem_timingKeys_of_mem_operations config
      (Dictionary.mem_of_mem_ofList (Dictionary.mem_of_get? hop))
      (Spec.directive_directiveKind (not_mem_of_mem_timingKeys hkey) .empty) hkey

/-- **What a segment calls** that a timing token leads: timing under the key of that token, with the
values of all tokens as parameters. -/
theorem exists_spec_of_timing {head : Token} {rest : List Token}
    (hwell : ∀ t ∈ head :: rest, t.WellFormed) (hdistinct : ((head :: rest).map Token.key).Nodup)
    (hkey : head.key ∈ timingKeys) :
    ∃ s, Spec.ofSegment? (Token.segment (head :: rest)) = some s ∧
      (registry config).resolve s = some ⟨head.key, timing head.key,
        Dictionary.ofList ((head :: rest).map Token.parameter)⟩ := by
  refine ⟨_, Spec.ofSegment?_segment hwell, ?_⟩
  have hparams : (Dictionary.ofList (rest.map Token.parameter)).withDefault head.key
      (coerce head.raw) = Dictionary.ofList ((head :: rest).map Token.parameter) := by
    rw [← Token.map_fst_parameter] at hdistinct
    exact Dictionary.withDefault_ofList hdistinct
  rw [← hparams]
  exact Registry.resolve_of_takesDirective (takesDirective_timing config hkey head.raw)
    (get?_timing config hkey) _

/-- A plan of one spec of timing. -/
theorem planFrom_timing {s : Spec} {tag : String}
    (h : (registry config).resolve s = some ⟨tag, timing key, ps⟩) (c : Command) :
    planFrom (registry config) c [s] = timing key c ps := by
  rw [planFrom, Registry.fold_cons_of_some h, step_timing]
  cases timing key c ps <;> rfl

/-! ## (4) Two orders -/

/-- **The order of tokens does not matter to timing.** Two segments of the same tokens, with distinct
keys, may begin with different timing tokens. They are read as specs that call timing under these
different keys, with the same parameters; and from every command they plan the same command, or fail
with the same error. -/
theorem planFrom_timing_perm {first second : List Token} {head head' : Token}
    (hwell : ∀ t ∈ first, t.WellFormed) (hdistinct : (first.map Token.key).Nodup)
    (hperm : first.Perm second)
    (hfirst : first.head? = some head) (hkey : head.key ∈ ["so", "eo", "du"])
    (hsecond : second.head? = some head') (hkey' : head'.key ∈ ["so", "eo", "du"]) :
    ∃ s t, Spec.ofSegment? (Token.segment first) = some s ∧
      Spec.ofSegment? (Token.segment second) = some t ∧
      (∀ raw, Request.OnlySegment raw (Token.segment first) →
        ∃ r, Request.parse raw = .ok r ∧ r.chain = [s]) ∧
      (∀ raw, Request.OnlySegment raw (Token.segment second) →
        ∃ r, Request.parse raw = .ok r ∧ r.chain = [t]) ∧
      (∃ ps, (registry config).resolve s = some ⟨head.key, timing head.key, ps⟩ ∧
        (registry config).resolve t = some ⟨head'.key, timing head'.key, ps⟩) ∧
      ∀ c, planFrom (registry config) c [s] = planFrom (registry config) c [t] := by
  obtain ⟨rest, rfl⟩ := List.head?_eq_some_iff.1 hfirst
  obtain ⟨rest', rfl⟩ := List.head?_eq_some_iff.1 hsecond
  have hwell' : ∀ t ∈ head' :: rest', t.WellFormed := fun t ht => hwell t (hperm.mem_iff.2 ht)
  have hdistinct' : ((head' :: rest').map Token.key).Nodup :=
    (hperm.map Token.key).nodup_iff.1 hdistinct
  obtain ⟨s, hs, hresolve⟩ := exists_spec_of_timing config hwell hdistinct hkey
  obtain ⟨t, ht, hresolve'⟩ := exists_spec_of_timing config hwell' hdistinct' hkey'
  rw [← Token.map_fst_parameter] at hdistinct
  -- the parameters of both calls are those of all tokens, the two heads among them
  have hparams := Dictionary.ofList_perm (hperm.map Token.parameter) hdistinct
  rw [← hparams] at hresolve'
  have hcontains : ∀ t ∈ head :: rest,
      (Dictionary.ofList ((head :: rest).map Token.parameter)).contains t.key = true := by
    intro t ht
    have hget := Dictionary.get?_ofList_of_mem hdistinct (List.mem_map_of_mem ht)
    exact Option.isSome_iff_exists.2 ⟨_, hget⟩
  refine ⟨s, t, hs, ht, fun raw h => h.exists_parse hs, fun raw h => h.exists_parse ht,
    ⟨_, hresolve, hresolve'⟩, fun c => ?_⟩
  rw [planFrom_timing config hresolve, planFrom_timing config hresolve']
  exact timing_congr (hcontains head List.mem_cons_self)
    (hcontains head' (hperm.mem_iff.2 List.mem_cons_self)) c

/-- A start, a parameter that timing does not look at, and an end. -/
def startFirst : List Token := [⟨"so", "2"⟩, ⟨"x", "a"⟩, ⟨"eo", "9"⟩]

/-- The same with the end first. -/
def endFirst : List Token := [⟨"eo", "9"⟩, ⟨"so", "2"⟩, ⟨"x", "a"⟩]

/-- The end counts from the start also where it comes first. -/
theorem planFrom_timing_perm_startFirst :
    Token.segment startFirst = "so_2,x_a,eo_9" ∧ Token.segment endFirst = "eo_9,so_2,x_a" ∧
      ∃ s t, Spec.ofSegment? (Token.segment startFirst) = some s ∧
        Spec.ofSegment? (Token.segment endFirst) = some t ∧
        (∀ c, planFrom (registry {}) c [s] = planFrom (registry {}) c [t]) ∧
        planFrom (registry {}) {} [t]
          = .ok { seek := some (.ofNat 2), duration := some (.ofNat 7) } := by
  obtain ⟨s, t, hs, ht, -, -, -, hplan⟩ := planFrom_timing_perm {}
    (by decide : ∀ t ∈ startFirst, t.WellFormed) (by decide) (by decide : startFirst.Perm endFirst)
    rfl (by decide) rfl (by decide)
  have hcommand : (Spec.ofSegment? (Token.segment endFirst)).map
      (fun t => planFrom (registry {}) {} [t])
        = some (.ok { seek := some (.ofNat 2), duration := some (.ofNat 7) }) := by
    decide +kernel
  rw [ht, Option.map_some, Option.some.injEq] at hcommand
  exact ⟨by decide +kernel, by decide +kernel, s, t, hs, ht, hplan, hcommand⟩

end Video

end MediaTransform
