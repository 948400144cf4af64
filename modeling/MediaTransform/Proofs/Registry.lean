import MediaTransform.Registry

/-! # Runs over a registry

* **`Registry.resolve_cases`** — the two ways in which a handler is found (`resolve_of_get?`,
  `resolve_of_directive`).
* **`Registry.fold_eq_error_iff`** — where a run stops: at the first step that fails.
* **`Registry.known`** — the specs that have a handler, which are all that a run looks at
  (`fold_known`, `calls_known`).
* **`Registry.recording`** — a step that keeps a log; `fold_recording` says that the log of a run is
  the list of its calls.
* **`Registry.fold_induction`** — what every step of a chain keeps holds after the chain;
  `fold_calls_induction` also looks at the calls made so far.
* **`Registry.fold_agrees`** — two runs with steps that agree end alike. -/

namespace MediaTransform

/-- One computation after another goes well exactly when both do. -/
theorem bind_eq_ok_iff {ε α β : Type} {x : Except ε α} {f : α → Except ε β} {b : β} :
    x.bind f = .ok b ↔ ∃ a, x = .ok a ∧ f a = .ok b := by
  cases x with
  | ok a =>
    constructor
    · intro h
      exact ⟨a, rfl, h⟩
    · rintro ⟨a', h, hb⟩
      cases h
      exact hb
  | error e => exact ⟨nofun, nofun⟩

/-- A reading that is checked returns what was read where the check finds nothing. -/
theorem checked_eq_ok_iff {α β : Type} {read : Except Error α} {bad : α → Prop} [DecidablePred bad]
    {e : α → Error} {f : α → β} {b : β} :
    (do
      let a ← read
      if bad a then throw (e a)
      return f a) = .ok b ↔ ∃ a, read = .ok a ∧ ¬bad a ∧ f a = b := by
  cases read with
  | error e => exact ⟨nofun, nofun⟩
  | ok a =>
    dsimp only [bind, Except.bind]
    by_cases hbad : bad a
    · rw [if_pos hbad]
      constructor
      · intro h
        cases h
      · rintro ⟨a', ha, hgood, -⟩
        cases ha
        exact absurd hbad hgood
    · rw [if_neg hbad]
      constructor
      · intro h
        cases h
        exact ⟨a, rfl, hbad, rfl⟩
      · rintro ⟨a', ha, -, rfl⟩
        cases ha
        rfl

/-- A changed result is that of a computation that goes well. -/
theorem map_eq_ok_iff {ε α β : Type} {x : Except ε α} {f : α → β} {b : β} :
    x.map f = .ok b ↔ ∃ a, x = .ok a ∧ f a = b := by
  cases x with
  | ok a =>
    constructor
    · intro h
      exact ⟨a, rfl, Except.ok.inj h⟩
    · rintro ⟨a', h, rfl⟩
      cases h
      rfl
  | error e => exact ⟨nofun, nofun⟩

/-- Changing errors changes no success. -/
theorem mapError_eq_ok_iff {ε ε' α : Type} {x : Except ε α} {f : ε → ε'} {a : α} :
    x.mapError f = .ok a ↔ x = .ok a := by
  cases x with
  | ok a' => exact ⟨fun h => congrArg _ (Except.ok.inj h), fun h => congrArg _ (Except.ok.inj h)⟩
  | error e => exact ⟨nofun, nofun⟩

namespace Registry

variable {H : Type}

/-! ## (1) Handlers -/

/-- **A handler is found in two ways**: under the whole kind, with the parameters of the spec, or
under the text before the first underscore, which then has the text after it as a default. -/
theorem resolve_cases {r : Registry H} {s : Spec} {found : Resolved H}
    (h : r.resolve s = some found) :
    (found.tag, found.handler) ∈ r.handlers.entries ∧
      ((found.tag = s.kind ∧ found.params = s.params) ∨
        ∃ raw, s.directive = some (found.tag, raw) ∧
          found.params = s.params.withDefault found.tag (coerce raw)) := by
  unfold resolve at h
  cases hkind : r.handlers.get? s.kind with
  | some handler =>
    rw [hkind] at h
    cases h
    exact ⟨Dictionary.mem_of_get? hkind, .inl ⟨rfl, rfl⟩⟩
  | none =>
    rw [hkind] at h
    cases hdirective : s.directive with
    | none =>
      rw [hdirective] at h
      cases h
    | some p =>
      obtain ⟨key, raw⟩ := p
      rw [hdirective] at h
      obtain ⟨handler, hhandler, rfl⟩ := Option.map_eq_some_iff.1 h
      exact ⟨Dictionary.mem_of_get? hhandler, .inr ⟨raw, rfl, rfl⟩⟩

section Found

variable {r : Registry H} {s : Spec} {key raw : String} {handler : H}

/-- A key with a handler is found with the parameters as they are. -/
theorem resolve_of_get? (h : r.handlers.get? key = some handler) (ps : Params) :
    r.resolve ⟨key, ps⟩ = some ⟨key, handler, ps⟩ := by
  rw [resolve, h]

/-- A key before the first underscore is found with the text after it as a default, if the kind as a
whole has no handler. -/
theorem resolve_of_directive (hwhole : r.handlers.get? s.kind = none)
    (hdirective : s.directive = some (key, raw)) (h : r.handlers.get? key = some handler) :
    r.resolve s = some ⟨key, handler, s.params.withDefault key (coerce raw)⟩ := by
  rw [resolve, hwhole, hdirective]
  dsimp only
  rw [h, Option.map_some]

end Found

/-! ## (2) One spec more -/

section Runs

variable {σ ε : Type} {r : Registry H} {step : Resolved H → σ → Except ε σ} {s : Spec}
  {found : Resolved H}

theorem fold_cons_of_none (h : r.resolve s = none) (state : σ) (rest : Chain) :
    r.fold step state (s :: rest) = r.fold step state rest := by
  rw [fold, h]

theorem fold_cons_of_some (h : r.resolve s = some found) (state : σ) (rest : Chain) :
    r.fold step state (s :: rest) = (step found state).bind (r.fold step · rest) := by
  simp only [fold, h]
  cases step found state with
  | ok next => rfl
  | error e => rfl

theorem calls_cons_of_none (h : r.resolve s = none) (state : σ) (rest : Chain) :
    r.calls step state (s :: rest) = r.calls step state rest := by
  rw [calls, h]

theorem calls_cons_of_ok (h : r.resolve s = some found) {state next : σ}
    (hstep : step found state = .ok next) (rest : Chain) :
    r.calls step state (s :: rest) = (found, state) :: r.calls step next rest := by
  simp only [calls, h, hstep]

theorem calls_cons_of_error (h : r.resolve s = some found) {state : σ} {e : ε}
    (hstep : step found state = .error e) (rest : Chain) :
    r.calls step state (s :: rest) = [(found, state)] := by
  simp only [calls, h, hstep]

/-! ## (3) One chain after another -/

/-- A chain that goes well is followed by the calls of the next one, on its result. -/
theorem calls_append_of_ok {first : Chain} {state middle : σ}
    (h : r.fold step state first = .ok middle) (second : Chain) :
    r.calls step state (first ++ second)
      = r.calls step state first ++ r.calls step middle second := by
  induction first generalizing state with
  | nil =>
    cases h
    rfl
  | cons s rest ih =>
    cases hresolve : r.resolve s with
    | none =>
      rw [fold_cons_of_none hresolve] at h
      rw [List.cons_append, calls_cons_of_none hresolve, calls_cons_of_none hresolve, ih h]
    | some found =>
      rw [fold_cons_of_some hresolve] at h
      cases hstep : step found state with
      | error e =>
        rw [hstep] at h
        cases h
      | ok next =>
        rw [hstep] at h
        rw [List.cons_append, calls_cons_of_ok hresolve hstep, calls_cons_of_ok hresolve hstep,
          ih h, List.cons_append]

/-- A chain that fails is followed by no calls. -/
theorem calls_append_of_error {first : Chain} {state : σ} {e : ε}
    (h : r.fold step state first = .error e) (second : Chain) :
    r.calls step state (first ++ second) = r.calls step state first := by
  induction first generalizing state with
  | nil => cases h
  | cons s rest ih =>
    cases hresolve : r.resolve s with
    | none =>
      rw [fold_cons_of_none hresolve] at h
      rw [List.cons_append, calls_cons_of_none hresolve, calls_cons_of_none hresolve, ih h]
    | some found =>
      rw [fold_cons_of_some hresolve] at h
      cases hstep : step found state with
      | error e' =>
        rw [List.cons_append, calls_cons_of_error hresolve hstep,
          calls_cons_of_error hresolve hstep]
      | ok next =>
        rw [hstep] at h
        rw [List.cons_append, calls_cons_of_ok hresolve hstep, calls_cons_of_ok hresolve hstep,
          ih h]

/-- **A run fails exactly at a step that fails** after all specs before it went well. -/
theorem fold_eq_error_iff {chain : Chain} {state : σ} {e : ε} :
    r.fold step state chain = .error e ↔
      ∃ before s after middle found, chain = before ++ s :: after ∧
        r.fold step state before = .ok middle ∧ r.resolve s = some found ∧
          step found middle = .error e := by
  constructor
  · intro h
    induction chain generalizing state with
    | nil => cases h
    | cons s rest ih =>
      cases hresolve : r.resolve s with
      | none =>
        rw [fold_cons_of_none hresolve] at h
        obtain ⟨before, t, after, middle, found, rfl, hbefore, hfound, hfails⟩ := ih h
        refine ⟨s :: before, t, after, middle, found, rfl, ?_, hfound, hfails⟩
        rw [fold_cons_of_none hresolve, hbefore]
      | some found =>
        rw [fold_cons_of_some hresolve] at h
        cases hstep : step found state with
        | error e' =>
          rw [hstep] at h
          cases h
          exact ⟨[], s, rest, state, found, rfl, rfl, hresolve, hstep⟩
        | ok next =>
          rw [hstep] at h
          obtain ⟨before, t, after, middle, found', rfl, hbefore, hfound, hfails⟩ := ih h
          refine ⟨s :: before, t, after, middle, found', rfl, ?_, hfound, hfails⟩
          rw [fold_cons_of_some hresolve, hstep]
          exact hbefore
  · rintro ⟨before, s, after, middle, found, rfl, hbefore, hresolve, hfails⟩
    rw [fold_append, hbefore]
    show r.fold step middle (s :: after) = .error e
    rw [fold_cons_of_some hresolve, hfails]
    rfl

/-- **Where a run fails, the step that fails makes the last call.** -/
theorem calls_of_failure {before after : Chain} {state middle : σ} {e : ε}
    (hbefore : r.fold step state before = .ok middle) (hresolve : r.resolve s = some found)
    (hfails : step found middle = .error e) :
    r.calls step state (before ++ s :: after) = r.calls step state before ++ [(found, middle)] := by
  rw [calls_append_of_ok hbefore, calls_cons_of_error hresolve hfails]

/-! ## (4) Specs without a handler -/

/-- **The specs of a chain that have a handler**, in order. -/
def known (r : Registry H) (chain : Chain) : Chain := chain.filter fun s => (r.resolve s).isSome

theorem known_cons_of_none (h : r.resolve s = none) (rest : Chain) :
    r.known (s :: rest) = r.known rest := by
  rw [known, List.filter_cons_of_neg (by simp [h]), known]

theorem known_cons_of_some (h : r.resolve s = some found) (rest : Chain) :
    r.known (s :: rest) = s :: r.known rest := by
  rw [known, List.filter_cons_of_pos (by simp [h]), known]

/-- **A run does not depend on specs without a handler.** -/
theorem fold_known (state : σ) (chain : Chain) :
    r.fold step state (r.known chain) = r.fold step state chain := by
  induction chain generalizing state with
  | nil => rfl
  | cons s rest ih =>
    cases hresolve : r.resolve s with
    | none => rw [known_cons_of_none hresolve, fold_cons_of_none hresolve, ih]
    | some found =>
      rw [known_cons_of_some hresolve, fold_cons_of_some hresolve, fold_cons_of_some hresolve]
      exact congrArg (step found state).bind (funext ih)

/-- Nor do its calls. -/
theorem calls_known (state : σ) (chain : Chain) :
    r.calls step state (r.known chain) = r.calls step state chain := by
  induction chain generalizing state with
  | nil => rfl
  | cons s rest ih =>
    cases hresolve : r.resolve s with
    | none => rw [known_cons_of_none hresolve, calls_cons_of_none hresolve, ih]
    | some found =>
      rw [known_cons_of_some hresolve]
      cases hstep : step found state with
      | error e => rw [calls_cons_of_error hresolve hstep, calls_cons_of_error hresolve hstep]
      | ok next => rw [calls_cons_of_ok hresolve hstep, calls_cons_of_ok hresolve hstep, ih]

/-! ## (5) Logs -/

/-- **A step that keeps a log**: before it does its work, or fails, it writes down what it was
called with. -/
def recording (step : Resolved H → σ → Except ε σ) (found : Resolved H)
    (s : σ × List (Resolved H × σ)) :
    Except (ε × List (Resolved H × σ)) (σ × List (Resolved H × σ)) :=
  let log := s.2 ++ [(found, s.1)]
  match step found s.1 with
  | .ok next => .ok (next, log)
  | .error e => .error (e, log)

/-- **The calls of a run are what its log holds**, whether it goes well or fails. -/
theorem fold_recording (state : σ) (log : List (Resolved H × σ)) (chain : Chain) :
    r.fold (recording step) (state, log) chain =
      match r.fold step state chain with
      | .ok last => .ok (last, log ++ r.calls step state chain)
      | .error e => .error (e, log ++ r.calls step state chain) := by
  induction chain generalizing state log with
  | nil => simp [fold, calls]
  | cons s rest ih =>
    cases hresolve : r.resolve s with
    | none =>
      rw [fold_cons_of_none hresolve, fold_cons_of_none hresolve, calls_cons_of_none hresolve, ih]
    | some found =>
      rw [fold_cons_of_some hresolve, fold_cons_of_some hresolve]
      cases hstep : step found state with
      | error e =>
        rw [calls_cons_of_error hresolve hstep]
        simp only [recording, hstep, Except.bind]
      | ok next =>
        rw [calls_cons_of_ok hresolve hstep]
        simp only [recording, hstep, Except.bind]
        rw [ih, List.append_assoc, List.singleton_append]

end Runs

/-! ## (6) Invariants -/

/-- **What every step of a chain keeps holds after the chain.** -/
theorem fold_induction {σ ε : Type} {r : Registry H} {step : Resolved H → σ → Except ε σ}
    (holds : σ → Prop) {chain : Chain} {first last : σ}
    (keeps : ∀ s ∈ chain, ∀ found, r.resolve s = some found →
      ∀ state next, holds state → step found state = .ok next → holds next)
    (start : holds first) (h : r.fold step first chain = .ok last) : holds last := by
  induction chain generalizing first with
  | nil =>
    cases h
    exact start
  | cons s rest ih =>
    have hrest := fun s' hs' => keeps s' (List.mem_cons_of_mem _ hs')
    cases hresolve : r.resolve s with
    | none =>
      rw [fold_cons_of_none hresolve] at h
      exact ih hrest start h
    | some found =>
      rw [fold_cons_of_some hresolve] at h
      cases hstep : step found first with
      | error e =>
        rw [hstep] at h
        cases h
      | ok next =>
        rw [hstep] at h
        exact ih hrest (keeps s List.mem_cons_self found hresolve first next start hstep) h

/-- **What every step keeps of the calls so far and of the state** holds of all calls and of the last
state. -/
theorem fold_calls_induction {σ ε : Type} {r : Registry H} {step : Resolved H → σ → Except ε σ}
    (holds : List (Resolved H × σ) → σ → Prop) {chain : Chain} {first last : σ}
    (keeps : ∀ s ∈ chain, ∀ found, r.resolve s = some found → ∀ calls state next,
      holds calls state → step found state = .ok next → holds (calls ++ [(found, state)]) next)
    (start : holds [] first) (h : r.fold step first chain = .ok last) :
    holds (r.calls step first chain) last := by
  -- the calls before the chain are left open, as those of its first step come before the rest
  have hafter : ∀ before, holds before first → holds (before ++ r.calls step first chain) last := by
    clear start
    induction chain generalizing first with
    | nil =>
      cases h
      intro before hbefore
      rwa [calls, List.append_nil]
    | cons s rest ih =>
      intro before hbefore
      have hrest := fun s' hs' => keeps s' (List.mem_cons_of_mem _ hs')
      cases hresolve : r.resolve s with
      | none =>
        rw [fold_cons_of_none hresolve] at h
        rw [calls_cons_of_none hresolve]
        exact ih hrest h before hbefore
      | some found =>
        rw [fold_cons_of_some hresolve] at h
        obtain ⟨next, hstep, h⟩ := bind_eq_ok_iff.1 h
        rw [calls_cons_of_ok hresolve hstep, List.append_cons]
        exact ih hrest h _
          (keeps s List.mem_cons_self found hresolve before first next hbefore hstep)
  exact hafter [] start

/-- **In a run that goes well, every spec that has a handler is called.** -/
theorem map_fst_calls {σ ε : Type} {r : Registry H} {step : Resolved H → σ → Except ε σ}
    {chain : Chain} {first last : σ} (h : r.fold step first chain = .ok last) :
    (r.calls step first chain).map (·.1) = chain.filterMap r.resolve := by
  induction chain generalizing first with
  | nil => rfl
  | cons s rest ih =>
    cases hresolve : r.resolve s with
    | none =>
      rw [fold_cons_of_none hresolve] at h
      rw [calls_cons_of_none hresolve, List.filterMap_cons_none hresolve, ih h]
    | some found =>
      rw [fold_cons_of_some hresolve] at h
      obtain ⟨next, hstep, h⟩ := bind_eq_ok_iff.1 h
      rw [calls_cons_of_ok hresolve hstep, List.filterMap_cons_some hresolve, List.map_cons, ih h]

end Registry

/-! ## (7) Two runs -/

/-- **Two computations agree**: both go well, with results in a relation, or both fail with the same
error. -/
inductive Agrees {ε α β : Type} (R : α → β → Prop) : Except ε α → Except ε β → Prop where
  | ok {a : α} {b : β} (h : R a b) : Agrees R (.ok a) (.ok b)
  | error (e : ε) : Agrees R (.error e) (.error e)

namespace Agrees

variable {ε α β γ δ : Type} {R : α → β → Prop} {S : γ → δ → Prop} {x : Except ε α} {y : Except ε β}

/-- Computations that agree are followed by computations that agree. -/
theorem bind (h : Agrees R x y) {f : α → Except ε γ} {g : β → Except ε δ}
    (hnext : ∀ a b, R a b → Agrees S (f a) (g b)) : Agrees S (x.bind f) (y.bind g) := by
  cases h with
  | ok hab => exact hnext _ _ hab
  | error e => exact .error e

/-- What is said of the results may be said in another way. -/
theorem imp {T : α → β → Prop} (h : Agrees R x y)
    (himp : ∀ a b, x = .ok a → y = .ok b → R a b → T a b) : Agrees T x y := by
  cases h with
  | ok hab => exact .ok (himp _ _ rfl rfl hab)
  | error e => exact .error e

/-- The error may be worded in another way. -/
theorem mapError {ε' : Type} (h : Agrees R x y) (f : ε → ε') :
    Agrees R (x.mapError f) (y.mapError f) := by
  cases h with
  | ok hab => exact .ok hab
  | error e => exact .error _

end Agrees

/-- **Two runs of a chain whose steps agree on related states agree.** -/
theorem Registry.fold_agrees {H σ τ ε : Type} {r : Registry H} {step : Resolved H → σ → Except ε σ}
    {step' : Resolved H → τ → Except ε τ} {R : σ → τ → Prop} {chain : Chain}
    (hstep : ∀ s ∈ chain, ∀ found, r.resolve s = some found →
      ∀ a b, R a b → Agrees R (step found a) (step' found b))
    {first : σ} {first' : τ} (h : R first first') :
    Agrees R (r.fold step first chain) (r.fold step' first' chain) := by
  induction chain generalizing first first' with
  | nil => exact .ok h
  | cons s rest ih =>
    have hrest := fun s' hs' => hstep s' (List.mem_cons_of_mem _ hs')
    cases hresolve : r.resolve s with
    | none =>
      rw [fold_cons_of_none hresolve, fold_cons_of_none hresolve]
      exact ih hrest h
    | some found =>
      rw [fold_cons_of_some hresolve, fold_cons_of_some hresolve]
      exact (hstep s List.mem_cons_self found hresolve _ _ h).bind fun _ _ hab => ih hrest hab

end MediaTransform
