import MediaTransform.Image.Executor
import MediaTransform.Proofs.Registry

/-! # Image chains one after another

The executor over arbitrary handlers, in result and in calls:

* **`ImageChain.run_append_of_ok`**, **`run_append_of_error`** — a chain after another one works on
  the output of that one, or not at all.
* **`ImageChain.InTime`** — a run none of whose calls goes beyond the time limit.
* **`ImageChain.exists_failing_call`** — every failure of such a run is that of its last call, in
  the name of the operation.
* **`ImageChain.run_sequential`** — all together, with the calls as the log that handlers leave. -/

namespace MediaTransform

/-- An ascribed error is the error itself if it names an operation, else its wording under the
tag. -/
theorem Error.ascribe_cases (tag : String) (e : Error) :
    (e.isOperation = true ∧ Error.ascribe tag e = e) ∨
      (e.isOperation = false ∧ Error.ascribe tag e = .operation tag e.message) := by
  cases e with
  | operation op reason => exact .inl ⟨rfl, rfl⟩
  | _ => exact .inr ⟨rfl, rfl⟩

namespace ImageChain

variable {β : Type} {r : Registry (Operation β)} {limit : Nat} {source : β}

/-! ## (1) Runs -/

/-- A step goes well exactly when its call is done. -/
theorem step_eq_ok_iff {found : Resolved (Operation β)} {b next : β} :
    step found b = .ok next ↔ found.handler b found.params = .done next := by
  unfold step
  cases found.handler b found.params with
  | done b' => simp
  | failed e => exact ⟨nofun, nofun⟩
  | hangs => exact ⟨nofun, nofun⟩

/-- A run goes well exactly when the fold over its chain does. -/
theorem run_eq_ok_iff {chain : Chain} {result : β} :
    run r limit source chain = .ok result ↔ r.fold step source chain = .ok result :=
  mapError_eq_ok_iff

/-- A run fails with the error of what stops the fold over its chain. -/
theorem run_eq_error_iff {chain : Chain} {e : Error} :
    run r limit source chain = .error e ↔
      ∃ stop, r.fold step source chain = .error stop ∧ e = stop.error limit := by
  unfold run
  cases r.fold step source chain with
  | ok b => exact ⟨nofun, nofun⟩
  | error stop =>
    constructor
    · intro h
      cases h
      exact ⟨stop, rfl, rfl⟩
    · rintro ⟨stop', h, rfl⟩
      cases h
      rfl

/-- **A chain after one that goes well** works on its output: so do result and calls say. -/
theorem run_append_of_ok {first : Chain} {middle : β} (h : run r limit source first = .ok middle)
    (second : Chain) :
    run r limit source (first ++ second) = run r limit middle second ∧
      calls r source (first ++ second) = calls r source first ++ calls r middle second := by
  have hfold := run_eq_ok_iff.1 h
  refine ⟨?_, Registry.calls_append_of_ok hfold second⟩
  rw [run, Registry.fold_append, hfold, run]
  rfl

/-- **A chain after one that fails** is not begun. -/
theorem run_append_of_error {first : Chain} {e : Error} (h : run r limit source first = .error e)
    (second : Chain) :
    run r limit source (first ++ second) = .error e ∧
      calls r source (first ++ second) = calls r source first := by
  obtain ⟨stop, hfold, rfl⟩ := run_eq_error_iff.1 h
  refine ⟨?_, Registry.calls_append_of_error hfold second⟩
  rw [run, Registry.fold_append, hfold]
  rfl

/-- **Specs without a handler change neither result nor calls.** -/
theorem run_known (r : Registry (Operation β)) (limit : Nat) (source : β) (chain : Chain) :
    run r limit source (r.known chain) = run r limit source chain ∧
      calls r source (r.known chain) = calls r source chain := by
  refine ⟨?_, Registry.calls_known source chain⟩
  rw [run, run, Registry.fold_known]

/-! ## (2) Failures -/

/-- **No time limit strikes**: every call of the run ends. -/
def InTime (r : Registry (Operation β)) (source : β) (chain : Chain) : Prop :=
  ∀ call ∈ calls r source chain, call.1.handler call.2 call.1.params ≠ .hangs

/-- A step of a call that ends stops a chain only when the call fails. -/
theorem exists_failure_of_step {found : Resolved (Operation β)} {b : β} {stop : Stop}
    (hends : found.handler b found.params ≠ .hangs) (h : step found b = .error stop) :
    ∃ failure, found.handler b found.params = .failed failure ∧
      stop = .failed (Error.ascribe found.tag failure) := by
  unfold step at h
  cases hcall : found.handler b found.params with
  | done next =>
    rw [hcall] at h
    cases h
  | failed e =>
    rw [hcall] at h
    cases h
    exact ⟨e, rfl, rfl⟩
  | hangs => exact absurd hcall hends

/-- **A failure in time is that of the last call**: the specs before it went well, its handler
fails, and its error is ascribed to the tag under which the handler was found. -/
theorem exists_failing_call {chain : Chain} {e : Error} (htime : InTime r source chain)
    (h : run r limit source chain = .error e) :
    ∃ before s after middle found failure, chain = before ++ s :: after ∧
      run r limit source before = .ok middle ∧ r.resolve s = some found ∧
      calls r source chain = calls r source before ++ [(found, middle)] ∧
      found.handler middle found.params = .failed failure ∧
      e = Error.ascribe found.tag failure := by
  obtain ⟨stop, hfold, rfl⟩ := run_eq_error_iff.1 h
  obtain ⟨before, s, after, middle, found, rfl, hbefore, hresolve, hstep⟩ :=
    Registry.fold_eq_error_iff.1 hfold
  have hcalls : calls r source (before ++ s :: after)
      = calls r source before ++ [(found, middle)] :=
    Registry.calls_of_failure hbefore hresolve hstep
  have hends : found.handler middle found.params ≠ .hangs :=
    htime (found, middle) (by rw [hcalls]; exact List.mem_append_right _ List.mem_cons_self)
  obtain ⟨failure, hcall, rfl⟩ := exists_failure_of_step hends hstep
  exact ⟨before, s, after, middle, found, failure, rfl, run_eq_ok_iff.2 hbefore, hresolve, hcalls,
    hcall, rfl⟩

/-! ## (3) Sequential composition -/

/-- **Image chains are composed in sequence, and unknown specs count for nothing.** The calls of a
run are the log that handlers leave which write down what they are called with. A chain after one
that goes well runs on its output, in result and in calls; one after a chain that fails is not
begun, and the error stays. Specs without a handler change neither result nor calls, and where no
others are there the source comes back. In a run in which no time limit strikes, an error is that of
the handler called last: its own one if it names an operation, else its wording under the tag. -/
theorem run_sequential (r : Registry (Operation β)) (limit : Nat) (source : β) :
    (∀ chain, r.fold (Registry.recording step) (source, []) chain =
      match r.fold step source chain with
      | .ok result => .ok (result, calls r source chain)
      | .error stop => .error (stop, calls r source chain)) ∧
    (∀ first second middle, run r limit source first = .ok middle →
      run r limit source (first ++ second) = run r limit middle second ∧
        calls r source (first ++ second) = calls r source first ++ calls r middle second) ∧
    (∀ first second e, run r limit source first = .error e →
      run r limit source (first ++ second) = .error e ∧
        calls r source (first ++ second) = calls r source first) ∧
    (∀ chain, run r limit source (r.known chain) = run r limit source chain ∧
      calls r source (r.known chain) = calls r source chain) ∧
    (∀ chain, (∀ s ∈ chain, r.resolve s = none) →
      run r limit source chain = .ok source ∧ calls r source chain = []) ∧
    ∀ chain e, InTime r source chain → run r limit source chain = .error e →
      e.isOperation = true ∧
      ∃ before s after middle found failure, chain = before ++ s :: after ∧
        run r limit source before = .ok middle ∧ r.resolve s = some found ∧
        calls r source chain = calls r source before ++ [(found, middle)] ∧
        found.handler middle found.params = .failed failure ∧
        ((failure.isOperation = true ∧ e = failure) ∨
          (failure.isOperation = false ∧ e = .operation found.tag failure.message)) := by
  refine ⟨fun chain => ?_, fun first second middle h => run_append_of_ok h second,
    fun first second e h => run_append_of_error h second,
    fun chain => run_known r limit source chain, fun chain hunknown => ?_, fun chain e htime h => ?_⟩
  · rw [Registry.fold_recording, List.nil_append]
    cases r.fold step source chain with
    | ok result => rfl
    | error stop => rfl
  · have hknown : r.known chain = [] :=
      List.filter_eq_nil_iff.2 fun s hs => by simp [hunknown s hs]
    obtain ⟨hrun, hcalls⟩ := run_known r limit source chain
    rw [← hrun, ← hcalls, hknown]
    exact ⟨rfl, rfl⟩
  · obtain ⟨before, s, after, middle, found, failure, hchain, hbefore, hresolve, hcalls, hcall,
      rfl⟩ := exists_failing_call htime h
    refine ⟨isOperation_ascribe found.tag failure, before, s, after, middle, found, failure, hchain,
      hbefore, hresolve, hcalls, hcall, ?_⟩
    exact Error.ascribe_cases found.tag failure

/-- A registry over texts: `a` adds a letter and `x` fails. -/
def sampleRegistry : Registry (Operation String) :=
  .ofList .image [("a", fun b _ => .done (b ++ "a")), ("x", fun _ _ => .failed (.internal "boom"))]

/-- A chain whose first and last specs have handlers, the last one of which fails. -/
def sampleChain : Chain := [⟨"a_1", .empty⟩, ⟨"zz_9", .empty⟩, ⟨"x_2", .empty⟩]

/-- Two letters from two chains, a failure that keeps the chain after it from being begun, a chain
without handlers, and the wording of the failure. -/
theorem run_sequential_sample :
    (run sampleRegistry 5000 ">" [⟨"a", .empty⟩, ⟨"zz_9", .empty⟩] = .ok ">a" ∧
      run sampleRegistry 5000 ">" ([⟨"a", .empty⟩, ⟨"zz_9", .empty⟩] ++ [⟨"a_1", .empty⟩])
        = run sampleRegistry 5000 ">a" [⟨"a_1", .empty⟩]) ∧
    calls sampleRegistry ">" (sampleChain ++ [⟨"a", .empty⟩])
      = calls sampleRegistry ">" sampleChain ∧
    run sampleRegistry 5000 ">" [⟨"zz_9", .empty⟩, ⟨"b", .empty⟩] = .ok ">" ∧
    InTime sampleRegistry ">" sampleChain ∧
    run sampleRegistry 5000 ">" sampleChain
      = .error (.operation "x" "Internal error: boom") ∧
    (Error.operation "x" "Internal error: boom").isOperation = true := by
  have hok : run sampleRegistry 5000 ">" [⟨"a", .empty⟩, ⟨"zz_9", .empty⟩] = .ok ">a" := rfl
  have hfails : run sampleRegistry 5000 ">" sampleChain
      = .error (.operation "x" "Internal error: boom") := rfl
  have hunknown : ∀ s ∈ ([⟨"zz_9", .empty⟩, ⟨"b", .empty⟩] : Chain),
      (sampleRegistry.resolve s).isNone = true := by
    decide +kernel
  have hends : (calls sampleRegistry ">" sampleChain).all fun call =>
      match call.1.handler call.2 call.1.params with
      | .hangs => false
      | _ => true := by
    decide +kernel
  have htime : InTime sampleRegistry ">" sampleChain := by
    intro call hcall hhangs
    have hend := List.all_eq_true.1 hends call hcall
    rw [hhangs] at hend
    cases hend
  obtain ⟨-, happend, habort, -, hnone, herror⟩ := run_sequential sampleRegistry 5000 ">"
  exact ⟨⟨hok, (happend _ [⟨"a_1", .empty⟩] _ hok).1⟩, (habort _ [⟨"a", .empty⟩] _ hfails).2,
    (hnone _ fun s hs => Option.isNone_iff_eq_none.1 (hunknown s hs)).1, htime, hfails,
    (herror _ _ htime hfails).1⟩

end ImageChain

end MediaTransform
