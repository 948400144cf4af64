import MediaTransform.Proofs.Dictionary
import MediaTransform.Proofs.Registry
import MediaTransform.Proofs.Text.Cut

/-! # Registering handlers one after the other

* **`Registry.Takes`** — the specs that a registration takes over: those of its tag as a whole, and
  those of an unregistered kind that begins with its tag.
* **`Registry.resolve_register_of_not_takes`** — all other specs resolve as before; those that are
  taken over resolve to the new handler.
* **`Registry.registerAll`** — what calls of `register` lead to; `resolve_registerAll` and
  `isSome_resolve_registerAll` say what a run of them leaves alone.
* **`Registry.register_disturbs_nothing_else`** — both for every registry that calls lead to, with
  the handlers that calls return and the tags that are listed. -/

namespace MediaTransform

namespace Registry

variable {H : Type} {r : Registry H} {tag key raw : String} {handler : H} {s : Spec}

/-! ## (1) One call -/

theorem get?_register (r : Registry H) (tag : String) (handler : H) (other : String) :
    (r.register tag handler).handlers.get? other =
      if other = tag then some handler else r.handlers.get? other :=
  Dictionary.get?_insert r.handlers tag other handler

theorem contains_register (r : Registry H) (tag : String) (handler : H) (other : String) :
    (r.register tag handler).contains other = (decide (other = tag) || r.contains other) := by
  rw [contains, Dictionary.contains, get?_register]
  split
  · next h => simp [h]
  · next h => simp [h, contains, Dictionary.contains]

/-- The key of a kind is shorter than the kind. -/
theorem kind_ne_of_directive (h : s.directive = some (key, raw)) : s.kind ≠ key := by
  intro hkind
  obtain ⟨hcut, hkey⟩ := Text.cut?_eq_some_iff.1 h
  -- the kind has an underscore after the key, which has none
  apply hkey
  rw [← hkind, hcut]
  simp

/-- **The specs that a registration takes over**: those of its tag as a whole, and those of an
unregistered kind whose text before the first underscore is its tag. -/
def Takes (r : Registry H) (tag : String) (s : Spec) : Prop :=
  s.kind = tag ∨ (r.contains s.kind = false ∧ ∃ raw, s.directive = some (tag, raw))

/-- **A spec that is not taken over resolves as before**, to the same handler or to none. -/
theorem resolve_register_of_not_takes (h : ¬r.Takes tag s) (handler : H) :
    (r.register tag handler).resolve s = r.resolve s := by
  have hkind : s.kind ≠ tag := fun hkind => h (.inl hkind)
  unfold resolve
  rw [get?_register, if_neg hkind]
  cases hwhole : r.handlers.get? s.kind with
  | some found => rfl
  | none =>
    cases hdirective : s.directive with
    | none => rfl
    | some p =>
      obtain ⟨key, raw⟩ := p
      have hcontains : r.contains s.kind = false := by
        rw [contains, Dictionary.contains, hwhole]
        rfl
      have hkey : key ≠ tag := by
        rintro rfl
        exact h (.inr ⟨hcontains, raw, hdirective⟩)
      dsimp only
      rw [get?_register, if_neg hkey]

/-- **A spec of the tag as a whole gets the new handler**, with its own parameters. -/
theorem resolve_register_of_kind (r : Registry H) (handler : H) (h : s.kind = tag) :
    (r.register tag handler).resolve s = some ⟨tag, handler, s.params⟩ := by
  obtain ⟨kind, ps⟩ := s
  cases h
  refine resolve_of_get? ?_ ps
  rw [get?_register, if_pos rfl]

/-- **A spec of an unregistered kind that begins with the tag gets the new handler**, with the text
after the underscore as a default. -/
theorem resolve_register_of_directive (hwhole : r.contains s.kind = false)
    (h : s.directive = some (tag, raw)) (handler : H) :
    (r.register tag handler).resolve s =
      some ⟨tag, handler, s.params.withDefault tag (coerce raw)⟩ := by
  have hnone : r.handlers.get? s.kind = none :=
    Option.not_isSome_iff_eq_none.1 (Bool.eq_false_iff.1 hwhole)
  refine resolve_of_directive ?_ h ?_
  · rw [get?_register, if_neg (kind_ne_of_directive h), hnone]
  · rw [get?_register, if_pos rfl]

/-- **A registration leaves no spec without a handler that had one.** -/
theorem isSome_resolve_register (tag : String) (handler : H)
    (h : (r.resolve s).isSome = true) : ((r.register tag handler).resolve s).isSome = true := by
  by_cases htakes : r.Takes tag s
  · rcases htakes with hkind | ⟨hwhole, raw, hdirective⟩
    · rw [resolve_register_of_kind r handler hkind]
      rfl
    · rw [resolve_register_of_directive hwhole hdirective handler]
      rfl
  · rwa [resolve_register_of_not_takes htakes]

/-! ## (2) Runs of calls -/

/-- **What calls of `register` lead to**, in their order. -/
def registerAll (r : Registry H) (calls : List (String × H)) : Registry H :=
  calls.foldl (fun r call => r.register call.1 call.2) r

theorem registerAll_append (r : Registry H) (calls later : List (String × H)) :
    r.registerAll (calls ++ later) = (r.registerAll calls).registerAll later :=
  List.foldl_append

theorem handlers_registerAll (r : Registry H) (calls : List (String × H)) :
    (r.registerAll calls).handlers =
      calls.foldl (fun d call => d.insert call.1 call.2) r.handlers := by
  induction calls generalizing r with
  | nil => rfl
  | cons call calls ih => exact ih (r.register call.1 call.2)

/-- A call that does not take a spec over changes nothing about who will. -/
theorem takes_register_iff (h : ¬r.Takes tag s) (handler : H) (other : String) :
    (r.register tag handler).Takes other s ↔ r.Takes other s := by
  have hkind : s.kind ≠ tag := fun hkind => h (.inl hkind)
  rw [Takes, Takes, contains_register, decide_eq_false hkind, Bool.false_or]

/-- **Calls that do not take a spec over leave it as it is**, however many they are. -/
theorem resolve_registerAll {calls : List (String × H)} (h : ∀ call ∈ calls, ¬r.Takes call.1 s) :
    (r.registerAll calls).resolve s = r.resolve s := by
  induction calls generalizing r with
  | nil => rfl
  | cons call calls ih =>
    obtain ⟨hcall, hcalls⟩ := List.forall_mem_cons.1 h
    -- who takes the spec over is not decided anew by the first call
    have hlater : ∀ later ∈ calls, ¬(r.register call.1 call.2).Takes later.1 s := by
      intro later hlater
      rw [takes_register_iff hcall]
      exact hcalls later hlater
    exact (ih hlater).trans (resolve_register_of_not_takes hcall call.2)

/-- **A spec that has a handler keeps one** through all later calls. -/
theorem isSome_resolve_registerAll (calls : List (String × H))
    (h : (r.resolve s).isSome = true) : ((r.registerAll calls).resolve s).isSome = true := by
  induction calls generalizing r with
  | nil => exact h
  | cons call calls ih => exact ih (isSome_resolve_register call.1 call.2 h)

/-! ## (3) From the empty registry -/

/-- **The handler under a tag is that of the last call for it.** -/
theorem replaced_registerAll (domain : Domain) (calls : List (String × H)) (tag : String) :
    ((empty domain).registerAll calls).replaced tag = Dictionary.lastValue? tag calls := by
  rw [replaced, handlers_registerAll]
  exact Dictionary.get?_ofList calls tag

theorem pairwise_tags (r : Registry H) : r.tags.Pairwise (· < ·) :=
  List.pairwise_map.2 r.handlers.increasing

/-- **The tags are what sorting gives**, in whatever order the handlers are listed. -/
theorem mergeSort_eq_tags {listed : List String} (h : listed.Perm r.tags) :
    listed.mergeSort (fun a b => decide (a ≤ b)) = r.tags := by
  have hsorted : (listed.mergeSort fun a b => decide (a ≤ b)).Pairwise
      (fun a b => decide (a ≤ b) = true) := by
    apply List.pairwise_mergeSort
    · intro a b c hab hbc
      exact decide_eq_true (String.le_trans (of_decide_eq_true hab) (of_decide_eq_true hbc))
    · intro a b
      simpa using String.le_total a b
  have htags : r.tags.Pairwise (fun a b => decide (a ≤ b) = true) :=
    (pairwise_tags r).imp fun hlt => decide_eq_true (String.not_lt.1 (String.lt_asymm hlt))
  refine List.Perm.eq_of_pairwise (fun a b _ _ hab hba => ?_) hsorted htags
    ((List.mergeSort_perm _ _).trans h)
  exact String.le_antisymm (of_decide_eq_true hab) (of_decide_eq_true hba)

/-- **The tags are those of the calls.** -/
theorem mem_tags_registerAll_iff {domain : Domain} {calls : List (String × H)} :
    tag ∈ ((empty domain).registerAll calls).tags ↔ ∃ handler, (tag, handler) ∈ calls := by
  rw [tags, Dictionary.keys, Dictionary.mem_keys_iff, ← Dictionary.isSome_lastValue?_iff,
    ← replaced_registerAll domain]
  rfl

/-- **Registering disturbs nothing else.** After any calls, one more call leaves all specs as they
are that it does not take over; what it takes over resolves to the new handler, with the parameters
of the spec or with the text after the underscore added to them where there is no such parameter yet.
The same holds for any number of calls that do not take a spec over, and no calls leave a spec
without a handler that has one. A call returns the handler of the last call for its tag, and the tags
of the calls are listed in increasing order, which is what sorting makes of them in any order. -/
theorem register_disturbs_nothing_else (domain : Domain) (calls : List (String × H)) (tag : String)
    (handler : H) (s : Spec) :
    let r := (empty domain).registerAll calls
    (¬r.Takes tag s → (r.register tag handler).resolve s = r.resolve s) ∧
      (s.kind = tag → (r.register tag handler).resolve s = some ⟨tag, handler, s.params⟩) ∧
      (r.contains s.kind = false → ∀ raw, s.directive = some (tag, raw) →
        ∃ ps, (r.register tag handler).resolve s = some ⟨tag, handler, ps⟩ ∧
          ∀ key, ps.get? key =
            if key = tag then (s.params.get? tag).or (some (coerce raw)) else s.params.get? key) ∧
      (∀ later, (∀ call ∈ later, ¬r.Takes call.1 s) →
        ((empty domain).registerAll (calls ++ later)).resolve s = r.resolve s) ∧
      ((r.resolve s).isSome = true → ∀ later,
        (((empty domain).registerAll (calls ++ later)).resolve s).isSome = true) ∧
      r.replaced tag = Dictionary.lastValue? tag calls ∧
      r.tags.Pairwise (· < ·) ∧ (∀ t, t ∈ r.tags ↔ ∃ registered, (t, registered) ∈ calls) ∧
      ∀ listed : List String, listed.Perm r.tags →
        listed.mergeSort (fun a b => decide (a ≤ b)) = r.tags := by
  intro r
  refine ⟨?_, ?_, ?_, ?_, ?_, replaced_registerAll domain calls tag, pairwise_tags r,
    fun t => mem_tags_registerAll_iff, fun listed => mergeSort_eq_tags⟩
  · intro h
    exact resolve_register_of_not_takes h handler
  · intro h
    exact resolve_register_of_kind r handler h
  · intro hwhole raw hdirective
    exact ⟨_, resolve_register_of_directive hwhole hdirective handler,
      fun key => s.params.get?_withDefault tag key (coerce raw)⟩
  · intro later h
    rw [registerAll_append]
    exact resolve_registerAll h
  · intro h later
    rw [registerAll_append]
    exact isSome_resolve_registerAll later h

/-- Three handlers of a small registry. -/
def sampleCalls : List (String × String) := [("so", "start"), ("c_fill", "fill"), ("so", "timing")]

/-- A kind of its own takes specs over from a shorter tag, a new key picks specs up that had no
handler, and a tag that begins like a registered kind changes nothing about it. -/
theorem register_disturbs_nothing_else_sample :
    (((empty .video).registerAll sampleCalls).register "so_5" "five").resolve ⟨"so_5", .empty⟩
        = some ⟨"so_5", "five", .empty⟩ ∧
      (∃ ps, (((empty .video).registerAll sampleCalls).register "e" "effect").resolve
          ⟨"e_sepia", .empty⟩ = some ⟨"e", "effect", ps⟩ ∧ ps.get? "e" = some (.text "sepia")) ∧
      (((empty .video).registerAll sampleCalls).register "c" "crop").resolve ⟨"c_fill", .empty⟩
        = ((empty .video).registerAll sampleCalls).resolve ⟨"c_fill", .empty⟩ ∧
      ((empty .video).registerAll sampleCalls).replaced "so" = some "timing" := by
  have hwhole : ((empty .video).registerAll sampleCalls).contains "e_sepia" = false := by
    decide +kernel
  have hcrop : ¬((empty .video).registerAll sampleCalls).Takes "c" ⟨"c_fill", .empty⟩ := by
    have hregistered : ((empty .video).registerAll sampleCalls).contains "c_fill" = true := by
      decide +kernel
    rintro (hkind | ⟨hwhole, -⟩)
    · exact absurd hkind (by decide)
    · exact absurd hwhole (by rw [hregistered]; decide)
  obtain ⟨-, hkind, -⟩ :=
    register_disturbs_nothing_else .video sampleCalls "so_5" "five" ⟨"so_5", .empty⟩
  obtain ⟨-, -, hkey, -⟩ :=
    register_disturbs_nothing_else .video sampleCalls "e" "effect" ⟨"e_sepia", .empty⟩
  obtain ⟨hframe, -⟩ :=
    register_disturbs_nothing_else .video sampleCalls "c" "crop" ⟨"c_fill", .empty⟩
  obtain ⟨-, -, -, -, -, hreplaced, -⟩ :=
    register_disturbs_nothing_else .video sampleCalls "so" "again" ⟨"so", .empty⟩
  obtain ⟨ps, hresolve, hps⟩ := hkey hwhole "sepia" (by decide +kernel)
  have hcoerced : coerce "sepia" = .text "sepia" := by decide +kernel
  refine ⟨hkind rfl, ⟨ps, hresolve, ?_⟩, hframe hcrop, ?_⟩
  · rw [hps "e", if_pos rfl, hcoerced]
    rfl
  · rw [hreplaced]
    decide

end Registry

end MediaTransform
