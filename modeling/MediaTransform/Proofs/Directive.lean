import MediaTransform.Proofs.Image.Sequence
import MediaTransform.Video.Operation

/-! # Values spelled in the kind

A kind such as `so_5` names a handler and carries the value of a parameter.

* **`Registry.TakesDirective`** — a key and a raw text that a registry reads in this way.
* **`Spec.plain`** — the same request with the value among its parameters.
* **`Registry.resolve_directive`** — both resolve alike, so that a run cannot tell them apart
  (`fold_replace`, `calls_replace`).
* **`directive_eq_parameter`** — image chains and video plans under either spelling. -/

namespace MediaTransform

/-! ## (1) The two spellings -/

namespace Spec

/-- **A kind that carries a value**: the key and the raw text, with an underscore between them. -/
def directiveKind (key raw : String) : String := key ++ "_" ++ raw

/-- **The plain spelling** of such a kind: the key alone, and the value as its parameter. A
parameter that is there already stays as it is. -/
def plain (key raw : String) (ps : Params) : Spec :=
  ⟨key, if ps.contains key then ps else ps.insert key (coerce raw)⟩

/-- A key without an underscore is what stands before the first one. -/
theorem directive_directiveKind {key raw : String} (hkey : '_' ∉ key.toList) (ps : Params) :
    (Spec.mk (directiveKind key raw) ps).directive = some (key, raw) := by
  have htext : (directiveKind key raw).toList = key.toList ++ '_' :: raw.toList := by
    simp [directiveKind]
  rw [directive, Text.cut?, htext, Text.splitFirst_append hkey, Option.map_some,
    String.ofList_toList, String.ofList_toList]

end Spec

namespace Registry

variable {H : Type} {r : Registry H} {key raw : String}

/-- **A value that a registry finds in the kind**: the key has a handler and no underscore, and the
kind as a whole has no handler of its own, which would come first. -/
structure TakesDirective (r : Registry H) (key raw : String) : Prop where
  unbroken : '_' ∉ key.toList
  registered : r.contains key = true
  unshadowed : r.contains (Spec.directiveKind key raw) = false

theorem TakesDirective.exists_handler (h : r.TakesDirective key raw) :
    ∃ handler, r.handlers.get? key = some handler :=
  Option.isSome_iff_exists.1 h.registered

/-- **A directive is found under its key**, with the value as a default of the parameters. -/
theorem resolve_of_takesDirective (h : r.TakesDirective key raw) {handler : H}
    (hhandler : r.handlers.get? key = some handler) (ps : Params) :
    r.resolve ⟨Spec.directiveKind key raw, ps⟩
      = some ⟨key, handler, ps.withDefault key (coerce raw)⟩ := by
  have hwhole : r.handlers.get? (Spec.directiveKind key raw) = none :=
    Option.not_isSome_iff_eq_none.1 (Bool.eq_false_iff.1 h.unshadowed)
  exact resolve_of_directive hwhole (Spec.directive_directiveKind h.unbroken ps) hhandler

/-- **Both spellings resolve alike**: to one tag, one handler and one list of parameters. -/
theorem resolve_directive (h : r.TakesDirective key raw) (ps : Params) :
    r.resolve ⟨Spec.directiveKind key raw, ps⟩ = r.resolve (Spec.plain key raw ps) := by
  obtain ⟨handler, hhandler⟩ := h.exists_handler
  rw [resolve_of_takesDirective h hhandler, Spec.plain, resolve_of_get? hhandler]
  rfl

/-! ## (2) Runs -/

section Runs

variable {σ ε : Type} {step : Resolved H → σ → Except ε σ} {s t : Spec}

/-- **A run looks at a spec only through its handler**, wherever the spec stands. -/
theorem fold_replace (h : r.resolve s = r.resolve t) (state : σ) (before after : Chain) :
    r.fold step state (before ++ s :: after) = r.fold step state (before ++ t :: after) := by
  have htail : ∀ middle, r.fold step middle (s :: after) = r.fold step middle (t :: after) := by
    intro middle
    simp only [fold, h]
  rw [fold_append, fold_append]
  exact congrArg (r.fold step state before).bind (funext htail)

/-- So do its calls. -/
theorem calls_replace (h : r.resolve s = r.resolve t) (state : σ) (before after : Chain) :
    r.calls step state (before ++ s :: after) = r.calls step state (before ++ t :: after) := by
  cases hbefore : r.fold step state before with
  | error e => rw [calls_append_of_error hbefore, calls_append_of_error hbefore]
  | ok middle =>
    rw [calls_append_of_ok hbefore, calls_append_of_ok hbefore]
    simp only [calls, h]

end Runs

end Registry

/-! ## (3) Image chains and video plans -/

/-- **A value in the kind is a value among the parameters.** In any registry that takes the
directive, the plain spelling may stand in its place anywhere in a chain: an image chain makes the
same calls and has the same result or the same error on every source, and a video chain has the same
plan or the same error. A parameter that is given under the key beats the value in the kind: the
handler gets the parameters as they are. -/
theorem directive_eq_parameter (key raw : String) (ps : Params) (before after : Chain) :
    (∀ {β : Type} (r : Registry (ImageChain.Operation β)) (limit : Nat) (source : β),
      r.TakesDirective key raw →
        ImageChain.run r limit source (before ++ ⟨Spec.directiveKind key raw, ps⟩ :: after)
            = ImageChain.run r limit source (before ++ Spec.plain key raw ps :: after) ∧
          ImageChain.calls r source (before ++ ⟨Spec.directiveKind key raw, ps⟩ :: after)
            = ImageChain.calls r source (before ++ Spec.plain key raw ps :: after)) ∧
      (∀ r : Registry Video.Operation, r.TakesDirective key raw →
        Video.plan r (before ++ ⟨Spec.directiveKind key raw, ps⟩ :: after)
          = Video.plan r (before ++ Spec.plain key raw ps :: after)) ∧
      ∀ {H : Type} (r : Registry H) (v : Value), r.TakesDirective key raw →
        ps.get? key = some v →
          ∃ found, r.resolve ⟨Spec.directiveKind key raw, ps⟩ = some found ∧ found.tag = key ∧
            found.params = ps ∧ found.params.get? key = some v := by
  refine ⟨fun r limit source h => ⟨?_, ?_⟩, fun r h => ?_, fun r v h hv => ?_⟩
  · rw [ImageChain.run, ImageChain.run, Registry.fold_replace (Registry.resolve_directive h ps)]
  · exact Registry.calls_replace (Registry.resolve_directive h ps) source before after
  · exact Registry.fold_replace (Registry.resolve_directive h ps) ({} : Command) before after
  · obtain ⟨handler, hhandler⟩ := h.exists_handler
    have hcontains : ps.contains key = true := by rw [Dictionary.contains, hv]; rfl
    refine ⟨⟨key, handler, ps⟩, ?_, rfl, rfl, hv⟩
    rw [Registry.resolve_of_takesDirective h hhandler, Dictionary.withDefault, if_pos hcontains]

/-- The parameters of a start and a duration. -/
def timingParams : Params := .ofList [("du", .number (.ofNat 10)), ("so", .number (.ofNat 2))]

/-- A value with an underscore of its own in an image chain, which goes well or fails later on, and a
start that is given twice in a video chain: the explicit one counts. -/
theorem directive_eq_parameter_sample :
    ImageChain.sampleRegistry.TakesDirective "a" "1_2" ∧
    (ImageChain.run ImageChain.sampleRegistry 5000 ">"
          ([⟨"a", .empty⟩] ++ ⟨"a_1_2", .empty⟩ :: [])
        = ImageChain.run ImageChain.sampleRegistry 5000 ">"
          ([⟨"a", .empty⟩] ++ ⟨"a", .ofList [("a", .text "1_2")]⟩ :: []) ∧
      ImageChain.run ImageChain.sampleRegistry 5000 ">"
        ([⟨"a", .empty⟩] ++ ⟨"a", .ofList [("a", .text "1_2")]⟩ :: []) = .ok ">aa") ∧
    (ImageChain.run ImageChain.sampleRegistry 5000 ">"
          ([⟨"a", .empty⟩] ++ ⟨"a_1_2", .empty⟩ :: [⟨"x", .empty⟩])
        = ImageChain.run ImageChain.sampleRegistry 5000 ">"
          ([⟨"a", .empty⟩] ++ ⟨"a", .ofList [("a", .text "1_2")]⟩ :: [⟨"x", .empty⟩]) ∧
      ImageChain.run ImageChain.sampleRegistry 5000 ">"
          ([⟨"a", .empty⟩] ++ ⟨"a", .ofList [("a", .text "1_2")]⟩ :: [⟨"x", .empty⟩])
        = .error (.operation "x" "Internal error: boom")) ∧
    (Video.registry {}).TakesDirective "so" "5" ∧
    (Video.plan (Video.registry {}) ([] ++ ⟨"so_5", timingParams⟩ :: [⟨"eo_9", .empty⟩])
        = Video.plan (Video.registry {}) ([] ++ ⟨"so", timingParams⟩ :: [⟨"eo_9", .empty⟩]) ∧
      Video.plan (Video.registry {}) ([] ++ ⟨"so", timingParams⟩ :: [⟨"eo_9", .empty⟩])
        = .ok { seek := some (.ofNat 2), duration := some (.ofNat 7) }) ∧
    (∃ found, (Video.registry {}).resolve ⟨"so_5", timingParams⟩ = some found ∧
      found.params.get? "so" = some (.number (.ofNat 2))) := by
  have himage : ImageChain.sampleRegistry.TakesDirective "a" "1_2" :=
    ⟨by decide, by decide +kernel, by decide +kernel⟩
  have hvideo : (Video.registry {}).TakesDirective "so" "5" :=
    ⟨by decide, by decide +kernel, by decide +kernel⟩
  have hstart : timingParams.get? "so" = some (.number (.ofNat 2)) := by decide +kernel
  have hgiven : Spec.plain "so" "5" timingParams = ⟨"so", timingParams⟩ := by decide +kernel
  have hadded : Spec.plain "a" "1_2" .empty = ⟨"a", .ofList [("a", .text "1_2")]⟩ := by
    decide +kernel
  have hplanned : Video.plan (Video.registry {})
      ([] ++ ⟨"so", timingParams⟩ :: [⟨"eo_9", .empty⟩])
        = .ok { seek := some (.ofNat 2), duration := some (.ofNat 7) } := by
    have hcommand : (Video.plan (Video.registry {})
        ([] ++ ⟨"so", timingParams⟩ :: [⟨"eo_9", .empty⟩])).toOption
          = some { seek := some (.ofNat 2), duration := some (.ofNat 7) } := by decide +kernel
    generalize Video.plan (Video.registry {}) _ = plan at hcommand ⊢
    cases plan with
    | error e => cases hcommand
    | ok command => exact congrArg Except.ok (Option.some.inj hcommand)
  have hrun (after : Chain) :=
    (directive_eq_parameter "a" "1_2" .empty [⟨"a", .empty⟩] after).1 ImageChain.sampleRegistry
      5000 ">" himage
  rw [hadded] at hrun
  obtain ⟨-, hplan, hexplicit⟩ :=
    directive_eq_parameter "so" "5" timingParams [] [⟨"eo_9", .empty⟩]
  obtain ⟨found, hfound, -, -, hvalue⟩ := hexplicit (Video.registry {}) _ hvideo hstart
  refine ⟨himage, ⟨(hrun []).1, rfl⟩, ⟨(hrun [⟨"x", .empty⟩]).1, rfl⟩, hvideo, ⟨?_, hplanned⟩, found,
    hfound, hvalue⟩
  rw [← hgiven]
  exact hplan (Video.registry {}) hvideo

end MediaTransform
