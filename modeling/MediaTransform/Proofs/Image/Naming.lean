import MediaTransform.Proofs.Failure
import MediaTransform.Proofs.Image.Tasks

/-! # The name under which a chain fails

Each operation words its errors itself, and a chain passes them on:

* **`Image.failureTag`** — the tag that an operation puts into its errors: the one that it is
  registered under, but for the short tag of quality.
* **`Image.failsAs_reading`**, **`IsTaskOf.failsAs`** — an operation uses no other name, neither
  while it reads its parameters nor while it works.
* **`Image.failure_named`** — so the error of a chain names the operation that was found for the
  first spec that fails, except under the short tag of quality (`not_named_shortQuality`). -/

namespace MediaTransform

/-! ## (1) Decoding and encoding -/

namespace Buffer

variable (op : String)

theorem failsAs_decode (b : Buffer) : FailsAs op (b.decode op) := by
  unfold decode
  split
  · split
    · exact .error ⟨_, rfl⟩
    · split
      · exact .ok _
      · exact .error ⟨_, rfl⟩
  · split
    · exact .ok _
    · exact .error ⟨_, rfl⟩

theorem failsAs_encodeJpeg (p : Picture) (quality : Nat) : FailsAs op (encodeJpeg op p quality) :=
  .ite (.ok _) (.error ⟨_, rfl⟩)

theorem failsAs_encode (p : Picture) (format : ImageFormat) : FailsAs op (encode op p format) :=
  .ite (failsAs_encodeJpeg op p _) (.ite (.ok _) (.ok _))

end Buffer

namespace Image

/-! ## (2) Work -/

section Work

variable {op : String} {b : Buffer}

theorem failsAs_checkOutputSize (op : String) (w h limit : Nat) :
    FailsAs op (checkOutputSize op w h limit) :=
  .ite (.error ⟨_, rfl⟩) (.ok _)

/-- **A change of pictures fails in the name under which it is decoded and encoded**, if it has no
other name of its own. -/
theorem failsAs_transform {change : Picture → Except Error Picture}
    (hchange : ∀ p, FailsAs op (change p)) (b : Buffer) :
    FailsAs op ((transform op change).apply b) :=
  .bind (Buffer.failsAs_decode op b) fun d =>
    .bind (hchange d.picture) fun p => Buffer.failsAs_encode op p d.format

theorem failsAs_cropChange (x y w h : Nat) (p : Picture) :
    FailsAs "c_crop" (cropChange x y w h p) :=
  .ite (.ok _) (.error ⟨_, rfl⟩)

theorem failsAs_fitWithin (op : String) (limit w h : Nat) (p : Picture) :
    FailsAs op (fitWithin op limit w h p) :=
  .bind (failsAs_checkOutputSize op _ _ limit) fun _ => .ok _

theorem failsAs_jpegWork (level : Nat) (b : Buffer) : FailsAs "q_auto" (jpegWork level b) :=
  .bind (Buffer.failsAs_decode "q_auto" b) fun d =>
    Buffer.failsAs_encodeJpeg "q_auto" d.picture level

theorem failsAs_maskWork (low high : Number) (b : Buffer) :
    FailsAs removalTag (maskWork low high b) := by
  refine .bind (Buffer.failsAs_decode removalTag b) fun d => ?_
  split
  · exact .ok _
  · exact .error ⟨_, rfl⟩

end Work

/-! ## (3) Parameters -/

section Reading

variable (ps : Params) (limit : Nat)

theorem failsAs_fill (op : String) : FailsAs op (fill op limit ps) :=
  .bind (ps.failsAs_requireDimension op "w") fun w =>
    .bind (ps.failsAs_requireDimension op "h") fun h =>
      .bind (failsAs_checkOutputSize op w h limit) fun _ => .ok _

theorem failsAs_crop : FailsAs "c_crop" (crop ps) :=
  .bind (ps.failsAs_requireDimension "c_crop" "w") fun _ =>
    .bind (ps.failsAs_requireDimension "c_crop" "h") fun _ =>
      .bind (ps.failsAs_requireOffset "c_crop" "x") fun _ =>
        .bind (ps.failsAs_requireOffset "c_crop" "y") fun _ => .ok _

theorem failsAs_pad : FailsAs "c_pad" (pad limit ps) :=
  .bind (ps.failsAs_requireDimension "c_pad" "w") fun w =>
    .bind (ps.failsAs_requireDimension "c_pad" "h") fun h =>
      .bind (failsAs_checkOutputSize "c_pad" w h limit) fun _ => .ok _

theorem failsAs_scale : FailsAs "c_scale" (scale limit ps) := by
  refine .bind (ps.failsAs_dimension "c_scale" "w") fun w =>
    .bind (ps.failsAs_dimension "c_scale" "h") fun h => ?_
  dsimp only
  split
  · exact .error ⟨_, rfl⟩
  · exact .ok _

theorem failsAs_fit : FailsAs "c_fit" (fit limit ps) :=
  .bind (ps.failsAs_requireDimension "c_fit" "w") fun _ =>
    .bind (ps.failsAs_requireDimension "c_fit" "h") fun _ => .ok _

theorem failsAs_reshape : FailsAs "ar" (reshape limit ps) := by
  have hratio : FailsAs "ar" (Video.requireRatio ps) :=
    (ps.failsAs_requireNumber "ar" "ar").checked fun _ => ⟨_, rfl⟩
  refine .bind hratio fun ratio => .bind (ps.failsAs_dimension "ar" "w") fun w =>
    .bind (ps.failsAs_dimension "ar" "h") fun h => ?_
  split
  · exact .ok _
  · exact .bind (failsAs_checkOutputSize "ar" _ _ limit) fun _ => .ok _

theorem failsAs_removeBackground : FailsAs removalTag (removeBackground ps) := by
  unfold removeBackground
  dsimp only
  split
  · exact .error ⟨_, rfl⟩
  · exact .ok _

end Reading

/-! ## (4) Operations under their tags -/

/-- **The tag that an operation puts into its errors.** Quality has one operation for two tags, which
knows the longer one only. -/
def failureTag (tag : String) : String := if tag = "q" then "q_auto" else tag

theorem failureTag_of_ne {tag : String} (h : tag ≠ "q") : failureTag tag = tag := if_neg h

theorem failureTag_eq_self_iff {tag : String} : failureTag tag = tag ↔ tag ≠ "q" := by
  refine ⟨?_, failureTag_of_ne⟩
  rintro h rfl
  exact absurd h (by decide)

theorem failureTag_of_mem_qualityTags {tag : String} (h : tag ∈ qualityTags) :
    failureTag tag = "q_auto" :=
  (by decide : ∀ tag ∈ qualityTags, failureTag tag = "q_auto") tag h

section Operations

variable {config : Config.Pipeline} {tag : String} {o : Operation} {ps : Params} {t : Task}

/-- **The parameters of an operation are read in its name.** -/
theorem failsAs_reading (h : (tag, o) ∈ operations config) (ps : Params) :
    FailsAs (failureTag tag) (o ps) := by
  simp only [operations, List.mem_cons, Prod.mk.injEq, List.not_mem_nil, or_false] at h
  rcases h with ⟨rfl, rfl⟩ | ⟨rfl, rfl⟩ | ⟨rfl, rfl⟩ | ⟨rfl, rfl⟩ | ⟨rfl, rfl⟩ | ⟨rfl, rfl⟩ |
    ⟨rfl, rfl⟩ | ⟨rfl, rfl⟩ | ⟨rfl, rfl⟩ | ⟨rfl, rfl⟩ | ⟨rfl, rfl⟩ | ⟨rfl, rfl⟩
  · exact failsAs_fill ps _ "c_fill"
  · exact failsAs_fill ps _ "c_thumb"
  · exact failsAs_fill ps _ "g_auto"
  · exact failsAs_crop ps
  · exact failsAs_pad ps _
  · exact failsAs_scale ps _
  · exact failsAs_fit ps _
  · exact .ok _
  · exact failsAs_reshape ps _
  · exact .ok _
  · exact .ok _
  · exact failsAs_removeBackground ps

/-- **The work of a task is done in its name.** -/
theorem IsTaskOf.failsAs (h : IsTaskOf config tag ps t) (b : Buffer) :
    FailsAs (failureTag tag) (t.apply b) := by
  cases h with
  | fill htag =>
    rw [failureTag_of_ne (by rintro rfl; exact absurd htag (by decide))]
    exact failsAs_transform (fun _ => .ok _) b
  | crop x y htag =>
    subst htag
    exact failsAs_transform (failsAs_cropChange x y _ _) b
  | pad colour htag =>
    subst htag
    exact failsAs_transform (fun _ => .ok _) b
  | fit htag =>
    rw [failureTag_of_ne (by rintro rfl; exact absurd htag (by decide))]
    exact failsAs_transform (failsAs_fitWithin _ _ _ _) b
  | flatten colour htag =>
    subst htag
    exact failsAs_transform (fun _ => .ok _) b
  | reshape htag =>
    subst htag
    exact failsAs_transform (fun _ => .ok _) b
  | keep => exact .ok b
  | quality htag =>
    rw [failureTag_of_mem_qualityTags htag]
    exact failsAs_jpegWork _ b
  | removeBackground htag =>
    subst htag
    exact failsAs_maskWork _ _ b

/-- **Whatever an operation fails at, it fails in its name.** -/
theorem failsAs_apply (h : (tag, o) ∈ operations config) (ps : Params) (b : Buffer) :
    FailsAs (failureTag tag) (o.apply b ps) := by
  intro e he
  cases ht : o ps with
  | error e' =>
    rw [Operation.apply, ht] at he
    cases he
    exact failsAs_reading h ps _ ht
  | ok t =>
    rw [Operation.apply, ht] at he
    exact (isTaskOf h ht).failsAs b e he

/-! ## (5) Chains -/

/-- A handler that fails does so as its operation does. -/
theorem apply_of_attempt {instantly : Bool} {b : Buffer} {e : Error}
    (h : attempt instantly o b ps = .failed e) : o.apply b ps = .error e := by
  unfold attempt at h
  unfold Operation.apply
  cases ht : o ps with
  | error e' =>
    rw [ht] at h
    cases h
    rfl
  | ok t =>
    rw [ht] at h
    cases t with
    | keep => cases h
    | work f =>
      -- work that is not cut off has the result of its function
      dsimp only at h
      split at h
      · cases h
      · show f b = .error e
        cases hf : f b with
        | ok next =>
          rw [hf] at h
          cases h
        | error e' =>
          rw [hf] at h
          cases h
          rfl

/-- **The error of a handler that is found is in the name of its operation.** -/
theorem isOf_of_handler {s : Spec} {found : Resolved (ImageChain.Operation Buffer)} {b : Buffer}
    {e : Error} (hfound : (registry config).resolve s = some found)
    (h : found.handler b found.params = .failed e) : e.IsOf (failureTag found.tag) := by
  obtain ⟨o, ho, hhandler⟩ := exists_operation_of_resolve hfound
  rw [hhandler] at h
  exact failsAs_apply ho found.params b e (apply_of_attempt h)

/-- **A failing chain names the operation that failed.** Where a chain fails for another reason than
its time limit, there is a first spec that fails: the specs before it go well, a handler is found for
it under a tag, and the error of the chain is the very error of this handler. It names an operation,
and this is the tag that was found; only for the short tag `q` of quality it is `q_auto`. -/
theorem failure_named {source : Buffer} {chain : Chain} {e : Error}
    (h : run config source chain = .error e)
    (htime : e ≠ ImageChain.overtimeError (1000 * config.imageTimeoutSecs)) :
    ∃ before s after middle found, chain = before ++ s :: after ∧
      run config source before = .ok middle ∧ (registry config).resolve s = some found ∧
      found.handler middle found.params = .failed e ∧
      (∃ reason, e = .operation (if found.tag = "q" then "q_auto" else found.tag) reason) ∧
      ((∃ reason, e = .operation found.tag reason) ↔ found.tag ≠ "q") := by
  obtain ⟨stop, hfold, hstop⟩ := ImageChain.run_eq_error_iff.1 h
  obtain ⟨before, s, after, middle, found, rfl, hbefore, hfound, hstep⟩ :=
    Registry.fold_eq_error_iff.1 hfold
  -- a call that does not end is what the time limit is for
  have hends : found.handler middle found.params ≠ .hangs := by
    intro hhangs
    rw [ImageChain.step, hhangs] at hstep
    cases hstep
    exact htime hstop
  obtain ⟨failure, hfailure, rfl⟩ := ImageChain.exists_failure_of_step hends hstep
  have hname := isOf_of_handler hfound hfailure
  -- the failure has a name, so that the chain passes it on as it is
  have heq : e = failure := by
    rw [hstop, ImageChain.Stop.error, hname.ascribe_eq]
  subst heq
  refine ⟨before, s, after, middle, found, rfl, ImageChain.run_eq_ok_iff.2 hbefore, hfound,
    hfailure, hname, fun hown => ?_, fun hne => ?_⟩
  · exact failureTag_eq_self_iff.1 (hname.unique hown)
  · rwa [failureTag_of_ne hne] at hname

end Operations

/-- A picture that a thumbnail without a height is asked of, after a spec that goes well and one that
is skipped. -/
def heightlessChain : Chain :=
  [⟨"b_auto", .empty⟩, ⟨"zz_9", .empty⟩, ⟨"c_thumb", .ofList [("w", .number (.ofNat 5))]⟩,
    ⟨"q_5", .empty⟩]

/-- A picture of one dot. -/
def dot : Picture := ⟨.rgba8, Grid.replicate 1 1 ⟨16, 32, 48, 255⟩⟩

/-- The third spec of four is the first one that fails, under a tag that shares its operation. -/
theorem failure_named_thumbnail :
    run {} (Buffer.encodePng dot) heightlessChain
        = .error (.operation "c_thumb" "missing required parameter 'h'") ∧
      ∃ before s after middle found, heightlessChain = before ++ s :: after ∧
        run {} (Buffer.encodePng dot) before = .ok middle ∧
        (registry {}).resolve s = some found ∧ found.tag = "c_thumb" ∧
        found.handler middle found.params
          = .failed (.operation "c_thumb" "missing required parameter 'h'") := by
  have hfails : run {} (Buffer.encodePng dot) heightlessChain
      = .error (.operation "c_thumb" "missing required parameter 'h'") := rfl
  obtain ⟨before, s, after, middle, found, hchain, hbefore, hfound, hhandler, ⟨reason, hname⟩, -⟩ :=
    failure_named hfails (by decide)
  have htag : found.tag = "c_thumb" := by
    obtain ⟨htag, -⟩ := Error.operation.inj hname
    split at htag
    · exact absurd htag (by decide)
    · exact htag.symm
  exact ⟨hfails, before, s, after, middle, found, hchain, hbefore, hfound, htag, hhandler⟩

/-- Contents that are no picture. -/
def noPicture : Buffer := .bytes (Bytes.ofText "not an image")

theorem decode_noPicture (op : String) :
    noPicture.decode op = .error (.operation op "unrecognised image data: no known signature") := by
  have hunknown : ImageFormat.recognise (Bytes.ofText "not an image") = none := by decide +kernel
  rw [noPicture, Buffer.decode, hunknown]

/-- **The short tag of quality is not named.** A quality in the kind is found under `q`; where the
contents cannot be decoded, the error of the chain names `q_auto`. -/
theorem not_named_shortQuality :
    ((registry {}).resolve ⟨"q_5", .empty⟩).map (·.tag) = some "q" ∧
      run {} noPicture [⟨"q_5", .empty⟩]
        = .error (.operation "q_auto" "unrecognised image data: no known signature") ∧
      ¬∃ reason, run {} noPicture [⟨"q_5", .empty⟩] = .error (.operation "q" reason) := by
  have hfound : (registry {}).resolve ⟨"q_5", .empty⟩
      = some ⟨"q", attempt false (quality 80), .ofList [("q", .number (.ofNat 5))]⟩ := rfl
  have hquality : ("q", quality 80) ∈ operations {} := by
    simp [operations]
  have hwork (level : Nat) : jpegWork level noPicture
      = .error (.operation "q_auto" "unrecognised image data: no known signature") := by
    show (noPicture.decode "q_auto").bind _ = _
    rw [decode_noPicture]
    rfl
  have hfails : run {} noPicture [⟨"q_5", .empty⟩]
      = .error (.operation "q_auto" "unrecognised image data: no known signature") := by
    rw [run_cons (by decide) hfound hquality]
    show ((jpegWork _ noPicture).mapError _).bind _ = _
    rw [hwork]
    rfl
  refine ⟨rfl, hfails, ?_⟩
  rintro ⟨reason, hreason⟩
  rw [hfails, Except.error.injEq, Error.operation.injEq] at hreason
  exact absurd hreason.1 (by decide)

end Image

end MediaTransform
