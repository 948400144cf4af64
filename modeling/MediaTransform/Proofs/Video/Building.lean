import Mathlib.Data.List.Nodup
import MediaTransform.Proofs.Dictionary
import MediaTransform.Video.Command

/-! # Commands built by calls

A command is a record that calls fill in, each its own field:

* **`Command.KeepsLast`** — options that settings lead to: one for each flag, in the order in which
  the flags were first set, with the value that was set last; `keepsLast_setAll` has it for any
  settings.
* **`Command.Call`** — a call of one of the updates of a command, and **`Call.field`** the field
  that it fills in; `sameIn_apply` says that it leaves the others alone.
* **`Command.build`** — the command that calls lead to from the empty one; `foldl_apply` reads its
  fields off the calls.
* **`Command.build_accumulates`** — so only the order of the calls for each field counts. -/

namespace MediaTransform

namespace Command

/-! ## (1) Options -/

section Options

variable {flag value : String} {settings options : List (String × String)} {o : String × String}

/-- **Setting a flag adds it at the end**, unless it is there already. -/
theorem flags_setOption (flag value : String) (options : List (String × String)) :
    (setOption flag value options).map (·.1) =
      if flag ∈ options.map (·.1) then options.map (·.1) else options.map (·.1) ++ [flag] := by
  induction options with
  | nil => rfl
  | cons o options ih =>
    rw [setOption]
    by_cases hflag : o.1 = flag
    · simp [hflag]
    · simp only [if_neg hflag, List.map_cons, ih, List.mem_cons, Ne.symm hflag, false_or]
      split <;> rfl

/-- **Setting a flag changes no option of another one**, and leaves no earlier value of its own. -/
theorem eq_or_mem_of_mem_setOption (hdistinct : (options.map (·.1)).Nodup)
    (h : o ∈ setOption flag value options) : o = (flag, value) ∨ o ∈ options ∧ o.1 ≠ flag := by
  induction options with
  | nil => exact .inl (List.mem_singleton.1 h)
  | cons first options ih =>
    obtain ⟨hnew, hrest⟩ := List.nodup_cons.1 hdistinct
    rw [setOption] at h
    by_cases hflag : first.1 = flag
    · rw [if_pos hflag] at h
      rcases List.mem_cons.1 h with rfl | hmem
      · exact .inl (by rw [hflag])
      · -- the flag stands at the front, and nowhere after it
        refine .inr ⟨List.mem_cons_of_mem _ hmem, fun heq => hnew ?_⟩
        exact List.mem_map.2 ⟨o, hmem, heq.trans hflag.symm⟩
    · rw [if_neg hflag] at h
      rcases List.mem_cons.1 h with rfl | hmem
      · exact .inr ⟨List.mem_cons_self, hflag⟩
      · exact (ih hrest hmem).imp_right fun hold => ⟨List.mem_cons_of_mem _ hold.1, hold.2⟩

/-- **Options keep what settings say last**: there is one for each flag that was set, in the order
in which the flags were first set, with the value that was set last. -/
structure KeepsLast (settings options : List (String × String)) : Prop where
  distinct : (options.map (·.1)).Nodup
  flags : ∀ flag, flag ∈ options.map (·.1) ↔ flag ∈ settings.map (·.1)
  ordered : (options.map (·.1)).Pairwise fun f g =>
    (settings.map (·.1)).idxOf f < (settings.map (·.1)).idxOf g
  last : ∀ o ∈ options, Dictionary.lastValue? o.1 settings = some o.2

/-- One more setting. -/
theorem KeepsLast.setOption (h : KeepsLast settings options) (o : String × String) :
    KeepsLast (settings ++ [o]) (setOption o.1 o.2 options) where
  distinct := by
    rw [flags_setOption]
    split
    · exact h.distinct
    · rename_i hnew
      rw [← List.concat_eq_append]
      exact h.distinct.concat hnew
  flags flag := by
    rw [flags_setOption, List.map_append, List.mem_append, ← h.flags]
    split
    · rename_i hold
      refine ⟨.inl, fun hmem => hmem.elim id fun hlast => ?_⟩
      rwa [List.mem_singleton.1 hlast]
    · exact List.mem_append
  ordered := by
    -- a flag that was set before keeps the place where it was first set
    have hplace {f : String} (hf : f ∈ options.map (·.1)) :
        ((settings ++ [o]).map (·.1)).idxOf f = (settings.map (·.1)).idxOf f := by
      rw [List.map_append, List.idxOf_append_of_mem ((h.flags f).1 hf)]
    have hordered : (options.map (·.1)).Pairwise fun f g =>
        ((settings ++ [o]).map (·.1)).idxOf f < ((settings ++ [o]).map (·.1)).idxOf g :=
      h.ordered.imp_of_mem fun hf hg hlt => by rwa [hplace hf, hplace hg]
    rw [flags_setOption]
    split
    · exact hordered
    · rename_i hnew
      refine List.pairwise_append.2 ⟨hordered, List.pairwise_singleton _ _, fun f hf g hg => ?_⟩
      have hlast : g ∉ settings.map (·.1) := by
        rw [List.mem_singleton.1 hg, ← h.flags]
        exact hnew
      rw [hplace hf, List.map_append, List.idxOf_append_of_notMem hlast]
      exact Nat.lt_add_right _ (List.idxOf_lt_length_iff.2 ((h.flags f).1 hf))
  last o' ho' := by
    rw [Dictionary.lastValue?_append, Dictionary.lastValue?_singleton]
    rcases eq_or_mem_of_mem_setOption h.distinct ho' with rfl | ⟨hold, hne⟩
    · rw [if_pos rfl, Option.some_or]
    · rw [if_neg hne, Option.none_or, h.last o' hold]

/-- **The options after some settings**, one after the other. -/
def setAll (settings : List (String × String)) : List (String × String) :=
  settings.foldl (fun options o => setOption o.1 o.2 options) []

theorem setAll_concat (settings : List (String × String)) (o : String × String) :
    setAll (settings ++ [o]) = setOption o.1 o.2 (setAll settings) :=
  List.foldl_concat ..

/-- **Any settings lead to options that keep what was said last.** -/
theorem keepsLast_setAll (settings : List (String × String)) :
    KeepsLast settings (setAll settings) := by
  induction settings using List.reverseRecOn with
  | nil => exact ⟨List.nodup_nil, fun _ => Iff.rfl, List.Pairwise.nil, nofun⟩
  | append_singleton settings o ih =>
    rw [setAll_concat]
    exact ih.setOption o

/-- The flags of such options say what the options are. -/
theorem KeepsLast.eq_map (h : KeepsLast settings options) :
    options = (options.map (·.1)).map fun flag =>
      (flag, (Dictionary.lastValue? flag settings).getD "") := by
  rw [List.map_map]
  refine (List.map_id options).symm.trans (List.map_congr_left fun o ho => ?_)
  simp [h.last o ho]

/-- **Settings lead to one list of options.** -/
theorem KeepsLast.unique {other : List (String × String)} (h : KeepsLast settings options)
    (hother : KeepsLast settings other) : options = other := by
  have hflags : options.map (·.1) = other.map (·.1) := by
    have : Std.Asymm fun f g : String =>
      (settings.map (·.1)).idxOf f < (settings.map (·.1)).idxOf g := ⟨fun _ _ => Nat.lt_asymm⟩
    exact List.Pairwise.eq_of_mem_iff h.ordered hother.ordered fun flag =>
      (h.flags flag).trans (hother.flags flag).symm
  rw [h.eq_map, hother.eq_map, hflags]

end Options

/-! ## (2) One call -/

/-- **A call that updates a command.** -/
inductive Call where
  | seek (seconds : Number)
  | duration (seconds : Number)
  | filter (text : String)
  | splice (id : String)
  | option (flag value : String)
  deriving DecidableEq

/-- The fields of a command. -/
inductive Field where
  | seek
  | duration
  | filters
  | splices
  | options
  deriving DecidableEq, Repr

namespace Field

/-- What a call says about a field. -/
abbrev Said : Field → Type
  | seek | duration => Number
  | filters | splices => String
  | options => String × String

/-- **Two commands are the same in a field.** -/
def SameIn (c d : Command) : Field → Prop
  | seek => c.seek = d.seek
  | duration => c.duration = d.duration
  | filters => c.filters = d.filters
  | splices => c.splices = d.splices
  | options => c.options = d.options

end Field

namespace Call

/-- The command after a call. -/
def apply (c : Command) : Call → Command
  | seek seconds => c.withSeek seconds
  | duration seconds => c.withDuration seconds
  | filter text => c.withFilter text
  | splice id => c.withSplice id
  | option flag value => c.withOption flag value

/-- **The field that a call fills in.** -/
def field : Call → Field
  | seek _ => .seek
  | duration _ => .duration
  | filter _ => .filters
  | splice _ => .splices
  | option _ _ => .options

/-- **What a call says about a field**, if it is a call for it. -/
def said? : (field : Field) → Call → Option field.Said
  | .seek, seek seconds => some seconds
  | .duration, duration seconds => some seconds
  | .filters, filter text => some text
  | .splices, splice id => some id
  | .options, option flag value => some (flag, value)
  | _, _ => none

variable {call : Call} {other : Field}

/-- A call says nothing about the other fields. -/
theorem said?_eq_none (h : other ≠ call.field) : call.said? other = none := by
  cases call <;> cases other <;> simp_all [field, said?]

/-- **A call leaves all fields alone but its own.** -/
theorem sameIn_apply (h : other ≠ call.field) (c : Command) : other.SameIn (call.apply c) c := by
  cases call <;> cases other <;>
    simp_all [field, Field.SameIn, apply, withSeek, withDuration, withFilter, withSplice,
      withOption]

end Call

/-! ## (3) Runs of calls -/

/-- **The command that calls lead to** from the empty one. -/
def build (calls : List Call) : Command := calls.foldl Call.apply {}

theorem build_concat (calls : List Call) (call : Call) :
    build (calls ++ [call]) = call.apply (build calls) :=
  List.foldl_concat ..

/-- **What calls say about a field**, in their order. -/
def allSaid (field : Field) (calls : List Call) : List field.Said :=
  calls.filterMap (Call.said? field)

section Runs

variable {calls calls' : List Call}

theorem allSaid_concat (field : Field) (calls : List Call) (call : Call) :
    allSaid field (calls ++ [call]) = allSaid field calls ++ (call.said? field).toList := by
  rw [allSaid, List.filterMap_append]
  cases hsaid : call.said? field <;> simp [allSaid, hsaid]

/-- **The fields of a command that calls lead to** are what the calls say about them. -/
theorem build_eq (calls : List Call) :
    build calls = {
      seek := (allSaid .seek calls).getLast?
      duration := (allSaid .duration calls).getLast?
      filters := allSaid .filters calls
      splices := allSaid .splices calls
      options := setAll (allSaid .options calls) } := by
  induction calls using List.reverseRecOn with
  | nil => rfl
  | append_singleton calls call ih =>
    rw [build_concat, ih]
    cases call <;>
      simp [Call.apply, withSeek, withDuration, withFilter, withSplice, withOption, setAll_concat,
        allSaid_concat, Call.said?]

/-- What calls say about a field is said by the calls for it. -/
theorem allSaid_filter (field : Field) (calls : List Call) :
    allSaid field (calls.filter (·.field = field)) = allSaid field calls := by
  rw [allSaid, List.filterMap_filter]
  refine List.filterMap_congr fun call _ => ?_
  by_cases hfield : call.field = field
  · simp [hfield]
  · simp [hfield, Call.said?_eq_none (Ne.symm hfield)]

/-- **Only the order of the calls for each field counts.** -/
theorem build_congr
    (h : ∀ field, calls.filter (·.field = field) = calls'.filter (·.field = field)) :
    build calls = build calls' := by
  have hsaid (field : Field) : allSaid field calls = allSaid field calls' := by
    rw [← allSaid_filter, h, allSaid_filter]
  rw [build_eq, build_eq]
  simp only [hsaid]

end Runs

/-- **Commands accumulate what calls say.** The start and the duration are those of the last call
for them; filters and assets are those of all calls for them, in order; the options are, for each
flag in the order in which the flags were first set, the value that was set last, and nothing else.
A call leaves all fields alone but its own. So calls in another order lead to the same command, and
to the same arguments, if the calls for each field are in the same order among themselves. -/
theorem build_accumulates (calls : List Call) :
    (build calls).seek = (allSaid .seek calls).getLast? ∧
      (build calls).duration = (allSaid .duration calls).getLast? ∧
      (build calls).filters = allSaid .filters calls ∧
      (build calls).splices = allSaid .splices calls ∧
      (∀ options, (build calls).options = options ↔ KeepsLast (allSaid .options calls) options) ∧
      (∀ (c : Command) (call : Call) (other : Field),
        other ≠ call.field → other.SameIn (call.apply c) c) ∧
      ∀ calls' : List Call,
        (∀ field, calls.filter (·.field = field) = calls'.filter (·.field = field)) →
          build calls = build calls' ∧ ∀ inputs container,
            (build calls).arguments? inputs container
              = (build calls').arguments? inputs container := by
  have hoptions : KeepsLast (allSaid .options calls) (build calls).options := by
    rw [build_eq]
    exact keepsLast_setAll _
  refine ⟨?_, ?_, ?_, ?_, fun options => ⟨fun h => h ▸ hoptions, hoptions.unique⟩,
    fun c call other h => Call.sameIn_apply h c, fun calls' h => ?_⟩
  · rw [build_eq]
  · rw [build_eq]
  · rw [build_eq]
  · rw [build_eq]
  · have hbuild := build_congr h
    exact ⟨hbuild, fun inputs container => by rw [hbuild]⟩

/-- Calls that set a start and a flag twice, with others between them. -/
def sampleCalls : List Call :=
  [.option "-qscale:v" "5", .seek (.ofNat 1), .filter "crop=100:100:0:0", .option "-an" "1",
    .splice "b.mp4", .seek (.ofNat 2), .option "-qscale:v" "2", .filter "scale=50:-2"]

/-- The same calls, field by field. -/
def sortedCalls : List Call :=
  [.filter "crop=100:100:0:0", .filter "scale=50:-2", .splice "b.mp4", .option "-qscale:v" "5",
    .option "-an" "1", .option "-qscale:v" "2", .seek (.ofNat 1), .seek (.ofNat 2)]

/-- The flag that is set twice keeps its place and its last value, in both orders of the calls, and
under a start that is set later. -/
theorem build_accumulates_sample :
    (build sampleCalls).seek = some (.ofNat 2) ∧
      (build sampleCalls).filters = ["crop=100:100:0:0", "scale=50:-2"] ∧
      (build sampleCalls).options = [("-qscale:v", "2"), ("-an", "1")] ∧
      ((build sampleCalls).withSeek (.ofNat 3)).options = (build sampleCalls).options ∧
      (build sortedCalls).arguments? ["in0", "in1"] .webm
        = (build sampleCalls).arguments? ["in0", "in1"] .webm := by
  obtain ⟨hseek, -, hfilters, -, hoptions, hframe, horder⟩ := build_accumulates sampleCalls
  have hlater := hframe (build sampleCalls) (.seek (.ofNat 3)) .options (by decide)
  have hfields (field : Field) :
      sampleCalls.filter (·.field = field) = sortedCalls.filter (·.field = field) := by
    cases field <;> rfl
  have hkeeps : KeepsLast (allSaid .options sampleCalls) [("-qscale:v", "2"), ("-an", "1")] := by
    refine ⟨by decide, fun flag => ?_, by decide, by decide⟩
    simp only [sampleCalls, allSaid, Call.said?, List.filterMap_cons, List.filterMap_nil,
      List.map_cons, List.map_nil, List.mem_cons, List.not_mem_nil, or_false]
    tauto
  exact ⟨hseek, hfilters, (hoptions _).2 hkeeps, hlater,
    ((horder sortedCalls hfields).2 _ _).symm⟩

end Command

end MediaTransform
