import MediaTransform.Proofs.Text.Cut
import MediaTransform.Proofs.Video.Plan
import MediaTransform.Proofs.Video.Timing

/-! # The values of plans are in range

* **`Video.Call`** — one filter of a graph, a name with arguments; `Call.readAll` reads the calls
  that a text spells.
* **`Video.Filter.calls`** — the calls that a filter makes, which are found in its text
  (`readAll_text`).
* **`Video.writtenSizes`** — the sizes in a text of filters, each with its width and its height, read
  off the text: those of the filter (`writtenSizes_text`).
* **`Video.IsSized`** — sizes in range, and the three sizes of which a part is left to the picture that
  comes in; `isSized_of_mem_sizes` says that no call writes others.
* **`Video.timesInRange_of_step`**, **`splices_ne_of_step`** — what every step of planning keeps.
* **`Video.plan_inRange`** — the values of every plan; `scale_leaves_height` is a height that is not
  in any range. -/

namespace MediaTransform

namespace Video

/-! ## (1) Calls of filters -/

/-- **One filter of a graph**: a name with arguments. -/
structure Call where
  name : String
  arguments : List String

/-- A text without the marks that part calls and their arguments. -/
def Unmarked (text : String) : Prop := ':' ∉ text.toList ∧ ',' ∉ text.toList

instance (text : String) : Decidable (Unmarked text) :=
  inferInstanceAs (Decidable (_ ∧ _))

@[simp] theorem unmarked_append {s t : String} :
    Unmarked (s ++ t) ↔ Unmarked s ∧ Unmarked t := by
  simp only [Unmarked, String.toList_append, List.mem_append, not_or]
  tauto

/-- Digits and letters are no marks. -/
theorem unmarked_ofList {cs : List Char} (h : ∀ c ∈ cs, c.isAlphanum = true) :
    Unmarked (String.ofList cs) := by
  rw [Unmarked, String.toList_ofList]
  exact ⟨fun hc => absurd (h _ hc) (by decide), fun hc => absurd (h _ hc) (by decide)⟩

@[simp] theorem unmarked_repr (n : Nat) : Unmarked n.repr := by
  refine unmarked_ofList fun c hc => ?_
  rw [Char.isAlphanum, Nat.isDigit_of_mem_toDigits (by decide) (by decide) hc, Bool.or_true]

@[simp] theorem unmarked_number (x : Number) : Unmarked x.text :=
  ⟨Number.not_mem_text (by decide) (by decide) x, Number.not_mem_text (by decide) (by decide) x⟩

@[simp] theorem unmarked_ffmpegText (colour : Colour) : Unmarked colour.ffmpegText :=
  unmarked_append.2 ⟨by decide, unmarked_ofList fun _ => isAlphanum_of_mem_hexDigits⟩

namespace Call

/-- The text of a call: the name, and the arguments with colons between them. -/
def text (call : Call) : String := call.name ++ "=" ++ ":".intercalate call.arguments

/-- **The call that a text spells**: its name stands before the first equals sign. -/
def read? (text : String) : Option Call :=
  (Text.cut? '=' text).map fun p => ⟨p.1, Text.fields ':' p.2⟩

/-- **The calls that a text spells**, with commas between them. -/
def readAll (text : String) : List Call := (Text.fields ',' text).filterMap read?

/-- **A call that can be read back**: no mark stands where it would be taken for another one. -/
structure Readable (call : Call) : Prop where
  name : '=' ∉ call.name.toList ∧ ',' ∉ call.name.toList
  nonempty : call.arguments ≠ []
  arguments : ∀ argument ∈ call.arguments, Unmarked argument

variable {call : Call} {calls : List Call}

theorem readable_iff {name : String} {arguments : List String} :
    Readable ⟨name, arguments⟩ ↔ ('=' ∉ name.toList ∧ ',' ∉ name.toList) ∧ arguments ≠ [] ∧
      ∀ argument ∈ arguments, Unmarked argument :=
  ⟨fun h => ⟨h.name, h.nonempty, h.arguments⟩, fun ⟨hname, hne, harguments⟩ =>
    ⟨hname, hne, harguments⟩⟩

theorem Readable.isCut (h : call.Readable) :
    Text.IsCut ':' (":".intercalate call.arguments) call.arguments :=
  ⟨h.nonempty, fun argument hargument => (h.arguments argument hargument).1, rfl⟩

theorem Readable.read?_text (h : call.Readable) : read? call.text = some call := by
  have hcut : Text.cut? '=' call.text = some (call.name, ":".intercalate call.arguments) :=
    Text.cut?_eq_some_iff.2 ⟨rfl, h.name.1⟩
  rw [read?, hcut, Option.map_some, h.isCut.eq_fields]

/-- No comma stands in the text of such a call. -/
theorem Readable.not_mem_text (h : call.Readable) : ',' ∉ call.text.toList := by
  intro hmem
  rw [text, String.toList_append, String.toList_append, List.mem_append, List.mem_append] at hmem
  rcases hmem with (hname | hequals) | harguments
  · exact h.name.2 hname
  · exact absurd hequals (by decide)
  · rcases h.isCut.mem harguments with hcolon | ⟨argument, hargument, hcomma⟩
    · exact absurd hcolon (by decide)
    · exact (h.arguments argument hargument).2 hcomma

/-- **Readable calls are read back** from their text. -/
theorem readAll_intercalate (hne : calls ≠ []) (h : ∀ call ∈ calls, call.Readable) :
    readAll (",".intercalate (calls.map text)) = calls := by
  have hcut : Text.IsCut ',' (",".intercalate (calls.map text)) (calls.map text) := by
    refine ⟨by simpa using hne, fun part hpart => ?_, rfl⟩
    obtain ⟨call, hcall, rfl⟩ := List.mem_map.1 hpart
    exact (h call hcall).not_mem_text
  rw [readAll, hcut.eq_fields, List.filterMap_map]
  calc calls.filterMap (read? ∘ text)
      = calls.filterMap some := List.filterMap_congr fun call hcall => (h call hcall).read?_text
    _ = calls := List.filterMap_some

end Call

/-! ## (2) The calls of the filters that operations write -/

namespace Filter

/-- **The calls that a filter makes.** -/
def calls : Filter → List Call
  | cover w h =>
    [⟨"scale", [toString w, toString h, "force_original_aspect_ratio=increase"]⟩,
      ⟨"crop", [toString w, toString h]⟩]
  | crop w h x y => [⟨"crop", [toString w, toString h, toString x, toString y]⟩]
  | pad w h colour =>
    [⟨"scale", [toString w, toString h, "force_original_aspect_ratio=decrease"]⟩,
      ⟨"pad", [toString w, toString h, "(ow-iw)/2", "(oh-ih)/2",
        "color=" ++ colour.ffmpegText]⟩]
  | fit w h => [⟨"scale", [toString w, toString h, "force_original_aspect_ratio=decrease"]⟩]
  | toWidth w => [⟨"scale", [toString w, "-2"]⟩]
  | toHeight h => [⟨"scale", ["-2", toString h]⟩]
  | toSize w h => [⟨"scale", [toString w, toString h]⟩, ⟨"setsar", ["1"]⟩]
  | toRatio ratio =>
    [⟨"scale", ["trunc(ih*" ++ ratio.text ++ "/2)*2", "ih"]⟩, ⟨"setsar", ["1"]⟩]
  | blur radius =>
    [⟨"boxblur", ["luma_radius=" ++ toString radius, "chroma_radius=" ++ toString radius]⟩]

/-- **The text of a filter is that of its calls.** -/
theorem text_eq_intercalate (f : Filter) : f.text = ",".intercalate (f.calls.map Call.text) := by
  -- as characters, for the two sides cut the same text at different places
  rw [← String.toList_inj]
  unfold text calls
  cases f <;> simp [Call.text, sizeText, fitFilter]

theorem calls_ne_nil (f : Filter) : f.calls ≠ [] := by
  cases f <;> nofun

/-- No mark stands in the names and arguments of these calls. -/
theorem readable_calls (f : Filter) : ∀ call ∈ f.calls, call.Readable := by
  unfold calls
  cases f <;> simp +decide [Call.readable_iff]

/-- **The calls of a filter are found in its text.** -/
theorem readAll_text (f : Filter) : Call.readAll f.text = f.calls := by
  rw [text_eq_intercalate, Call.readAll_intercalate f.calls_ne_nil f.readable_calls]

end Filter

/-! ## (3) Widths and heights -/

/-- The filters whose first two arguments are a width and a height. -/
def sizeNames : List String := ["scale", "crop", "pad"]

/-- The width and the height that a call is given, if it is one of these filters. -/
def Call.size? (call : Call) : Option (String × String) :=
  match call.arguments with
  | w :: h :: _ => if call.name ∈ sizeNames then some (w, h) else none
  | _ => none

/-- **The sizes that are written** into a text of filters, each with its width and its height. -/
def writtenSizes (text : String) : List (String × String) := (Call.readAll text).filterMap Call.size?

/-- **The sizes of a filter**, as its calls are given them. -/
def Filter.sizes : Filter → List (String × String)
  | cover w h | pad w h _ => [(toString w, toString h), (toString w, toString h)]
  | crop w h _ _ | fit w h | toSize w h => [(toString w, toString h)]
  | toWidth w => [(toString w, "-2")]
  | toHeight h => [("-2", toString h)]
  | toRatio ratio => [("trunc(ih*" ++ ratio.text ++ "/2)*2", "ih")]
  | blur _ => []

/-- **They are what is written** into its text. -/
theorem writtenSizes_text (f : Filter) : writtenSizes f.text = f.sizes := by
  rw [writtenSizes, Filter.readAll_text]
  cases f <;> rfl

/-- **The sizes that a call may write**, by its tag and its parameters: a width and a height in range;
after scaling with one side given, this side in range and the mark for the other one; and after
reshaping with no side given, the height that comes in and its product with a finite ratio above
zero. -/
inductive IsSized (tag : String) (ps : Params) : String → String → Prop
  | given {w h : Nat} (hw : IsSide w) (hh : IsSide h) : IsSized tag ps (toString w) (toString h)
  | toWidth {w : Nat} (hw : IsSide w) (htag : tag = "c_scale") (hnoh : ps.contains "h" = false) :
      IsSized tag ps (toString w) "-2"
  | toHeight {h : Nat} (hh : IsSide h) (htag : tag = "c_scale") (hnow : ps.contains "w" = false) :
      IsSized tag ps "-2" (toString h)
  | toRatio {ratio : Number} (hratio : ratio.isFinite = true ∧ .ofNat 0 < ratio) (htag : tag = "ar")
      (hnow : ps.contains "w" = false) (hnoh : ps.contains "h" = false) :
      IsSized tag ps ("trunc(ih*" ++ ratio.text ++ "/2)*2") "ih"

/-- **The sizes of a filter are those that its call may write.** -/
theorem isSized_of_mem_sizes {tag : String} {ps : Params} {f : Filter} (hf : f.WellFormed)
    (hopen : f.OpenFor tag ps) : ∀ size ∈ f.sizes, IsSized tag ps size.1 size.2 := by
  unfold Filter.sizes
  cases f <;>
    simp only [List.forall_mem_cons, List.not_mem_nil, false_imp_iff, implies_true, and_true]
  case cover | pad => exact ⟨.given hf.1 hf.2, .given hf.1 hf.2⟩
  case crop | fit | toSize => exact .given hf.1 hf.2
  case toWidth => exact .toWidth hf hopen.1 hopen.2
  case toHeight => exact .toHeight hf hopen.1 hopen.2
  case toRatio => exact .toRatio hf hopen.1 hopen.2.1 hopen.2.2

/-! ## (4) Steps and plans -/

variable {config : Config.Pipeline} {s : Spec} {found : Resolved Operation}
  {c next command : Command} {chain : Chain}

/-- Changes leave the times as they are. -/
theorem Change.timesInRange_apply (change : Change) (hc : c.TimesInRange) :
    (change.apply c).TimesInRange := by
  cases change <;> exact ⟨hc.seek, hc.duration⟩

/-- **A step keeps the times in range.** -/
theorem timesInRange_of_step (hfound : (registry config).resolve s = some found)
    (hc : c.TimesInRange) (hnext : step found c = .ok next) : next.TimesInRange := by
  rw [step_eq_ok_iff] at hnext
  -- an end is set with a look at the start in force, so timing needs what holds before
  by_cases htiming : groupOf config s = .timing
  · obtain ⟨key, hkey⟩ := exists_key_of_resolve hfound htiming
    rw [hkey] at hnext
    exact timesInRange_of_timing hc hnext
  · obtain ⟨change, -, -, rfl⟩ := Makes.of_ok ((describes_of_resolve hfound).makes htiming) hnext
    exact change.timesInRange_apply hc

/-- **The times of a plan are in range.** -/
theorem timesInRange_of_plan (h : plan (registry config) chain = .ok command) :
    command.TimesInRange :=
  Registry.fold_induction Command.TimesInRange (fun _ _ _ hfound _ _ => timesInRange_of_step hfound)
    timesInRange_empty h

/-- **A step splices assets with a name only.** -/
theorem splices_ne_of_step (hfound : (registry config).resolve s = some found)
    (hc : ∀ name ∈ c.splices, name ≠ "") (hnext : step found c = .ok next) :
    ∀ name ∈ next.splices, name ≠ "" := by
  obtain ⟨change, hallowed, hchange⟩ := exists_change_of_step hfound hnext
  have hsplices : next.splices = (change.apply c).splices := by rw [hchange]
  rw [hsplices]
  generalize groupOf config s = group at hallowed
  cases hallowed with
  | splice hv hname =>
    intro name hmem
    rcases List.mem_append.1 hmem with hold | hnew
    · exact hc name hold
    · rw [List.mem_singleton.1 hnew]
      exact hname
  | _ => exact hc

/-- **A filter that a spec contributes** is one that its call may write. -/
theorem exists_filter_of_contributes {text : String} (hgroup : groupOf config s = .filter)
    (h : Contributes config s (.filter text)) :
    ∃ found, (registry config).resolve s = some found ∧ ∃ f : Filter, f.WellFormed ∧
      f.OpenFor found.tag found.params ∧ text = f.text := by
  obtain ⟨found, hfound⟩ := exists_resolve_of_groupOf (s := s) (by rw [hgroup]; decide)
  have hplan := h {}
  rw [planFrom, Registry.fold_cons_of_some hfound] at hplan
  obtain ⟨next, hstep, hnext⟩ := bind_eq_ok_iff.1 hplan
  have hwrites := describes_of_resolve hfound
  rw [hgroup] at hwrites
  obtain ⟨change, ⟨f, hf, hopen, rfl⟩, -, rfl⟩ := Makes.of_ok hwrites (step_eq_ok_iff.1 hstep)
  refine ⟨found, hfound, f, hf, hopen, ?_⟩
  have htexts : [f.text] = [text] := congrArg Command.filters (Except.ok.inj hnext)
  exact (List.singleton_inj.1 htexts).symm

/-- **Every filter of a plan is contributed** by a spec of its chain. -/
theorem exists_contributes_of_mem_filters (h : plan (registry config) chain = .ok command)
    {text : String} (htext : text ∈ command.filters) :
    ∃ s ∈ chain, groupOf config s = .filter ∧ Contributes config s (.filter text) := by
  obtain ⟨hlength, hcontributes⟩ := List.forall₂_iff_get.1 (fills_filters.forall₂ rfl h)
  obtain ⟨i, hi, rfl⟩ := List.getElem_of_mem htext
  have hi' : i < (ofGroup config .filter chain).length := hlength ▸ hi
  have hmem : (ofGroup config .filter chain)[i] ∈ chain.filter (groupOf config · = .filter) :=
    List.getElem_mem hi'
  obtain ⟨hs, hgroup⟩ := List.mem_filter.1 hmem
  exact ⟨_, hs, of_decide_eq_true hgroup, hcontributes i hi' hi⟩

/-- **The values of a plan are in range**, whatever the chain holds: it begins at a finite time that
is not negative and lasts for a finite time that is positive, if it has either; it has at most one
option, a level of quality from 1 to 31; the assets that it splices have a name; and every filter is
contributed by a spec of the chain, and the widths and heights in it are from 1 to 4294967295, except
for the side that a scaling to one side leaves open, and the size of a reshaping without a side. -/
theorem plan_inRange (h : plan (registry config) chain = .ok command) :
    (∀ x ∈ command.seek, x.isFinite = true ∧ .ofNat 0 ≤ x) ∧
    (∀ x ∈ command.duration, x.isFinite = true ∧ .ofNat 0 < x) ∧
    (command.options = [] ∨ ∃ level : Nat, 1 ≤ level ∧ level ≤ 31 ∧
      command.options = [("-qscale:v", toString level)]) ∧
    (∀ name ∈ command.splices, name ≠ "") ∧
    ∀ text ∈ command.filters, ∃ s ∈ chain, ∃ found, (registry config).resolve s = some found ∧
      Contributes config s (.filter text) ∧
      ∀ size ∈ writtenSizes text, IsSized found.tag found.params size.1 size.2 := by
  have hplanned := planned_of_plan h
  have htimes := timesInRange_of_plan h
  have hsplices : ∀ name ∈ command.splices, name ≠ "" :=
    Registry.fold_induction (fun c : Command => ∀ name ∈ c.splices, name ≠ "")
      (fun _ _ _ hfound _ _ => splices_ne_of_step hfound) (by simp) h
  refine ⟨htimes.seek, htimes.duration, hplanned.options, hsplices, fun text htext => ?_⟩
  obtain ⟨s, hs, hgroup, hcontributes⟩ := exists_contributes_of_mem_filters h htext
  obtain ⟨found, hfound, f, hf, hopen, rfl⟩ := exists_filter_of_contributes hgroup hcontributes
  refine ⟨s, hs, found, hfound, hcontributes, ?_⟩
  rw [writtenSizes_text]
  exact isSized_of_mem_sizes hf hopen

/-- A spec that asks for a width. -/
def widthSpec : Spec := ⟨"c_scale", .ofList [("w", .number (.ofNat 64))]⟩

/-- A chain that sets the start, the end and the duration, a duration again, a level of quality, an
asset and three filters. -/
def timedChain : Chain :=
  [⟨"so_2.5", .ofList [("eo", .number (.ofNat 20)), ("du", .number (.ofNat 30))]⟩,
    ⟨"eo_12", .empty⟩, ⟨"q_80", .empty⟩,
    ⟨"c_pad", .ofList [("w", .number (.ofNat 300)), ("h", .number (.ofNat 200))]⟩,
    ⟨"fl_splice", .ofList [("l", .text "video:b.mp4")]⟩, ⟨"ar_1.5", .empty⟩, widthSpec]

/-- Its command. -/
def timedCommand : Command where
  seek := some (.ofRatio false 5 2)
  duration := some (.ofRatio false 19 2)
  filters :=
    ["scale=300:200:force_original_aspect_ratio=decrease,pad=300:200:(ow-iw)/2:(oh-ih)/2" ++
        ":color=0x000000ff",
      "scale=trunc(ih*1.5/2)*2:ih,setsar=1", "scale=64:-2"]
  splices := ["b.mp4"]
  options := [("-qscale:v", "31")]

/-- Its values are in range: the second end counts from the start, a level above the largest one
becomes that one, and the filters are written by the specs that ask for them. -/
theorem plan_inRange_sample :
    plan (registry {}) timedChain = .ok timedCommand ∧
    timedCommand.filters.flatMap writtenSizes
      = [("300", "200"), ("300", "200"), ("trunc(ih*1.5/2)*2", "ih"), ("64", "-2")] ∧
    (∀ x ∈ timedCommand.duration, x.isFinite = true ∧ .ofNat 0 < x) ∧
    ∃ s ∈ timedChain, ∃ found, (registry {}).resolve s = some found ∧
      Contributes {} s (.filter "scale=64:-2") ∧ IsSized found.tag found.params "64" "-2" := by
  have hplan : plan (registry {}) timedChain = .ok timedCommand := by decide +kernel
  obtain ⟨-, hduration, -, -, hfilters⟩ := plan_inRange hplan
  obtain ⟨s, hs, found, hfound, hcontributes, hsized⟩ :=
    hfilters "scale=64:-2" (by simp [timedCommand])
  exact ⟨hplan, by decide +kernel, hduration, s, hs, found, hfound, hcontributes,
    hsized ("64", "-2") (by decide +kernel)⟩

/-- **Not every height is an integer in range.** A scaling to a width goes well and leaves the height
to the tool, which keeps the aspect ratio; and a ratio without a side is a product with the height
that comes in. -/
theorem scale_leaves_height :
    plan (registry {}) [widthSpec, ⟨"ar_1.5", .empty⟩]
      = .ok { filters := ["scale=64:-2", "scale=trunc(ih*1.5/2)*2:ih,setsar=1"] } ∧
    writtenSizes "scale=64:-2" = [("64", "-2")] ∧
    writtenSizes "scale=trunc(ih*1.5/2)*2:ih,setsar=1" = [("trunc(ih*1.5/2)*2", "ih")] ∧
    ∀ side ∈ ["-2", "trunc(ih*1.5/2)*2", "ih"],
      ¬∃ n : Nat, 1 ≤ n ∧ n ≤ 4294967295 ∧ side = toString n := by
  refine ⟨by decide +kernel, by decide +kernel, by decide +kernel, ?_⟩
  rintro side hside ⟨n, -, -, rfl⟩
  -- a numeral has digits only
  have hdigits : (["-2", "trunc(ih*1.5/2)*2", "ih"] : List String).all
      (·.toList.any (!·.isDigit)) = true := by decide +kernel
  obtain ⟨c, hc, hno⟩ := List.any_eq_true.1 (List.all_eq_true.1 hdigits _ hside)
  rw [isDigit_of_mem_toString hc] at hno
  cases hno

end Video

end MediaTransform
