import Mathlib.Data.List.Nodup
import MediaTransform.Proofs.Video.FilterGraph
import MediaTransform.Proofs.Video.Plan

/-! # The wiring of commands

What the arguments of a command ask for, as flags with values and links between labels:

* **`Command.HasSettings`** — an argument list read as flags with values; `arguments?_eq_ok_iff` has
  the settings of a command.
* **`Command.links`**, **`Command.written`** — the links of the graph of a command and the labels
  that are written; `spells_links` and `isWired_links`.
* **`Command.graph_wired`** — the arguments of every command, with spliced assets and without. -/

namespace MediaTransform

namespace Command

open FilterGraph

variable {c : Command} {inputs args : List String} {container : Container} {flag : String}

/-! ## (1) Settings -/

/-- **An argument list has settings**: flags with a value each, which stand between the arguments of
every call and the output. -/
def HasSettings (args : List String) (settings : List (String × String)) : Prop :=
  args = commonArguments ++ settings.flatMap (fun s => [s.1, s.2]) ++ ["pipe:1"]

/-- The values that settings give to a flag, in order. -/
def valuesOf (flag : String) (settings : List (String × String)) : List String :=
  (settings.filter (·.1 = flag)).map (·.2)

/-- An argument list is read in one way only. -/
theorem HasSettings.unique {settings settings' : List (String × String)}
    (h : HasSettings args settings) (h' : HasSettings args settings') : settings = settings' := by
  have hflat := (h.symm.trans h')
  rw [List.append_cancel_right_eq, List.append_cancel_left_eq] at hflat
  clear h h'
  induction settings generalizing settings' with
  | nil =>
    cases settings' with
    | nil => rfl
    | cons s' settings' => cases hflat
  | cons s settings ih =>
    cases settings' with
    | nil => cases hflat
    | cons s' settings' =>
      simp only [List.flatMap_cons, List.cons_append, List.cons.injEq, List.nil_append] at hflat
      rw [Prod.ext hflat.1 hflat.2.1, ih hflat.2.2]

section Values

variable {settings settings' : List (String × String)}

theorem valuesOf_append :
    valuesOf flag (settings ++ settings') = valuesOf flag settings ++ valuesOf flag settings' := by
  rw [valuesOf, List.filter_append, List.map_append]
  rfl

theorem valuesOf_eq_nil (h : ∀ s ∈ settings, s.1 ≠ flag) : valuesOf flag settings = [] := by
  rw [valuesOf, List.map_eq_nil_iff, List.filter_eq_nil_iff]
  exact fun s hs => by simpa using h s hs

theorem valuesOf_map (name : String) (values : List String) :
    valuesOf flag (values.map (name, ·)) = if name = flag then values else [] := by
  split
  · rename_i heq
    have hall : (values.map (name, ·)).filter (·.1 = flag) = values.map (name, ·) :=
      List.filter_eq_self.2 fun s hs => by
        obtain ⟨value, -, rfl⟩ := List.mem_map.1 hs
        exact decide_eq_true heq
    rw [valuesOf, hall, List.map_map]
    exact List.map_id values
  · rename_i hne
    refine valuesOf_eq_nil fun s hs => ?_
    obtain ⟨value, -, rfl⟩ := List.mem_map.1 hs
    exact hne

end Values

/-- The settings for the inputs. -/
def inputSettings (c : Command) (inputs : List String) : List (String × String) :=
  (c.seek.map Number.text).toList.map ("-ss", ·) ++ inputs.map ("-i", ·)

/-- The settings for filtering and joining. -/
def filterSettings (c : Command) : List (String × String) :=
  if c.splices = [] then
    if c.filters = [] then [] else [("-vf", ",".intercalate c.filters)]
  else [("-filter_complex", c.filterGraph), ("-map", c.videoLabel), ("-map", joinedAudio)]

/-- The settings for writing in fragments. -/
def muxerSettings : Container → List (String × String)
  | .fragmentedMp4 | .fragmentedMov => [("-movflags", "frag_keyframe+empty_moov+default_base_moof")]
  | .webm | .matroska => []

/-- The settings for the output. -/
def outputSettings (c : Command) (container : Container) : List (String × String) :=
  (c.duration.map Number.text).toList.map ("-t", ·) ++ c.options ++ [("-f", container.muxer)] ++
    muxerSettings container

/-- **The settings of a command.** -/
def settings (c : Command) (inputs : List String) (container : Container) :
    List (String × String) :=
  c.inputSettings inputs ++ c.filterSettings ++ c.outputSettings container

theorem flatMap_inputSettings (c : Command) (inputs : List String) :
    (c.inputSettings inputs).flatMap (fun s => [s.1, s.2]) = c.inputArguments inputs := by
  rw [inputSettings, inputArguments, List.flatMap_append, List.flatMap_map, List.flatMap_map]
  cases c.seek with
  | none => rfl
  | some seconds => rfl

theorem flatMap_filterSettings (c : Command) :
    c.filterSettings.flatMap (fun s => [s.1, s.2]) = c.filterArguments := by
  unfold filterSettings filterArguments
  simp only [List.isEmpty_iff]
  split
  · split <;> rfl
  · rfl

theorem flatMap_outputSettings (c : Command) (container : Container) :
    (c.outputSettings container).flatMap (fun s => [s.1, s.2]) ++ ["pipe:1"]
      = c.outputArguments container := by
  unfold outputSettings outputArguments
  cases c.duration <;> cases container <;> simp [muxerSettings, Container.muxerArguments]

/-- **The arguments of a command** are its settings, for one path for each input. -/
theorem arguments?_eq_ok_iff :
    c.arguments? inputs container = .ok args ↔
      inputs.length = c.inputCount ∧ HasSettings args (c.settings inputs container) := by
  have hargs : commonArguments ++ (c.settings inputs container).flatMap (fun s => [s.1, s.2])
        ++ ["pipe:1"]
      = commonArguments ++ c.inputArguments inputs ++ c.filterArguments ++
        c.outputArguments container := by
    rw [settings, List.flatMap_append, List.flatMap_append, flatMap_inputSettings,
      flatMap_filterSettings, ← flatMap_outputSettings]
    simp only [List.append_assoc]
  rw [HasSettings, hargs, arguments?]
  split
  · rename_i hcount
    rw [Except.ok.injEq, eq_comm]
    exact ⟨fun h => ⟨hcount, h⟩, fun h => h.2⟩
  · rename_i hcount
    refine ⟨fun h => ?_, fun h => absurd h.1 hcount⟩
    cases h

/-! ## (2) Values of flags -/

/-- The flags that filter and join inputs. -/
def filterFlags : List String := ["-vf", "-filter_complex", "-map"]

/-- **The flags that wire** inputs, filters and streams. -/
def wiringFlags : List String := "-ss" :: "-i" :: filterFlags

theorem mem_filterFlags {s : String × String} (h : s ∈ c.filterSettings) : s.1 ∈ filterFlags := by
  unfold filterSettings at h
  split at h
  · split at h
    · cases h
    · rw [List.mem_singleton.1 h]
      exact List.mem_cons_self
  · simp only [List.mem_cons, List.not_mem_nil, or_false] at h
    rcases h with rfl | rfl | rfl <;> simp [filterFlags]

section Flags

variable (hoptions : ∀ o ∈ c.options, o.1 ∉ wiringFlags)
include hoptions

/-- **Nothing about the output wires anything**, unless an option does. -/
theorem valuesOf_outputSettings (hflag : flag ∈ wiringFlags) (container : Container) :
    valuesOf flag (c.outputSettings container) = [] := by
  have hother {name : String} (hname : name ∉ wiringFlags) : name ≠ flag :=
    fun heq => hname (heq ▸ hflag)
  have hmuxer : valuesOf flag (muxerSettings container) = [] :=
    valuesOf_eq_nil fun s hs => hother (by
      revert s
      cases container <;> decide)
  have hchosen : valuesOf flag c.options = [] :=
    valuesOf_eq_nil fun o ho => hother (hoptions o ho)
  have hformat : valuesOf flag [("-f", container.muxer)] = [] :=
    valuesOf_eq_nil fun s hs => by
      rw [List.mem_singleton.1 hs]
      exact hother (show "-f" ∉ wiringFlags by decide)
  rw [outputSettings, valuesOf_append, valuesOf_append, valuesOf_append, valuesOf_map,
    if_neg (hother (by decide)), hchosen, hformat, hmuxer]
  rfl

/-- **The values of an input flag** come from the inputs. -/
theorem valuesOf_settings_of_input (hflag : flag = "-ss" ∨ flag = "-i") :
    valuesOf flag (c.settings inputs container)
      = (if "-ss" = flag then (c.seek.map Number.text).toList else []) ++
        if "-i" = flag then inputs else [] := by
  have hwiring : flag ∈ wiringFlags := by
    rcases hflag with rfl | rfl <;> decide
  have hfilters : valuesOf flag c.filterSettings = [] := by
    refine valuesOf_eq_nil fun s hs heq => ?_
    have hmem := heq ▸ mem_filterFlags hs
    rcases hflag with rfl | rfl <;> exact absurd hmem (by decide)
  rw [settings, valuesOf_append, valuesOf_append, inputSettings, valuesOf_append, valuesOf_map,
    valuesOf_map, hfilters, valuesOf_outputSettings hoptions hwiring, List.append_nil,
    List.append_nil]

/-- **The values of a filter flag** come from the filters. -/
theorem valuesOf_settings_of_filter (hflag : flag ∈ filterFlags) :
    valuesOf flag (c.settings inputs container) = valuesOf flag c.filterSettings := by
  have hother : "-ss" ≠ flag ∧ "-i" ≠ flag := by
    constructor <;> exact fun heq => absurd (heq ▸ hflag) (by decide)
  have hwiring : flag ∈ wiringFlags := List.mem_cons_of_mem _ (List.mem_cons_of_mem _ hflag)
  rw [settings, valuesOf_append, valuesOf_append, inputSettings, valuesOf_append, valuesOf_map,
    valuesOf_map, if_neg hother.1, if_neg hother.2, valuesOf_outputSettings hoptions hwiring,
    List.append_nil]
  rfl

end Flags

/-! ## (3) Links -/

/-- A pad of an input: one of its streams. -/
def padName (index : Nat) (stream : String) : String := toString index ++ ":" ++ stream

/-- **The pads of the inputs**: video and audio of one after the other. -/
def pads (c : Command) : List String :=
  (List.range c.inputCount).flatMap fun index => [padName index "v", padName index "a"]

/-- The link that joins all inputs. -/
def joinLink (c : Command) : Link :=
  ⟨c.pads, "concat=n=" ++ toString c.inputCount ++ ":v=1:a=1", ["cv", "ca"]⟩

/-- The link that filters what is joined. -/
def filterLink (c : Command) : Link := ⟨["cv"], ",".intercalate c.filters, ["outv"]⟩

/-- **The links of the graph of a command.** -/
def links (c : Command) : List Link :=
  c.joinLink :: if c.filters = [] then [] else [c.filterLink]

/-- **The labels that a command writes**: video and audio. -/
def written (c : Command) : List String := [if c.filters = [] then "cv" else "outv", "ca"]

/-- No two pads have one name. -/
theorem padName_inj {i j : Nat} {s t : String} (h : padName i s = padName j t) :
    i = j ∧ s = t := by
  have hcut (n : Nat) (u : String) : Text.cut? ':' (padName n u) = some (toString n, u) :=
    Text.cut?_eq_some_iff.2 ⟨rfl, fun hcolon =>
      absurd (isDigit_of_mem_toString hcolon) (by decide)⟩
  have hboth := hcut j t
  rw [← h, hcut i s, Option.some.injEq, Prod.mk.injEq] at hboth
  exact ⟨toString_nat_injective hboth.1, hboth.2⟩

/-- The names of pads have a colon, as no other label has. -/
theorem colon_mem_of_mem_pads {name : String} (h : name ∈ c.pads) : ':' ∈ name.toList := by
  obtain ⟨index, -, hname⟩ := List.mem_flatMap.1 h
  rw [List.mem_cons, List.mem_singleton] at hname
  rcases hname with rfl | rfl <;> simp [padName]

theorem plain_of_mem_pads {name : String} (h : name ∈ c.pads) : Plain name := by
  have hname (index : Nat) (stream : String) (hstream : Plain stream) :
      Plain (padName index stream) := by
    refine plain_append.2 ⟨plain_append.2 ⟨?_, by decide⟩, hstream⟩
    exact plain_of_harmless (Video.harmless_toString index)
  obtain ⟨index, -, hmem⟩ := List.mem_flatMap.1 h
  rw [List.mem_cons, List.mem_singleton] at hmem
  rcases hmem with rfl | rfl
  · exact hname index "v" (by decide)
  · exact hname index "a" (by decide)

theorem nodup_pads (c : Command) : c.pads.Nodup := by
  refine List.nodup_flatMap.2 ⟨fun i _ => ?_, ?_⟩
  · refine List.nodup_cons.2 ⟨fun hmem => ?_, List.nodup_singleton _⟩
    exact absurd (padName_inj (List.mem_singleton.1 hmem)).2 (by decide)
  · refine List.Pairwise.imp (fun {i j} hne name hi hj => hne ?_) List.nodup_range
    have hindex {k : Nat} (h : name ∈ [padName k "v", padName k "a"]) : ∃ s, name = padName k s := by
      rw [List.mem_cons, List.mem_singleton] at h
      exact h.elim (⟨_, ·⟩) (⟨_, ·⟩)
    obtain ⟨s, rfl⟩ := hindex hi
    obtain ⟨t, ht⟩ := hindex hj
    exact (padName_inj ht).1

theorem labelTexts_pads (c : Command) :
    labelTexts c.pads = String.join ((List.range c.inputCount).map inputPads) := by
  have hpads (index : Nat) : labelTexts [padName index "v", padName index "a"] = inputPads index := by
    refine String.toList_injective ?_
    simp [labelTexts, labelText, padName, inputPads]
  rw [pads]
  induction List.range c.inputCount with
  | nil => rfl
  | cons index rest ih =>
    rw [List.flatMap_cons, labelTexts_append, ih, hpads, List.map_cons, String.join_cons]

/-- Filters are joined without a part of a graph. -/
theorem plain_intercalate {filters : List String} (h : ∀ f ∈ filters, Plain f) :
    Plain (",".intercalate filters) := by
  induction filters with
  | nil => decide
  | cons f rest ih =>
    obtain ⟨hf, hrest⟩ := List.forall_mem_cons.1 h
    by_cases hnil : rest = []
    · subst hnil
      simpa using hf
    · rw [String.intercalate_cons_of_ne_nil hnil, plain_append, plain_append]
      exact ⟨⟨hf, by decide⟩, ih hrest⟩

/-- The labels of streams that are not those of an input. -/
theorem plain_streams : ∀ name ∈ ["cv", "ca", "outv"], Plain name := by decide

theorem joins_joinLink (c : Command) : c.joinLink.Joins where
  consumes hnil := by
    have hfirst : padName 0 "v" ∈ c.pads :=
      List.mem_flatMap.2 ⟨0, List.mem_range.2 (by rw [inputCount]; omega), List.mem_cons_self⟩
    exact List.ne_nil_of_mem hfirst hnil
  produces := List.cons_ne_nil _ _
  consumed name hname := plain_of_mem_pads hname
  work := by
    refine plain_append.2 ⟨plain_append.2 ⟨by decide, ?_⟩, by decide⟩
    exact plain_of_harmless (Video.harmless_toString _)
  produced name hname := plain_streams name (List.mem_append_left ["outv"] hname)

theorem joins_filterLink (h : ∀ f ∈ c.filters, Plain f) : c.filterLink.Joins where
  consumes := List.cons_ne_nil _ _
  produces := List.cons_ne_nil _ _
  consumed name hname := plain_streams name (List.mem_append_left ["ca", "outv"] hname)
  work := plain_intercalate h
  produced name hname := plain_streams name (List.mem_append_right ["cv", "ca"] hname)

/-- **The links of a command spell its graph.** -/
theorem spells_links (h : ∀ f ∈ c.filters, Plain f) : Spells c.links c.filterGraph := by
  have hgraph : ";".intercalate (c.links.map Link.text) = c.filterGraph := by
    have hjoined : labelTexts ["cv", "ca"] = joinedVideo ++ joinedAudio := by decide
    have hvideo : labelTexts ["cv"] = joinedVideo := by decide
    have hfiltered : labelTexts ["outv"] = filteredVideo := by decide
    unfold links filterGraph
    simp only [List.isEmpty_iff]
    split
    · simp [joinLink, Link.text, labelTexts_pads, hjoined, String.append_assoc]
    · simp [joinLink, filterLink, Link.text, labelTexts_pads, hjoined, hvideo, hfiltered,
        joinFilters, String.append_assoc]
  rw [← hgraph]
  refine spells_of_joins (List.cons_ne_nil _ _) ?_
  unfold links
  split
  · exact List.forall_mem_singleton.2 c.joins_joinLink
  · exact List.forall_mem_cons.2
      ⟨c.joins_joinLink, List.forall_mem_singleton.2 (joins_filterLink h)⟩

theorem isDetermined_links (c : Command) : ∀ l ∈ c.links, l.IsDetermined := by
  have hjoin : c.joinLink.IsDetermined := .inl (by simp [joinLink])
  unfold links
  split
  · exact List.forall_mem_singleton.2 hjoin
  · exact List.forall_mem_cons.2 ⟨hjoin, List.forall_mem_singleton.2 (.inr ⟨rfl, rfl⟩)⟩

/-- **The graph of a command is wired.** -/
theorem isWired_links (c : Command) : IsWired c.links c.pads c.written := by
  have hapart : ∀ name ∈ ["cv", "ca", "outv"], name ∉ c.pads := by
    have hcolon : ∀ name ∈ ["cv", "ca", "outv"], ':' ∉ name.toList := by decide
    exact fun name hname hpad => hcolon name hname (colon_mem_of_mem_pads hpad)
  unfold links written
  split
  · have hconsumed : consumedBy [c.joinLink] ++ ["cv", "ca"] = c.pads ++ ["cv", "ca"] := by
      simp [consumedBy, joinLink]
    have hproduced : producedBy [c.joinLink] = ["cv", "ca"] := rfl
    exact isWired_of_perm c.nodup_pads hconsumed hproduced (List.Perm.refl _) (by decide)
      fun name hname => hapart name (List.mem_append_left ["outv"] hname)
  · have hconsumed : consumedBy [c.joinLink, c.filterLink] ++ ["outv", "ca"]
        = c.pads ++ ["cv", "outv", "ca"] := by
      simp [consumedBy, joinLink, filterLink]
    have hproduced : producedBy [c.joinLink, c.filterLink] = ["cv", "ca", "outv"] := rfl
    exact isWired_of_perm c.nodup_pads hconsumed hproduced (by decide) (by decide) hapart

/-! ## (4) Arguments -/

/-- **Plans are plain**: so are their filters, and their options wire nothing. -/
theorem plain_of_plan {config : Config.Pipeline} {chain : Chain}
    (h : Video.plan (Video.registry config) chain = .ok c) :
    (∀ f ∈ c.filters, Plain f) ∧ ∀ o ∈ c.options, o.1 ∉ wiringFlags := by
  have hplanned := Video.planned_of_plan h
  constructor
  · intro text htext
    obtain ⟨f, hf, rfl⟩ := hplanned.filters text htext
    exact plain_of_harmless (Video.Filter.harmless_text hf)
  · rcases hplanned.options with hnone | ⟨level, -, -, hsome⟩
    · simp [hnone]
    · rw [hsome]
      exact List.forall_mem_singleton.2 (show Video.qscaleFlag ∉ wiringFlags by decide)

/-- **Settings filter the only input** of a command: nothing is joined, and all filters run in order
if there are any. -/
structure FiltersOne (c : Command) (settings : List (String × String)) : Prop where
  graph : valuesOf "-filter_complex" settings = []
  maps : valuesOf "-map" settings = []
  filters : valuesOf "-vf" settings = if c.filters = [] then [] else [",".intercalate c.filters]

/-- **Settings join all inputs** of a command: there is one graph, which is read as its links and in
no other way. The first link joins the pads of all inputs and says how many inputs there are, two
labels are written, and the links are wired between the pads and these labels. -/
structure JoinsAll (c : Command) (settings : List (String × String)) : Prop where
  graph : valuesOf "-filter_complex" settings = [c.filterGraph]
  spelled : ∀ links, Spells links c.filterGraph ↔ links = c.links
  first : ∃ rest, c.links =
    ⟨c.pads, "concat=n=" ++ toString (c.splices.length + 1) ++ ":v=1:a=1", ["cv", "ca"]⟩ :: rest
  maps : valuesOf "-map" settings = c.written.map labelText
  two : c.written.length = 2
  wired : IsWired c.links c.pads c.written

section Filters

variable (hoptions : ∀ o ∈ c.options, o.1 ∉ wiringFlags)
include hoptions

theorem filtersOne_settings (h : c.splices = []) :
    c.FiltersOne (c.settings inputs container) := by
  have hfilters : c.filterSettings
      = if c.filters = [] then [] else [("-vf", ",".intercalate c.filters)] := if_pos h
  constructor
  all_goals
    rw [valuesOf_settings_of_filter hoptions (by decide), hfilters]
    split <;> rfl

theorem joinsAll_settings (h : c.splices ≠ []) (hplain : ∀ f ∈ c.filters, Plain f) :
    c.JoinsAll (c.settings inputs container) := by
  have hfilters : c.filterSettings = [("-filter_complex", c.filterGraph), ("-map", c.videoLabel),
      ("-map", joinedAudio)] := if_neg h
  have hvideo : c.videoLabel = labelText (if c.filters = [] then "cv" else "outv") := by
    simp only [videoLabel, List.isEmpty_iff]
    split <;> rfl
  have hspells := spells_links hplain
  refine ⟨?_, fun links => ⟨hspells.unique c.isDetermined_links, ?_⟩, ?_, ?_, rfl,
    c.isWired_links⟩
  · rw [valuesOf_settings_of_filter hoptions (by decide), hfilters]
    rfl
  · rintro rfl
    exact hspells
  · rw [links, joinLink, inputCount, Nat.add_comm]
    exact ⟨_, rfl⟩
  · rw [valuesOf_settings_of_filter hoptions (by decide), hfilters, written, hvideo]
    rfl

end Filters

/-- **The graph of a command is fully and singly wired.** Of every command whose options keep off the
flags that wire, there are arguments just for as many paths as it has inputs, and these arguments are
read as settings in one way. The paths are the inputs, in their order; a seek is there once, right
before the first of them. Without spliced assets the filters alone are there, if there are any; with
some, and with filters in which no part of a graph begins or ends, one graph joins all inputs. The
filters of plans are such filters. -/
theorem graph_wired (c : Command) (hoptions : ∀ o ∈ c.options, o.1 ∉ wiringFlags)
    (inputs : List String) (container : Container) :
    ((∃ args, c.arguments? inputs container = .ok args) ↔
      inputs.length = c.splices.length + 1) ∧
    (∀ args, c.arguments? inputs container = .ok args → ∃ settings,
      (∀ other, HasSettings args other ↔ other = settings) ∧
      valuesOf "-i" settings = inputs ∧
      valuesOf "-ss" settings = (c.seek.map Number.text).toList ∧
      (∀ seconds, c.seek = some seconds →
        ∃ first, [("-ss", seconds.text), ("-i", first)] <+: settings) ∧
      (c.splices = [] → c.FiltersOne settings) ∧
      (c.splices ≠ [] → (∀ f ∈ c.filters, Plain f) → c.JoinsAll settings)) ∧
    ∀ config chain, Video.plan (Video.registry config) chain = .ok c →
      ∀ f ∈ c.filters, Plain f := by
  refine ⟨?_, fun args hargs => ?_, fun config chain h => (plain_of_plan h).1⟩
  · simp only [arguments?_eq_ok_iff, exists_and_left, inputCount, Nat.add_comm 1]
    exact ⟨fun h => h.1, fun h => ⟨h, _, rfl⟩⟩
  · obtain ⟨hcount, hsettings⟩ := arguments?_eq_ok_iff.1 hargs
    refine ⟨c.settings inputs container, fun other => ⟨(·.unique hsettings), ?_⟩, ?_, ?_,
      fun seconds hseek => ?_, filtersOne_settings hoptions, joinsAll_settings hoptions⟩
    · rintro rfl
      exact hsettings
    · rw [valuesOf_settings_of_input hoptions (.inr rfl)]
      rfl
    · rw [valuesOf_settings_of_input hoptions (.inl rfl)]
      exact List.append_nil _
    · obtain ⟨first, rest, rfl⟩ : ∃ first rest, inputs = first :: rest :=
        List.exists_cons_of_length_pos (by rw [hcount, inputCount]; omega)
      refine ⟨first, ?_⟩
      rw [settings, inputSettings, hseek]
      exact ⟨rest.map ("-i", ·) ++ c.filterSettings ++ c.outputSettings container, rfl⟩

/-- A command with a seek, two spliced assets, a filter and an option. -/
def splicedCommand : Command where
  seek := some (.ofDecimal false 25 (-1))
  filters := ["crop=100:100:0:0", "scale=50:-2"]
  splices := ["b.mp4", "c.mp4"]
  options := [("-qscale:v", "4")]

/-- Three inputs are joined by one graph, which reads in one way, and its two labels are written. -/
theorem graph_wired_spliced :
    ∃ args settings, splicedCommand.arguments? ["in0", "in1", "in2"] .webm = .ok args ∧
      HasSettings args settings ∧
      valuesOf "-ss" settings = ["2.5"] ∧
      valuesOf "-filter_complex" settings = ["[0:v][0:a][1:v][1:a][2:v][2:a]" ++
        "concat=n=3:v=1:a=1[cv][ca];[cv]crop=100:100:0:0,scale=50:-2[outv]"] ∧
      valuesOf "-map" settings = ["[outv]", "[ca]"] ∧
      splicedCommand.JoinsAll settings := by
  obtain ⟨hexists, hsettings, -⟩ :=
    graph_wired splicedCommand (by decide) ["in0", "in1", "in2"] .webm
  obtain ⟨args, hargs⟩ := hexists.2 rfl
  obtain ⟨settings, hread, -, hseek, -, -, hjoins⟩ := hsettings args hargs
  have hall := hjoins (List.cons_ne_nil _ _) (by decide)
  refine ⟨args, settings, hargs, (hread settings).2 rfl, ?_, ?_, ?_, hall⟩
  · rw [hseek]
    decide +kernel
  · rw [hall.graph]
    decide +kernel
  · rw [hall.maps]
    decide +kernel

end Command

end MediaTransform
