import Mathlib.Data.List.Nodup
import MediaTransform.Proofs.Service.Stages
import MediaTransform.Proofs.Stream.Delivery

/-! # Prepared transcodes

The names in a command, the buffers that are loaded for them and the files that the program is
started on are three lists that are made one after the other. They stay aligned:

* **`AssetStore.Holds`** — what a store has under a name; `Service.load_eq_ok_iff` counts the loaded
  buffers off against the names.
* **`AssetStore.FirstUnreadable`** — the first name that cannot be read; `load_eq_error_iff`.
* **`Transcode.Supplied`** — a transcode that is started on one file for each input of its command.
* **`Transcode.Run.failuresOfTool`** — whatever happens in a run of such a transcode, all failures
  are those of the tool.
* **`Service.prepare_supplied`** — what is prepared is supplied, and where an asset is missing, the
  first one in the order of the chain gives the error. -/

namespace MediaTransform

/-! ## (1) Loading -/

/-- **What a store has under a name.** -/
def AssetStore.Holds (assets : AssetStore) (name : String) (bytes : Bytes) : Prop :=
  ∃ contents, assets name = .ok contents ∧ contents.toBytes = bytes

/-- **The first of some names that cannot be read**, which gives the error. -/
def AssetStore.FirstUnreadable (assets : AssetStore) (names : List String) (e : Error) : Prop :=
  ∃ before name after, names = before ++ name :: after ∧
    (∀ n ∈ before, ∃ bytes, assets.Holds n bytes) ∧ assets name = .error e

namespace Service

/-- **The buffers that are loaded are those of the names**, one by one and in order. -/
theorem load_eq_ok_iff {assets : AssetStore} {names : List String} {loaded : List Bytes} :
    load assets names = .ok loaded ↔ List.Forall₂ assets.Holds names loaded := by
  induction names generalizing loaded with
  | nil =>
    rw [List.forall₂_nil_left_iff, load, Except.ok.injEq]
    exact eq_comm
  | cons name rest ih =>
    rw [List.forall₂_cons_left_iff, load]
    constructor
    · intro h
      cases hname : assets name with
      | error e =>
        rw [hname] at h
        cases h
      | ok contents =>
        cases hrest : load assets rest with
        | error e =>
          rw [hname, hrest] at h
          cases h
        | ok more =>
          rw [hname, hrest] at h
          cases h
          exact ⟨_, more, ⟨contents, hname, rfl⟩, ih.1 hrest, rfl⟩
    · rintro ⟨bytes, more, ⟨contents, hname, rfl⟩, hrest, rfl⟩
      rw [hname, ih.2 hrest]

/-- **Loading fails with the error of the first name that cannot be read.** -/
theorem load_eq_error_iff {assets : AssetStore} {names : List String} {e : Error} :
    load assets names = .error e ↔ assets.FirstUnreadable names e := by
  have hreadable (n : String) :
      errorOf (assets n) = none ↔ ∃ bytes, assets.Holds n bytes := by
    rw [errorOf_eq_none_iff]
    constructor
    · rintro ⟨contents, hn⟩
      exact ⟨contents.toBytes, contents, hn, rfl⟩
    · rintro ⟨bytes, contents, hn, -⟩
      exact ⟨contents, hn⟩
  rw [← errorOf_eq_some_iff, errorOf_load, List.findSome?_eq_some_iff]
  constructor
  · rintro ⟨before, name, after, hnames, hname, hbefore⟩
    exact ⟨before, name, after, hnames, fun n hn => (hreadable n).1 (hbefore n hn),
      errorOf_eq_some_iff.1 hname⟩
  · rintro ⟨before, name, after, hnames, hbefore, hname⟩
    exact ⟨before, name, after, hnames, errorOf_eq_some_iff.2 hname,
      fun n hn => (hreadable n).2 (hbefore n hn)⟩

/-! ## (2) Preparing -/

variable {s : Service} {source : Bytes} {chain : Chain} {mime : String} {command : Command}
  {job : Transcode} {e : Error}

/-- **What is prepared**: the plan of the chain, with the buffers of its names. -/
theorem prepare_eq_ok_iff :
    s.prepare source chain mime = .ok job ↔
      ∃ command path splices, s.plan chain = .ok command ∧
        s.tools.require Toolbox.transcoder = .ok path ∧
        List.Forall₂ s.assets.Holds command.splices splices ∧
        job = { program := s.programAt path, timeoutMillis := 1000 * s.config.videoTimeoutSecs,
                chunkBytes := s.config.streamChunkBytes, command, primary := source, splices,
                container := .ofMime mime } := by
  constructor
  · intro h
    obtain ⟨command, hplan, htooled⟩ := bind_eq_ok_iff.1 h
    obtain ⟨path, htool, hloaded⟩ := bind_eq_ok_iff.1 htooled
    obtain ⟨splices, hload, hjob⟩ := bind_eq_ok_iff.1 hloaded
    cases hjob
    exact ⟨command, path, splices, hplan, htool, load_eq_ok_iff.1 hload, rfl⟩
  · rintro ⟨command, path, splices, hplan, htool, hload, rfl⟩
    exact bind_eq_ok_iff.2 ⟨command, hplan, bind_eq_ok_iff.2 ⟨path, htool,
      bind_eq_ok_iff.2 ⟨splices, load_eq_ok_iff.2 hload, rfl⟩⟩⟩

/-- Once there is a plan and the tool is there, only an asset can be missing. -/
theorem prepare_eq_error_iff (hplan : s.plan chain = .ok command)
    (htool : s.tools.isAvailable Toolbox.transcoder = true) :
    s.prepare source chain mime = .error e ↔ s.assets.FirstUnreadable command.splices e := by
  obtain ⟨path, hpath⟩ := Toolbox.isAvailable_iff.1 htool
  rw [← load_eq_error_iff]
  unfold prepare
  rw [hplan, hpath]
  dsimp only [bind, Except.bind]
  cases load s.assets command.splices with
  | error e' => simp only [Except.error.injEq]
  | ok loaded => exact ⟨nofun, nofun⟩

end Service

/-! ## (3) Input files -/

namespace Transcode

variable {t : Transcode} {c : Child}

/-- No two input files have one name. -/
theorem inputName_injective : Function.Injective inputName :=
  fun _ _ h => toString_nat_injective ((String.append_right_inj "input").1 h)

theorem getElem?_inputs (t : Transcode) (k : Nat) :
    t.inputs[k]? = (t.primary :: t.splices)[k]?.map (inputName k, ·) :=
  List.getElem?_mapIdx

/-- The names of the input files are counted through. -/
theorem names_inputs (t : Transcode) :
    t.inputs.map (·.1) = (List.range (1 + t.splices.length)).map inputName := by
  refine List.ext_getElem? fun k => ?_
  rw [List.getElem?_map, getElem?_inputs, List.getElem?_map, Option.map_map]
  by_cases hk : k < 1 + t.splices.length
  · have hlength : k < (t.primary :: t.splices).length := by
      rw [List.length_cons]
      omega
    rw [List.getElem?_eq_getElem hlength, List.getElem?_range hk]
    rfl
  · have hlength : (t.primary :: t.splices).length ≤ k := by
      rw [List.length_cons]
      omega
    rw [List.getElem?_eq_none hlength, List.getElem?_eq_none (by simpa using hk)]
    rfl

/-! ## (4) Failures -/

/-- **A failure of the tool**, of which the start, the time and the end of the program are all. -/
def IsOfTool (e : Error) : Prop := ∃ reason, e = .tool "ffmpeg" reason

/-- **All failures so far are those of the tool**: the ones put in, and the one that the writer is
telling of. -/
structure FailuresOfTool (items : List Item) (phase : Phase) : Prop where
  put : ∀ e, .failure e ∈ items → IsOfTool e
  told : ∀ e, phase = .failing e → IsOfTool e

/-- A step that puts no failure in keeps it, if what the writer turns to is one of the tool. -/
theorem FailuresOfTool.next {events : List Event} {e : Event} {phase phase' : Phase}
    (h : FailuresOfTool (putIn events) phase) (hput : ∀ e', .failure e' ∉ putIn [e])
    (htold : ∀ e', phase' = .failing e' → IsOfTool e') :
    FailuresOfTool (putIn (events ++ [e])) phase' := by
  refine ⟨fun e' he' => ?_, htold⟩
  rw [putIn_append, List.mem_append] at he'
  rcases he' with hold | hnew
  · exact h.put e' hold
  · exact absurd hnew (hput e')

/-- **Every step keeps it.** -/
theorem Step.failuresOfTool {s s' : State} {e : Event} {events : List Event}
    (step : Step t c s e s') (h : FailuresOfTool (putIn events) s.phase) :
    FailuresOfTool (putIn (events ++ [e])) s'.phase := by
  cases step with
  | send chunk rest sent sink next size taken => exact h.next (by simp) nofun
  | abandon rest sent sink more gone => exact h.next (by simp) nofun
  | complete sent sink well => exact h.next (by simp) nofun
  | fail sent sink badly ended =>
    refine h.next (by simp) fun e' he' => ?_
    cases he'
    exact ⟨_, rfl⟩
  | timeOut rest sent sink =>
    refine h.next (by simp) fun e' he' => ?_
    cases he'
    exact ⟨_, rfl⟩
  | report e sink next taken =>
    -- the failure that is put in is the one that was told of
    refine ⟨fun e' he' => ?_, nofun⟩
    rw [putIn_append, putIn_put, List.mem_append, List.mem_singleton] at he'
    rcases he' with hold | hnew
    · exact h.put e' hold
    · cases hnew
      exact h.told e rfl
  | giveUp e sink gone => exact h.next (by simp) nofun
  | read i phase sink next got present => exact h.next (by simp) h.told
  | leave phase sink present => exact h.next (by simp) h.told

/-- **So does every run.** -/
theorem Run.failuresOfTool {s s' : State} {events : List Event} (run : Run t c s events s')
    (h : FailuresOfTool [] s.phase) : FailuresOfTool (putIn events) s'.phase := by
  induction run with
  | here => exact h
  | next before step ih => exact step.failuresOfTool ih

/-- It holds at the start, unless the arguments cannot be had. -/
theorem failuresOfTool_begin {arguments : List String} {sink : Sink}
    (h : t.command.arguments? (t.inputs.map (·.1)) t.container = .ok arguments) :
    FailuresOfTool [] (t.begin sink).2.phase := by
  refine ⟨nofun, fun e he => ?_⟩
  unfold begin start at he
  rw [h] at he
  dsimp only at he
  cases hlaunch : t.program.launch arguments t.inputs with
  | child c =>
    -- a program that was started is met without a failure
    rw [hlaunch] at he
    dsimp only [launch] at he
    split at he
    · cases he
    · cases he
  | refused reason =>
    rw [hlaunch] at he
    cases he
    exact ⟨_, rfl⟩

/-! ## (5) Supplied transcodes -/

/-- **A transcode that is started on one file for each input of its command**, the first of them
with the source and the others with what a store has under the spliced names. -/
structure Supplied (t : Transcode) (source : Bytes) (assets : AssetStore) : Prop where
  splices : List.Forall₂ assets.Holds t.command.splices t.splices
  /-- There are as many files as the command has inputs, counted through in their names. -/
  count : t.inputs.length = t.command.inputCount
  names : t.inputs.map (·.1) = (List.range t.command.inputCount).map inputName
  distinct : (t.inputs.map (·.1)).Nodup
  primary : t.inputs[0]? = some (inputName 0, source)
  spliced : ∀ (k : Nat) (name : String), t.command.splices[k]? = some name →
    ∃ bytes, assets.Holds name bytes ∧ t.inputs[k + 1]? = some (inputName (k + 1), bytes)
  /-- The arguments are there, so that starting can only fail as the tool does. -/
  arguments : ∃ arguments, t.command.arguments? (t.inputs.map (·.1)) t.container = .ok arguments
  failures : ∀ capacity events last, t.Runs capacity events last →
    FailuresOfTool (putIn events) last.phase

/-- **Buffers that are counted off against the names of the command are all that is needed.** -/
theorem supplied_of_holds {assets : AssetStore}
    (h : List.Forall₂ assets.Holds t.command.splices t.splices) :
    t.Supplied t.primary assets := by
  have hlength : t.command.splices.length = t.splices.length := h.length_eq
  have hcount : t.command.inputCount = 1 + t.splices.length := by
    rw [Command.inputCount, hlength]
  have hnames : t.inputs.map (·.1) = (List.range t.command.inputCount).map inputName := by
    rw [hcount]
    exact names_inputs t
  have hinputs : t.inputs.length = t.command.inputCount := by
    rw [← List.length_map (·.1), hnames, List.length_map, List.length_range]
  have harguments :
      ∃ arguments, t.command.arguments? (t.inputs.map (·.1)) t.container = .ok arguments := by
    rw [Command.arguments?, List.length_map, if_pos hinputs]
    exact ⟨_, rfl⟩
  refine ⟨h, hinputs, hnames, ?_, ?_, fun k name hname => ?_, harguments,
    fun capacity events last run => ?_⟩
  · rw [hnames]
    exact List.nodup_range.map inputName_injective
  · rw [getElem?_inputs]
    rfl
  · have hk : k < t.splices.length := by
      rw [← hlength]
      exact (List.getElem?_eq_some_iff.1 hname).1
    refine ⟨t.splices[k], ?_, ?_⟩
    · have hget := h.get (by rwa [hlength]) hk
      rw [List.get_eq_getElem, List.get_eq_getElem] at hget
      rwa [← (List.getElem?_eq_some_iff.1 hname).2]
    · rw [getElem?_inputs, List.getElem?_cons_succ, List.getElem?_eq_getElem hk]
      rfl
  · obtain ⟨arguments, hok⟩ := harguments
    exact Run.failuresOfTool run (failuresOfTool_begin hok)

end Transcode

/-! ## (6) What is prepared is supplied -/

namespace Service

/-- **A prepared transcode can be started, and a missing asset is told of.** Whatever is prepared
has the plan of its chain, with the spliced names in the order of their specs; it is started on the
source and on what the store has under these names, one file for each, so that all failures of its
runs are those of the tool. And where there is a plan and the tool is there, the error is that of
the first of the names that cannot be read. -/
theorem prepare_supplied (s : Service) (source : Bytes) (chain : Chain) (mime : String) :
    (∀ job, s.prepare source chain mime = .ok job →
      s.plan chain = .ok job.command ∧ job.Supplied source s.assets) ∧
    ∀ command, s.plan chain = .ok command →
      List.Forall₂ (fun spec name => Video.Contributes s.config spec (.splice name))
        (Video.ofGroup s.config .splice chain) command.splices ∧
      (s.tools.isAvailable Toolbox.transcoder = true → ∀ e,
        s.prepare source chain mime = .error e ↔
          s.assets.FirstUnreadable command.splices e) := by
  refine ⟨fun job hjob => ?_, fun command hplan => ⟨?_, fun htool e => ?_⟩⟩
  · obtain ⟨command, path, splices, hplan, -, hholds, rfl⟩ := prepare_eq_ok_iff.1 hjob
    exact ⟨hplan, Transcode.supplied_of_holds hholds⟩
  · exact Video.fills_splices.forall₂ rfl hplan
  · exact prepare_eq_error_iff hplan htool

/-- A chain that splices one video twice, another one between, and does other things besides. -/
def splicingChain : Chain :=
  [⟨"fl_splice", .ofList [("l", .text "video:intro.mp4")]⟩, ⟨"q_4", .empty⟩,
    ⟨"fl_splice", .ofList [("l", .text "other.mp4")]⟩, ⟨"so_2", .empty⟩,
    ⟨"fl_splice", .ofList [("l", .text "intro.mp4")]⟩]

/-- What it plans. -/
def splicingCommand : Command where
  seek := some (.ofNat 2)
  splices := ["intro.mp4", "other.mp4", "intro.mp4"]
  options := [("-qscale:v", "4")]

/-- What is prepared for it, over one byte. -/
def splicingJob : Transcode where
  program := ScriptedProgram.run
  timeoutMillis := 1000 * sample.config.videoTimeoutSecs
  chunkBytes := sample.config.streamChunkBytes
  command := splicingCommand
  primary := [1]
  splices := [[2], [3], [2]]
  container := .fragmentedMp4

/-- The same chain with two videos more that are not there. -/
def brokenChain : Chain :=
  splicingChain ++ [⟨"fl_splice", .ofList [("l", .text "gone.mp4")]⟩,
    ⟨"fl_splice", .ofList [("l", .text "absent.mp4")]⟩]

/-- The one chain is prepared with four files, and the other fails with the first missing one. -/
theorem prepare_supplied_sample :
    sample.prepare [1] splicingChain "video/mp4" = .ok splicingJob ∧
    splicingJob.Supplied [1] sample.assets ∧
    splicingJob.inputs = [("input0", [1]), ("input1", [2]), ("input2", [3]), ("input3", [2])] ∧
    sample.prepare [1] brokenChain "video/mp4" = .error (Storage.absent "gone.mp4") := by
  have hplan : sample.plan splicingChain = .ok splicingCommand := by decide +kernel
  have hbroken : sample.plan brokenChain = .ok { splicingCommand with
      splices := ["intro.mp4", "other.mp4", "intro.mp4", "gone.mp4", "absent.mp4"] } := by
    decide +kernel
  have hintro : sample.assets.Holds "intro.mp4" [2] := ⟨.bytes [2], rfl, rfl⟩
  have hother : sample.assets.Holds "other.mp4" [3] := ⟨.bytes [3], rfl, rfl⟩
  have hjob : sample.prepare [1] splicingChain "video/mp4" = .ok splicingJob :=
    prepare_eq_ok_iff.2 ⟨splicingCommand, "/usr/bin/ffmpeg", [[2], [3], [2]], hplan, rfl,
      .cons hintro (.cons hother (.cons hintro .nil)), rfl⟩
  refine ⟨hjob, ((prepare_supplied sample [1] splicingChain "video/mp4").1 _ hjob).2, by decide, ?_⟩
  refine (((prepare_supplied sample [1] brokenChain "video/mp4").2 _ hbroken).2 rfl _).2
    ⟨["intro.mp4", "other.mp4", "intro.mp4"], "gone.mp4", ["absent.mp4"], rfl, ?_, rfl⟩
  intro n hn
  simp only [List.mem_cons, List.not_mem_nil, or_false] at hn
  rcases hn with rfl | rfl | rfl
  · exact ⟨_, hintro⟩
  · exact ⟨_, hother⟩
  · exact ⟨_, hintro⟩

end Service

end MediaTransform
