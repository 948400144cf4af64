import MediaTransform.CommandLine.Report
import MediaTransform.Proofs.Number.PlainText
import MediaTransform.Proofs.Storage.Confinement
import MediaTransform.Proofs.Url.Shape
import MediaTransform.Proofs.Video.Change
import MediaTransform.Stream.ScriptedProgram

/-! # Requests read only what they name

* **`Request.slash_free`** — ids, kinds and values that are read from a path hold no slash.
* **`Video.slash_not_mem_splices`** — nor do the names of the spliced assets of a plan.
* **`Service.exists_of_mem_reads`** — what a path makes a service read: the id, and the spliced
  assets.
* **`Service.render_congr`** — the result depends on the store at these names only.
* **`Service.reads_confined`** — so every request reads files right below the root, and no others. -/

namespace MediaTransform

/-! ## (1) Texts without slashes -/

/-- A value read from a text without a slash is written without one. -/
theorem slash_not_mem_display_coerce {raw : String} (h : '/' ∉ raw.toList) :
    '/' ∉ (coerce raw).display.toList := by
  cases hv : coerce raw with
  | number x => exact Number.not_mem_text (by decide) (by decide) x
  | text t =>
    obtain ⟨rfl, -⟩ := coerce_eq_text_iff.1 hv
    exact h

/-- **No text of the spec holds a slash**: neither its kind nor a value. -/
def Spec.SlashFree (s : Spec) : Prop :=
  '/' ∉ s.kind.toList ∧ ∀ e ∈ s.params.entries, '/' ∉ e.2.display.toList

/-- A segment without a slash is read as a spec without one. -/
theorem Spec.slashFree_of_ofSegment? {segment : String} {s : Spec} (h : '/' ∉ segment.toList)
    (hs : ofSegment? segment = some s) : s.SlashFree := by
  obtain ⟨-, tokens, hcut, hparams⟩ := ofSegment?_eq_some_iff.1 hs
  refine ⟨fun hc => h (hcut.mem_of_part List.mem_cons_self hc), fun e he => ?_⟩
  rw [hparams] at he
  obtain ⟨token, ht, rfl⟩ := List.mem_map.1 (Dictionary.mem_of_mem_ofList he)
  obtain ⟨key, raw, heq, -, hmem⟩ := parameterOfToken_eq token
  rw [heq]
  refine slash_not_mem_display_coerce fun hc => ?_
  exact h (hcut.mem_of_part (List.mem_cons_of_mem _ ht) (hmem '/' (.inr hc)))

/-- **What is read from a path holds no slash.** -/
theorem Request.slash_free {raw : String} {r : Request} (h : parse raw = .ok r) :
    '/' ∉ r.asset.publicId.toList ∧ ∀ s ∈ r.chain, s.SlashFree := by
  obtain ⟨before, middle, id, hshape, rfl⟩ := parse_eq_ok_iff.1 h
  obtain ⟨⟨path, -, hcut⟩, -, -⟩ := hshape
  refine ⟨hcut.2.1 id (by simp), fun s hs => ?_⟩
  obtain ⟨segment, hsegment, hread⟩ := List.mem_filterMap.1 hs
  split at hread
  · exact Spec.slashFree_of_ofSegment? (hcut.2.1 segment (by simp [hsegment])) hread
  · cases hread

/-! ## (2) Spliced assets -/

/-- The parameters for a call hold no slash if the spec holds none. -/
theorem Spec.SlashFree.found {H : Type} {r : Registry H} {s : Spec} {found : Resolved H}
    (h : s.SlashFree) (hfound : r.resolve s = some found) :
    ∀ e ∈ found.params.entries, '/' ∉ e.2.display.toList := by
  intro e he
  rcases (Registry.resolve_cases hfound).2 with ⟨-, hparams⟩ | ⟨raw, hdirective, hparams⟩
  · rw [hparams] at he
    exact h.2 e he
  · rw [hparams] at he
    rcases Dictionary.mem_of_mem_withDefault he with rfl | hold
    · -- the default is read from the part of the kind after its first underscore
      refine slash_not_mem_display_coerce fun hc => h.1 ?_
      rw [(Text.cut?_eq_some_iff.1 hdirective).1, String.toList_append]
      exact List.mem_append_right _ hc
    · exact h.2 e hold

/-- Taking the mark off adds no character. -/
theorem Video.mem_of_mem_withoutMark {name : String} {c : Char}
    (h : c ∈ (withoutMark name).toList) : c ∈ name.toList := by
  unfold withoutMark at h
  split at h
  · rw [String.toList_ofList] at h
    exact List.mem_of_mem_drop h
  · exact h

/-- **No spliced asset of a plan has a slash in its name**, if no spec holds one. -/
theorem Video.slash_not_mem_splices {config : Config.Pipeline} {chain : Chain} {command : Command}
    (hchain : ∀ s ∈ chain, s.SlashFree) (h : plan (registry config) chain = .ok command) :
    ∀ n ∈ command.splices, '/' ∉ n.toList := by
  -- the names so far are free of slashes, and a call adds at most the one that `l` holds
  refine Registry.fold_induction (fun c => ∀ n ∈ c.splices, '/' ∉ n.toList)
    (fun s hs found hfound c next hc hnext => ?_) (by simp) h
  obtain ⟨change, hallowed, hchange⟩ := exists_change_of_step hfound hnext
  have hsplices : next.splices = (change.apply c).splices := by rw [hchange]
  rw [hsplices]
  generalize groupOf config s = group at hallowed
  cases hallowed with
  | @splice v hv =>
    intro n hn
    rcases List.mem_append.1 hn with hold | hnew
    · exact hc n hold
    · rw [List.mem_singleton.1 hnew]
      exact fun hslash => (hchain s hs).found hfound _ (Dictionary.mem_of_get? hv)
        (mem_of_mem_withoutMark hslash)
  | _ => exact hc

/-! ## (3) What is read -/

/-- A tool is available exactly when it can be had. -/
theorem Toolbox.isAvailable_iff {b : Toolbox} {name : String} :
    b.isAvailable name = true ↔ ∃ path, b.require name = .ok path := by
  unfold isAvailable require
  cases b.paths.lookup name with
  | none => exact ⟨nofun, nofun⟩
  | some path => exact ⟨fun _ => ⟨path, rfl⟩, fun _ => rfl⟩

namespace Service

/-- **What a path makes a service read**: the id of the request once its route is settled, or a
spliced asset of its plan once plan and tool are there. -/
theorem exists_of_mem_reads {s : Service} {path n : String} (h : n ∈ s.reads path) :
    ∃ r, Request.parse path = .ok r ∧ (n = r.asset.publicId ∨
      ∃ command, s.plan r.chain = .ok command ∧
        s.tools.isAvailable Toolbox.transcoder = true ∧ n ∈ command.splices) := by
  unfold reads at h
  cases hparse : Request.parse path with
  | error e =>
    rw [hparse] at h
    cases h
  | ok r =>
    refine ⟨r, rfl, ?_⟩
    rw [hparse] at h
    dsimp only at h
    cases hroute : Route.ofRequest r with
    | error e =>
      rw [hroute] at h
      cases h
    | ok route =>
      rw [hroute] at h
      dsimp only at h
      rcases List.mem_cons.1 h with hid | hsplice
      · exact .inl hid
      · -- spliced assets are read for videos only
        cases hdomain : route.domain with
        | image =>
          rw [hdomain] at hsplice
          cases hsplice
        | video =>
          rw [hdomain] at hsplice
          dsimp only at hsplice
          cases hplan : s.plan r.chain with
          | error e =>
            rw [hplan] at hsplice
            cases hsplice
          | ok command =>
            rw [hplan] at hsplice
            dsimp only at hsplice
            split at hsplice
            · exact .inr ⟨command, rfl, ‹_›, hsplice⟩
            · cases hsplice

/-- None of these names holds a slash. -/
theorem mem_reads {s : Service} {path n : String} (h : n ∈ s.reads path) :
    '/' ∉ n.toList ∧ ∃ r, Request.parse path = .ok r ∧
      (n = r.asset.publicId ∨ ∃ command, s.plan r.chain = .ok command ∧ n ∈ command.splices) := by
  obtain ⟨r, hparse, horigin⟩ := exists_of_mem_reads h
  obtain ⟨hid, hchain⟩ := Request.slash_free hparse
  rcases horigin with rfl | ⟨command, hplan, -, hsplice⟩
  · exact ⟨hid, r, hparse, .inl rfl⟩
  · exact ⟨Video.slash_not_mem_splices hchain hplan n hsplice, r, hparse,
      .inr ⟨command, hplan, hsplice⟩⟩

/-- Stores that agree on some names load the same bytes for them. -/
theorem load_congr {assets other : AssetStore} {ids : List String}
    (h : ∀ n ∈ ids, assets n = other n) : load assets ids = load other ids := by
  induction ids with
  | nil => rfl
  | cons id rest ih =>
    rw [load, load, h id List.mem_cons_self, ih fun n hn => h n (List.mem_cons_of_mem _ hn)]

/-- A transcode is prepared alike over stores that agree on the spliced assets, which are read only
once the plan and the tool are there. -/
theorem prepare_congr {s : Service} {source : Bytes} {chain : Chain} {mime : String}
    {other : AssetStore}
    (h : ∀ command, s.plan chain = .ok command → s.tools.isAvailable Toolbox.transcoder = true →
      ∀ n ∈ command.splices, s.assets n = other n) :
    s.prepare source chain mime = { s with assets := other }.prepare source chain mime := by
  have hsame : ({ s with assets := other } : Service).plan chain = s.plan chain := rfl
  unfold prepare
  rw [hsame]
  cases hplan : s.plan chain with
  | error e => rfl
  | ok command =>
    dsimp only [bind, Except.bind]
    cases htool : s.tools.require Toolbox.transcoder with
    -- the tool is asked for first, so no spliced asset is read
    | error e => rfl
    | ok path =>
      dsimp only
      rw [load_congr (h command hplan (Toolbox.isAvailable_iff.2 ⟨path, htool⟩))]

/-- **The result depends on the store at the names that are read only.** -/
theorem render_congr {s : Service} {path : String} {other : AssetStore}
    (h : ∀ n ∈ s.reads path, s.assets n = other n) :
    s.render path = { s with assets := other }.render path := by
  unfold render
  unfold reads at h
  cases hparse : Request.parse path with
  | error e => rfl
  | ok r =>
    rw [hparse] at h
    dsimp only at h
    dsimp only [bind, Except.bind]
    cases hroute : Route.ofRequest r with
    | error e => rfl
    | ok route =>
      rw [hroute] at h
      dsimp only at h
      dsimp only [fulfil, bind, Except.bind]
      -- the asset itself is read in both domains, spliced ones in the one of videos only
      rw [h r.asset.publicId List.mem_cons_self]
      cases other r.asset.publicId with
      | error e => rfl
      | ok source =>
        dsimp only [execute]
        cases hdomain : route.domain with
        | image => rfl
        | video =>
          dsimp only
          rw [prepare_congr]
          intro command hplan htool n hn
          refine h n (List.mem_cons_of_mem _ ?_)
          rw [hdomain, hplan]
          dsimp only
          rw [if_pos htool]
          exact hn

end Service

/-! ## (4) Files -/

/-- Readers that agree on the file of an id make the same of the id. -/
theorem Storage.below_congr {read other : FileReader} {root id : String}
    (h : ∀ file, resolve root id = .ok file → read file = other file) :
    below read root id = below other root id := by
  unfold below
  cases hfile : resolve root id with
  | error e => rfl
  | ok file =>
    dsimp only
    rw [h file hfile]

/-- The service with the files below a root as its assets. -/
def Service.onDisk (s : Service) (read : FileReader) (root : String) : Service :=
  { s with assets := Storage.below read root }

/-- **Replies agree over stores that agree on the names that are read.** -/
theorem Http.answer_congr {s : Service} {other : AssetStore} {fresh : String} {call : Http.Call}
    (h : ∀ n ∈ s.reads call.target.pathAndQuery, s.assets n = other n) :
    answer s fresh call = answer { s with assets := other } fresh call ∧
      hasNoReply s call = hasNoReply { s with assets := other } call := by
  have hrender := Service.render_congr h
  constructor
  · unfold answer reply
    rw [hrender]
  · unfold hasNoReply
    rw [hrender]

/-- Reports of the command line agree for worlds that agree on the files of the names. -/
theorem CommandLine.renderReport_congr {w : World} {other : FileReader} {config : Config}
    {url path : String}
    (h : ∀ n ∈ (serviceOf w config).reads (requestPath url), ∀ file,
      Storage.resolve config.storage.root n = .ok file → w.read file = other file) :
    renderReport w config url path = renderReport { w with read := other } config url path := by
  have hrender : (serviceOf w config).render (requestPath url)
      = (serviceOf { w with read := other } config).render (requestPath url) :=
    Service.render_congr fun n hn => Storage.below_congr (h n hn)
  unfold renderReport
  rw [hrender]

/-- **Requests read only files right below the root.** An id that is resolved consists of plain
names, which follow the root, so that it leads strictly below the root. Whatever a path makes a
service read is its id or a spliced asset of its plan, and where this has a file, the file is one
component after the root. Replies depend on the store at these names only; and over two disks that
agree on their files, replies and reports of renderings are the same. -/
theorem Service.reads_confined :
    (∀ root id path, Storage.resolve root id = .ok path →
      path = Path.join root id ∧
        ∃ names, names ≠ [] ∧ (∀ n ∈ names, Path.IsPlainName n) ∧
          Path.components id = names.map .name ∧
          Path.components path = Path.components root ++ names.map .name ∧
          ∀ place, Path.descend place (Path.components path)
            = Path.descend place (Path.components root) ++ names) ∧
    (∀ (s : Service) (path n : String), n ∈ s.reads path →
      (∃ r, Request.parse path = .ok r ∧
        (n = r.asset.publicId ∨ ∃ command, s.plan r.chain = .ok command ∧ n ∈ command.splices)) ∧
      ∀ root file, Storage.resolve root n = .ok file →
        file = Path.join root n ∧ Path.IsPlainName n ∧
          Path.components file = Path.components root ++ [.name n]) ∧
    (∀ (s : Service) (other : AssetStore) (fresh : String) (call : Http.Call),
      (∀ n ∈ s.reads call.target.pathAndQuery, s.assets n = other n) →
      Http.answer s fresh call = Http.answer { s with assets := other } fresh call ∧
        Http.hasNoReply s call = Http.hasNoReply { s with assets := other } call) ∧
    (∀ (s : Service) (read other : FileReader) (root fresh : String) (call : Http.Call),
      (∀ n ∈ s.reads call.target.pathAndQuery, ∀ file, Storage.resolve root n = .ok file →
        read file = other file) →
      Http.answer (s.onDisk read root) fresh call = Http.answer (s.onDisk other root) fresh call ∧
        Http.hasNoReply (s.onDisk read root) call = Http.hasNoReply (s.onDisk other root) call) ∧
    ∀ (w : CommandLine.World) (other : FileReader) (config : Config) (url path : String),
      (∀ n ∈ (CommandLine.serviceOf w config).reads (CommandLine.requestPath url), ∀ file,
        Storage.resolve config.storage.root n = .ok file → w.read file = other file) →
      CommandLine.renderReport w config url path
        = CommandLine.renderReport { w with read := other } config url path := by
  refine ⟨fun root id path h => Storage.resolve_confined h, fun s path n h => ?_,
    fun s other fresh call h => Http.answer_congr h, fun s read other root fresh call h => ?_,
    fun w other config url path h => CommandLine.renderReport_congr h⟩
  · obtain ⟨hslash, horigin⟩ := mem_reads h
    exact ⟨horigin, fun root file hfile => Storage.resolve_single hfile hslash⟩
  · exact @Http.answer_congr (s.onDisk read root) (Storage.below other root) fresh call
      fun n hn => Storage.below_congr (h n hn)

/-- A service with a transcoder and three videos, for trying. -/
def Service.sample : Service where
  config := {}
  tools := ⟨[(Toolbox.transcoder, "/usr/bin/ffmpeg")]⟩
  programAt := fun _ => ScriptedProgram.run
  assets := Storage.ofList
    [("clip.mp4", .bytes [1]), ("intro.mp4", .bytes [2]), ("other.mp4", .bytes [3])]

/-- A disk on which every file is the same, but for one outside the root. -/
def FileReader.sample : FileReader := fun path =>
  if path = "/etc/passwd" then .error .denied else .ok (.bytes [1])

/-- An id of two names, and a path with a splice over stores and disks that differ elsewhere. -/
theorem Service.reads_confined_sample :
    (∃ names, names ≠ [] ∧ Path.components "/srv/a//b.png"
      = Path.components "/srv/" ++ names.map .name) ∧
    (Service.sample.reads "/video/upload/fl_splice,l_video:intro.mp4/clip.mp4"
        = ["clip.mp4", "intro.mp4"] ∧
      "/srv/intro.mp4" = Path.join "/srv" "intro.mp4") ∧
    Http.answer Service.sample "id"
        ⟨"GET", ⟨"/video", "/video/upload/fl_splice,l_video:intro.mp4/clip.mp4"⟩, none⟩
      = Http.answer { Service.sample with
          assets := Storage.ofList [("clip.mp4", .bytes [1]), ("intro.mp4", .bytes [2])] } "id"
        ⟨"GET", ⟨"/video", "/video/upload/fl_splice,l_video:intro.mp4/clip.mp4"⟩, none⟩ ∧
    Http.answer (Service.sample.onDisk (fun _ => .ok (.bytes [1])) "/srv") "id"
        ⟨"GET", ⟨"/video", "/video/upload/fl_splice,l_video:intro.mp4/clip.mp4"⟩, none⟩
      = Http.answer (Service.sample.onDisk .sample "/srv") "id"
        ⟨"GET", ⟨"/video", "/video/upload/fl_splice,l_video:intro.mp4/clip.mp4"⟩, none⟩ ∧
    CommandLine.renderReport { CommandLine.World.ofKnown [] [] none with read := .sample } {}
        "http://host/image/upload/cat.png" "out.png"
      = CommandLine.renderReport { CommandLine.World.ofKnown [] [] none with
          read := fun _ => .ok (.bytes [1]) } {} "http://host/image/upload/cat.png" "out.png" := by
  have hreads : Service.sample.reads "/video/upload/fl_splice,l_video:intro.mp4/clip.mp4"
      = ["clip.mp4", "intro.mp4"] := by
    decide +kernel
  have hcli : (CommandLine.serviceOf { CommandLine.World.ofKnown [] [] none with read := .sample }
      {}).reads (CommandLine.requestPath "http://host/image/upload/cat.png") = ["cat.png"] := by
    decide +kernel
  obtain ⟨hresolve, hread, hstore, hdisk, hworld⟩ := reads_confined
  refine ⟨?_, ⟨hreads, ?_⟩, ?_, ?_, ?_⟩
  · obtain ⟨-, names, hne, -, -, hcomponents, -⟩ := hresolve "/srv/" "a//b.png" "/srv/a//b.png" rfl
    exact ⟨names, hne, hcomponents⟩
  · exact ((hread Service.sample _ "intro.mp4" (by rw [hreads]; decide)).2 "/srv" _ rfl).1
  · refine (hstore Service.sample _ "id" _ fun n hn => ?_).1
    rw [hreads] at hn
    rcases List.mem_cons.1 hn with rfl | hn
    · rfl
    · rw [List.mem_singleton.1 hn]
      rfl
  · refine (hdisk Service.sample _ _ "/srv" "id" _ fun n hn file hfile => ?_).1
    rw [hreads] at hn
    rcases List.mem_cons.1 hn with rfl | hn
    · have hpath : Storage.resolve "/srv" "clip.mp4" = .ok "/srv/clip.mp4" := rfl
      rw [Except.ok.inj (hfile.symm.trans hpath)]
      exact (if_neg (by decide)).symm
    · rw [List.mem_singleton.1 hn] at hfile
      have hpath : Storage.resolve "/srv" "intro.mp4" = .ok "/srv/intro.mp4" := rfl
      rw [Except.ok.inj (hfile.symm.trans hpath)]
      exact (if_neg (by decide)).symm
  · refine hworld _ _ {} _ "out.png" fun n hn file hfile => ?_
    rw [hcli] at hn
    rw [List.mem_singleton.1 hn] at hfile
    have hpath : Storage.resolve "uploads" "cat.png" = .ok "uploads/cat.png" := rfl
    rw [Except.ok.inj (hfile.symm.trans hpath)]
    show FileReader.sample "uploads/cat.png" = .ok (.bytes [1])
    exact if_neg (by decide)

end MediaTransform
