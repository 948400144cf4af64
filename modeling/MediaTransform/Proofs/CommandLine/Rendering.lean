import MediaTransform.Proofs.CommandLine.Address
import MediaTransform.Proofs.Storage.FileTree
import MediaTransform.Proofs.Stream.Reading

/-! # Renderings leave all or nothing

A rendering ends with a report, and its file is written by the report. Which report this is depends
on the service, and for videos on the interleaving of the program, the clock and the reader.

* **`Rendered.Delivers`** — the contents that a result may come to, or the failure.
* **`CommandLine.MayReport`** — the reports that a rendering may end with; `renderReport` is one.
* **`Service.Completes`** — what the whole contents of a path are.
* **`CommandLine.render_all_or_nothing`** — a rendering fails and leaves every tree of files as it
  was, or leaves the whole contents in its file and tells their length. -/

namespace MediaTransform

/-! ## (1) Results that are delivered -/

/-- **What a result may come to** for a reader that takes every item, with the events in the stream:
an image is there, and a job needs a stream that can exist. -/
inductive Rendered.Delivers (capacity : Nat) :
    Rendered → List Transcode.Event → Except Error Buffer → Prop
  | image (mime : String) (contents : Buffer) :
      Delivers capacity (.image mime contents) [] (.ok contents)
  | video (mime : String) (job : Transcode) (events : List Transcode.Event)
      (result : Except Error Bytes) (possible : Sink.canExist capacity = true)
      (reads : job.Reads capacity events result) :
      Delivers capacity (.video mime job) events (result.map .bytes)
  | impossible (mime : String) (job : Transcode) (none : Sink.canExist capacity = false) :
      Delivers capacity (.video mime job) [] (.error collapseError)

/-- **The contents that are computed for a result are what it may come to.** -/
theorem Rendered.exists_delivers_contents (capacity : Nat) (rendered : Rendered) :
    ∃ events, rendered.Delivers capacity events (rendered.contents capacity) := by
  cases rendered with
  | image mime contents => exact ⟨[], .image mime contents⟩
  | video mime job =>
    cases hpossible : Sink.canExist capacity with
    | false =>
      refine ⟨[], ?_⟩
      rw [contents, canBeSent, hpossible, Bool.false_and, if_neg (by decide)]
      exact .impossible mime job hpossible
    | true =>
      cases hcollapses : job.collapses with
      | true =>
        refine ⟨[], ?_⟩
        rw [contents, canBeSent, hpossible, hcollapses, if_neg (by decide)]
        exact .video mime job [] _ hpossible (Transcode.reads_of_collapses hcollapses capacity)
      | false =>
        obtain ⟨events, hreads⟩ := Transcode.exists_reads_received hcollapses capacity
        refine ⟨events, ?_⟩
        rw [contents, canBeSent, hpossible, hcollapses, if_pos (by decide)]
        exact .video mime job events _ hpossible hreads

/-- A failure in the stream is one of the result. -/
theorem Rendered.Delivers.of_failure {capacity : Nat} {rendered : Rendered}
    {events : List Transcode.Event} {result : Except Error Buffer} {e : Error}
    (h : rendered.Delivers capacity events result) (he : .failure e ∈ Transcode.putIn events) :
    ∃ e', result = .error e' := by
  cases h with
  | image mime contents => cases he
  | video mime job events result possible reads =>
    obtain ⟨e', rfl⟩ := Transcode.reads_of_failure reads he
    exact ⟨e', rfl⟩
  | impossible mime job none => cases he

/-! ## (2) Whole contents -/

/-- **The whole contents of a path**, with their media type: the picture that the image chain ends
with, or all the output of a program that was started on the prepared job and ended well. -/
inductive Service.Completes (s : Service) (path mime : String) : Buffer → Prop
  | image (r : Request) (source final : Buffer) (parsed : Request.parse path = .ok r)
      (routed : Route.ofRequest r = .ok ⟨.image, mime⟩)
      (read : s.assets r.asset.publicId = .ok source)
      (ran : Image.run s.config source r.chain = .ok final) : Completes s path mime final
  | video (r : Request) (source : Buffer) (job : Transcode) (c : Child)
      (parsed : Request.parse path = .ok r) (routed : Route.ofRequest r = .ok ⟨.video, mime⟩)
      (read : s.assets r.asset.publicId = .ok source)
      (prepared : s.prepare source.toBytes r.chain mime = .ok job) (started : job.start = .ok c)
      (well : c.ending.isSuccess = true) : Completes s path mime (.bytes c.output)

/-- **Contents that a result comes to are the whole contents of its path.** -/
theorem Service.completes_of_delivers {s : Service} {path : String} {rendered : Rendered}
    {capacity : Nat} {events : List Transcode.Event} {contents : Buffer}
    (hrender : s.render path = .ok rendered)
    (h : rendered.Delivers capacity events (.ok contents)) :
    s.Completes path rendered.mime contents := by
  obtain ⟨r, hparse, hrouted⟩ := bind_eq_ok_iff.1 hrender
  obtain ⟨⟨domain, mime⟩, hroute, hfulfil⟩ := bind_eq_ok_iff.1 hrouted
  obtain ⟨source, hsource, hexecute⟩ := bind_eq_ok_iff.1 hfulfil
  cases domain with
  | image =>
    obtain ⟨final, hrun, rfl⟩ := map_eq_ok_iff.1 hexecute
    cases h with
    | image => exact .image r source _ hparse hroute hsource hrun
  | video =>
    obtain ⟨job, hprepare, rfl⟩ := map_eq_ok_iff.1 hexecute
    generalize hresult : Except.ok contents = result at h
    cases h with
    | video mime job events read possible reads =>
      obtain ⟨bytes, rfl, rfl⟩ := map_eq_ok_iff.1 hresult.symm
      obtain ⟨⟨c, hstart, hwell, rfl⟩, -⟩ := reads.of_ok
      exact .video r source job c hparse hroute hsource hprepare hstart hwell
    | impossible mime job none => cases hresult

/-! ## (3) Reports -/

namespace CommandLine

/-- **The reports that a rendering may end with**, with the events in its stream, if it has one. -/
inductive MayReport (w : World) (config : Config) (url path : String) :
    List Transcode.Event → Report → Prop
  | failed (e : Error) (failure : (serviceOf w config).render (requestPath url) = .error e) :
      MayReport w config url path [] ((Failure.ofError e).report "")
  | delivered (rendered : Rendered) (events : List Transcode.Event) (result : Except Error Buffer)
      (success : (serviceOf w config).render (requestPath url) = .ok rendered)
      (delivers : rendered.Delivers config.pipeline.streamBufferChunks events result) :
      MayReport w config url path events (deliveryReport w path rendered.mime result)

/-- **The report that is computed is one of them.** -/
theorem exists_mayReport_renderReport (w : World) (config : Config) (url path : String) :
    ∃ events, MayReport w config url path events (renderReport w config url path) := by
  rw [renderReport_eq]
  cases hrender : (serviceOf w config).render (requestPath url) with
  | error e => exact ⟨[], .failed e hrender⟩
  | ok rendered =>
    obtain ⟨events, hdelivers⟩ :=
      rendered.exists_delivers_contents config.pipeline.streamBufferChunks
    exact ⟨events, .delivered rendered events _ hrender hdelivers⟩

/-- **A report that leaves nothing behind**: it fails, and every tree of files is as it was. -/
structure Report.LeavesNothing (r : Report) : Prop where
  fails : r.exitCode ≠ 0
  noOutput : r.output = ""
  untouched : ∀ t : FileTree, r.apply t = t

/-- **A report that leaves contents in a file** and tells their length: wherever the file can be
written, the contents are read from it. -/
structure Report.Leaves (r : Report) (path mime : String) (contents : Buffer) : Prop where
  succeeds : r.exitCode = 0
  output : r.output = "Wrote " ++ toString contents.toBytes.length ++ " bytes (" ++ mime ++
    ") to " ++ path ++ "\n"
  written : r.written = some (path, contents)
  read : ∀ t : FileTree, t.writeError? path = none → (r.apply t).read path = .ok contents

theorem leavesNothing_report (f : Failure) : (f.report "").LeavesNothing :=
  ⟨by simp [Failure.report], rfl, fun _ => rfl⟩

/-- What is reported on contents leaves them in the file, or nothing where they cannot be written or
are not all there. -/
theorem leaves_deliveryReport (w : World) (path mime : String) (result : Except Error Buffer) :
    (deliveryReport w path mime result).LeavesNothing ∨
      ∃ contents, result = .ok contents ∧
        (deliveryReport w path mime result).Leaves path mime contents := by
  cases result with
  | error e => exact .inl (leavesNothing_report _)
  | ok contents =>
    unfold deliveryReport
    dsimp only
    cases w.writeError? path with
    | some e => exact .inl (leavesNothing_report _)
    | none =>
      refine .inr ⟨contents, rfl, rfl, rfl, rfl, fun t ht => ?_⟩
      exact FileTree.read_write ht contents

/-! ## (4) All or nothing -/

/-- **A rendering leaves all or nothing.** Whatever the address, the settings, the files, the tools
and the interleaving of the program, the clock and the reader are, a rendering ends with a report
that fails and leaves all files as they were, or with one that has the whole contents of the path in
its file and tells their length. It fails where a stage of the path fails, or where there is a
failure anywhere in the stream. -/
theorem render_all_or_nothing (w : World) (config : Config) (url path : String) :
    (∃ events, MayReport w config url path events (renderReport w config url path)) ∧
    ∀ events report, MayReport w config url path events report →
      (report.LeavesNothing ∨ ∃ mime contents,
        (serviceOf w config).Completes (requestPath url) mime contents ∧
          report.Leaves path mime contents) ∧
      ((∃ failure, failure ∈ (serviceOf w config).failures (requestPath url)) →
        report.LeavesNothing) ∧
      ((∃ e, .failure e ∈ Transcode.putIn events) → report.LeavesNothing) := by
  refine ⟨exists_mayReport_renderReport w config url path, fun events report h => ?_⟩
  cases h with
  | failed e failure => exact ⟨.inl (leavesNothing_report _), fun _ => leavesNothing_report _,
      fun _ => leavesNothing_report _⟩
  | delivered rendered events result success delivers =>
    refine ⟨?_, fun ⟨failure, hfailure⟩ => ?_, fun ⟨e, he⟩ => ?_⟩
    · rcases leaves_deliveryReport w path rendered.mime result with
        hnothing | ⟨contents, rfl, hleaves⟩
      · exact .inl hnothing
      · exact .inr ⟨_, contents, Service.completes_of_delivers success delivers, hleaves⟩
    · -- no stage of a path that is rendered fails
      have hnone := Service.errorOf_render (serviceOf w config) (requestPath url)
      rw [success, errorOf, eq_comm, Option.map_eq_none_iff, List.head?_eq_none_iff] at hnone
      rw [hnone] at hfailure
      cases hfailure
    · obtain ⟨e', rfl⟩ := delivers.of_failure he
      exact leavesNothing_report _

/-- A world of one video, with a program that does the same whatever it is started on. -/
def World.sample (c : Child) : World where
  pathExists := fun _ => true
  inSearchPath := fun name => some ("/usr/bin/" ++ name)
  program := fun _ _ _ => .child c
  read := fun _ => .ok (.bytes [1])
  writeError? := fun _ => none
  listenError? := fun _ => none

/-- A program that writes two bytes, and how it ends. -/
def twoBytes (ending : Ending) : Child := ⟨[104, 105], [], ending⟩

/-- What is prepared for the video as it is. -/
def sampleJob : Transcode where
  program := fun _ _ => .child (twoBytes (.exited 0))
  timeoutMillis := 1000 * ({} : Config.Pipeline).videoTimeoutSecs
  chunkBytes := ({} : Config.Pipeline).streamChunkBytes
  command := {}
  primary := [1]
  splices := []
  container := .fragmentedMp4

/-- What happens where the time is over after the first byte. -/
def lateEvents : List Transcode.Event :=
  [.put (.chunk [104]), .turn, .put (.failure sampleJob.timeoutError), .took (.chunk [104]),
    .took (.failure sampleJob.timeoutError)]

/-- The three ways of the video: its program ends well, or badly after all its output, or is stopped
in between; and a path whose domain is none. -/
theorem render_all_or_nothing_sample :
    (∃ mime contents, (serviceOf (.sample (twoBytes (.exited 0))) {}).Completes
        "/video/upload/clip.mp4" mime contents ∧
      (renderReport (.sample (twoBytes (.exited 0))) {} "/video/upload/clip.mp4" "out.mp4").Leaves
        "out.mp4" mime contents) ∧
    (renderReport (.sample (twoBytes (.exited 1))) {} "/video/upload/clip.mp4"
      "out.mp4").LeavesNothing ∧
    (∃ report, MayReport (.sample (twoBytes (.exited 0))) {} "/video/upload/clip.mp4" "out.mp4"
      lateEvents report ∧ report.LeavesNothing) ∧
    (renderReport (.sample (twoBytes (.exited 0))) {} "/audio/upload/clip.mp4"
      "out.mp4").LeavesNothing := by
  have hwell : (renderReport (.sample (twoBytes (.exited 0))) {} "/video/upload/clip.mp4"
      "out.mp4").exitCode = 0 := by
    decide +kernel
  have hbadly : (renderReport (.sample (twoBytes (.exited 1))) {} "/video/upload/clip.mp4"
      "out.mp4").exitCode = 1 := by
    decide +kernel
  have hpath : requestPath "/video/upload/clip.mp4" = "/video/upload/clip.mp4" := by decide +kernel
  refine ⟨?_, ?_, ?_, ?_⟩
  · obtain ⟨⟨events, hreport⟩, hall⟩ := render_all_or_nothing (.sample (twoBytes (.exited 0))) {}
      "/video/upload/clip.mp4" "out.mp4"
    rcases (hall events _ hreport).1 with hnothing | hleaves
    · exact absurd hwell hnothing.fails
    · rwa [hpath] at hleaves
  · obtain ⟨⟨events, hreport⟩, hall⟩ := render_all_or_nothing (.sample (twoBytes (.exited 1))) {}
      "/video/upload/clip.mp4" "out.mp4"
    rcases (hall events _ hreport).1 with hnothing | ⟨mime, contents, -, hleaves⟩
    · exact hnothing
    · have hsucceeds := hleaves.succeeds
      rw [hbadly] at hsucceeds
      cases hsucceeds
  · -- the run: a byte is sent, the time is over and told of, and the reader takes both items
    have hrun : sampleJob.Runs 16 lateEvents _ :=
      ((((Transcode.Run.here.next (.send [104] [105] 0 _ _ ⟨by decide, by decide⟩ rfl)).next
        (.timeOut [105] 1 _)).next (.report _ _ _ rfl)).next
        (.read _ _ _ _ rfl rfl)).next (.read _ _ _ _ rfl rfl)
    have hreads : sampleJob.Reads 16 lateEvents (.error sampleJob.timeoutError) :=
      .failure _ [.chunk [104]] _ hrun (by decide) rfl (by simp [Transcode.Plain, Item.isFailure])
    have hrender : (serviceOf (.sample (twoBytes (.exited 0))) {}).render
        (requestPath "/video/upload/clip.mp4") = .ok (.video "video/mp4" sampleJob) := by
      have hparse : Request.parse "/video/upload/clip.mp4"
          = .ok ⟨some "video", ⟨"clip.mp4"⟩, []⟩ := by
        decide +kernel
      rw [hpath, Service.render_of_parse hparse]
      rfl
    have hreport : MayReport (.sample (twoBytes (.exited 0))) {} "/video/upload/clip.mp4" "out.mp4"
        lateEvents _ :=
      .delivered _ lateEvents _ hrender
        (.video "video/mp4" sampleJob lateEvents _ (by decide) hreads)
    exact ⟨_, hreport, ((render_all_or_nothing _ {} _ "out.mp4").2 _ _ hreport).2.2
      ⟨sampleJob.timeoutError, by decide⟩⟩
  · have hdomain : (.domain, .unsupportedType "audio")
        ∈ (serviceOf (.sample (twoBytes (.exited 0))) {}).failures
          (requestPath "/audio/upload/clip.mp4") := by
      decide +kernel
    obtain ⟨⟨events, hreport⟩, hall⟩ := render_all_or_nothing (.sample (twoBytes (.exited 0))) {}
      "/audio/upload/clip.mp4" "out.mp4"
    exact (hall events _ hreport).2.1 ⟨_, hdomain⟩

end CommandLine

end MediaTransform
