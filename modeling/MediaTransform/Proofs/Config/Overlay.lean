import MediaTransform.Config.Json
import MediaTransform.Proofs.Json.Records
import MediaTransform.Proofs.Media.Json

/-! # Configuration documents laid over the defaults

* **`Config.Setting`** — the twelve settings: the part and the name under which a document mentions
  each one, its kind and its content in a configuration.
* **`Config.Kind.Denotes`** — what a value of a document denotes; a number denotes itself or nothing.
* **`Config.Overlays`** — a configuration is the defaults with exactly the mentioned settings
  replaced; `Overlays.unique`: there is one at most.
* **`Config.ofJson?_eq_some_iff`** — the reader gives the configuration that overlays the document,
  for the documents of the right shape and for no others.
* **`Config.parse_overlays`** — the same of texts. -/

namespace MediaTransform

namespace Config

/-! ## (1) Settings -/

/-- The parts of a configuration. -/
inductive Part where
  | server
  | storage
  | tools
  | pipeline
  deriving DecidableEq, Repr

/-- **The settings of a configuration.** -/
inductive Setting where
  | host
  | port
  | root
  | ffmpegPath
  | imageTimeoutSecs
  | videoTimeoutSecs
  | streamBufferChunks
  | streamChunkBytes
  | defaultImageQuality
  | defaultVideoQscale
  | defaultBlurRadius
  | maxOutputPixels
  deriving DecidableEq, Repr

/-- What a setting can hold: a text, a path that may be missing, a natural number of some bits. -/
inductive Kind where
  | text
  | path
  | natural (bits : Nat)
  deriving DecidableEq, Repr

/-- **The content of a setting.** -/
inductive Content where
  | text (t : String)
  | path (p : Option String)
  | natural (n : Nat)
  deriving DecidableEq, Repr

namespace Part

/-- The name of a part in a document. -/
def name : Part → String
  | server => "server"
  | storage => "storage"
  | tools => "tools"
  | pipeline => "pipeline"

/-- The names of all parts, in order. -/
def allNames : List String := ["server", "storage", "tools", "pipeline"]

/-- The names of the settings of a part, in order. -/
def settingNames : Part → List String
  | server => ["host", "port"]
  | storage => ["root"]
  | tools => ["ffmpeg_path"]
  | pipeline => Pipeline.names

theorem name_mem_allNames (p : Part) : p.name ∈ allNames := by cases p <;> decide

theorem nodup_allNames : allNames.Nodup := by decide

theorem nodup_settingNames (p : Part) : p.settingNames.Nodup := by cases p <;> decide

theorem forall_iff {P : Part → Prop} :
    (∀ p, P p) ↔ P server ∧ P storage ∧ P tools ∧ P pipeline := by
  refine ⟨fun h => ⟨h _, h _, h _, h _⟩, fun h p => ?_⟩
  obtain ⟨h1, h2, h3, h4⟩ := h
  cases p <;> assumption

end Part

namespace Setting

/-- The part that a setting belongs to. -/
def part : Setting → Part
  | host | port => .server
  | root => .storage
  | ffmpegPath => .tools
  | _ => .pipeline

/-- The name of a setting within its part. -/
def name : Setting → String
  | host => "host"
  | port => "port"
  | root => "root"
  | ffmpegPath => "ffmpeg_path"
  | imageTimeoutSecs => "image_timeout_secs"
  | videoTimeoutSecs => "video_timeout_secs"
  | streamBufferChunks => "stream_buffer_chunks"
  | streamChunkBytes => "stream_chunk_bytes"
  | defaultImageQuality => "default_image_quality"
  | defaultVideoQscale => "default_video_qscale"
  | defaultBlurRadius => "default_blur_radius"
  | maxOutputPixels => "max_output_pixels"

/-- **What a setting can hold**, with the width of each number. -/
def kind : Setting → Kind
  | host | root => .text
  | ffmpegPath => .path
  | port => .natural 16
  | defaultImageQuality => .natural 8
  | defaultVideoQscale | defaultBlurRadius => .natural 32
  | _ => .natural 64

/-- The content of a setting in a configuration. -/
def content : Setting → Config → Content
  | host, c => .text c.server.host
  | port, c => .natural c.server.port
  | root, c => .text c.storage.root
  | ffmpegPath, c => .path c.tools.ffmpegPath
  | imageTimeoutSecs, c => .natural c.pipeline.imageTimeoutSecs
  | videoTimeoutSecs, c => .natural c.pipeline.videoTimeoutSecs
  | streamBufferChunks, c => .natural c.pipeline.streamBufferChunks
  | streamChunkBytes, c => .natural c.pipeline.streamChunkBytes
  | defaultImageQuality, c => .natural c.pipeline.defaultImageQuality
  | defaultVideoQscale, c => .natural c.pipeline.defaultVideoQscale
  | defaultBlurRadius, c => .natural c.pipeline.defaultBlurRadius
  | maxOutputPixels, c => .natural c.pipeline.maxOutputPixels

theorem name_mem_settingNames (s : Setting) : s.name ∈ s.part.settingNames := by
  cases s <;> decide

/-- What holds of all settings, part by part. -/
theorem forall_iff {P : Setting → Prop} :
    (∀ s, P s) ↔ (P host ∧ P port) ∧ P root ∧ P ffmpegPath ∧ P imageTimeoutSecs ∧
      P videoTimeoutSecs ∧ P streamBufferChunks ∧ P streamChunkBytes ∧ P defaultImageQuality ∧
      P defaultVideoQscale ∧ P defaultBlurRadius ∧ P maxOutputPixels := by
  refine ⟨fun h => ?_, fun h s => ?_⟩
  · exact ⟨⟨h _, h _⟩, h _, h _, h _, h _, h _, h _, h _, h _, h _, h _⟩
  · obtain ⟨⟨h1, h2⟩, h3, h4, h5, h6, h7, h8, h9, h10, h11, h12⟩ := h
    cases s <;> assumption

end Setting

/-- A configuration is determined by its settings. -/
theorem ext_content {c c' : Config} (h : ∀ s : Setting, s.content c = s.content c') : c = c' := by
  obtain ⟨⟨h1, h2⟩, h3, h4, h5, h6, h7, h8, h9, h10, h11, h12⟩ := Setting.forall_iff.1 h
  obtain ⟨⟨_, _⟩, ⟨_⟩, ⟨_⟩, ⟨_, _, _, _, _, _, _, _⟩⟩ := c
  obtain ⟨⟨_, _⟩, ⟨_⟩, ⟨_⟩, ⟨_, _, _, _, _, _, _, _⟩⟩ := c'
  cases h1; cases h2; cases h3; cases h4; cases h5; cases h6
  cases h7; cases h8; cases h9; cases h10; cases h11; cases h12
  rfl

/-! ## (2) What a document says -/

/-- **What a value denotes.** A number denotes the natural number of its digits, if it has neither
sign nor point nor exponent and fits in the bits; it never denotes another number. -/
inductive Kind.Denotes : Kind → Json → Content → Prop where
  | text (t : String) : Denotes .text (Json.ofText t) (.text t)
  | noPath : Denotes .path .null (.path none)
  | path (t : String) : Denotes .path (Json.ofText t) (.path (some t))
  | natural {bits : Nat} {digits : List Char} (h : Nat.ofDigitChars 10 digits 0 < 2 ^ bits) :
      Denotes (.natural bits) (.number ⟨false, digits, none, none⟩)
        (.natural (Nat.ofDigitChars 10 digits 0))

/-- A document mentions a setting with a value: under its name, in its part. -/
def Mentions (j : Json) (s : Setting) (v : Json) : Prop :=
  ∃ part, j.Gives Part.allNames s.part.name part ∧ part.Gives s.part.settingNames s.name v

/-- **A document of parts**: it and its parts have every known name once at most. -/
structure IsDocument (j : Json) : Prop where
  isRecord : j.IsRecord Part.allNames
  part_isRecord : ∀ (p : Part) (part : Json), j.Gives Part.allNames p.name part →
    part.IsRecord p.settingNames

/-- **A document of settings**: every setting that it mentions has a value that denotes one. -/
structure IsOverlay (j : Json) : Prop extends IsDocument j where
  denotes : ∀ s v, Mentions j s v → ∃ a, s.kind.Denotes v a

/-- **A configuration overlays the defaults with a document**: the settings that the document
mentions are what it says, and all others have their defaults. -/
def Overlays (j : Json) (c : Config) : Prop :=
  ∀ s : Setting, (∀ v, Mentions j s v → s.kind.Denotes v (s.content c)) ∧
    ((∀ v, ¬Mentions j s v) → s.content c = s.content {})

theorem Kind.Denotes.unique {k : Kind} {v : Json} {a b : Content} (ha : k.Denotes v a)
    (hb : k.Denotes v b) : a = b := by
  cases ha <;> cases hb <;> rfl

/-- One configuration at most overlays the defaults with a document. -/
theorem Overlays.unique {j : Json} {c c' : Config} (h : Overlays j c) (h' : Overlays j c') :
    c = c' := by
  refine ext_content fun s => ?_
  by_cases hmention : ∃ v, Mentions j s v
  · obtain ⟨v, hv⟩ := hmention
    exact ((h s).1 v hv).unique ((h' s).1 v hv)
  · rw [(h s).2 (not_exists.1 hmention), (h' s).2 (not_exists.1 hmention)]

/-! ## (3) One setting -/

/-- What a setting becomes: what the given value denotes, or its default. -/
def Kind.Settles (k : Kind) : Option Json → Content → Content → Prop
  | none, default, a => a = default
  | some v, _, a => k.Denotes v a

/-- A text is given, or the default stays. -/
theorem setting_text_eq_some_iff {o : Option Json} {d t : String} :
    setting Json.text? d o = some t ↔ Kind.text.Settles o (.text d) (.text t) := by
  cases o with
  | none => simp [setting, Kind.Settles, eq_comm]
  | some v =>
    refine ⟨fun h => ?_, fun h => ?_⟩
    · cases v with
      | string s => cases s with
        | none => cases h
        | some _ => cases h; exact .text t
      | _ => cases h
    · cases h with
      | text => rfl

/-- A path or `null` is given, or the default stays. -/
theorem setting_path_eq_some_iff {o : Option Json} {d p : Option String} :
    setting readOptionalText d o = some p ↔ Kind.path.Settles o (.path d) (.path p) := by
  cases o with
  | none => simp [setting, Kind.Settles, eq_comm]
  | some v =>
    refine ⟨fun h => ?_, fun h => ?_⟩
    · cases v with
      | null => cases h; exact .noPath
      | string s => cases s with
        | none => cases h
        | some t => cases h; exact .path t
      | _ => cases h
    · cases h with
      | noPath => rfl
      | path => rfl

/-- A natural number that fits is given, or the default stays. -/
theorem setting_natural_eq_some_iff {bits : Nat} {o : Option Json} {d n : Nat} :
    setting (readNat bits) d o = some n
      ↔ (Kind.natural bits).Settles o (.natural d) (.natural n) := by
  cases o with
  | none => simp [setting, Kind.Settles, eq_comm]
  | some v =>
    have hdigits : ∀ digits, Json.NumberText.toNat? ⟨false, digits, none, none⟩
        = some (Nat.ofDigitChars 10 digits 0) := fun _ => rfl
    refine ⟨fun h => ?_, fun h => ?_⟩
    · cases v with
      | number text =>
        obtain ⟨negative, digits, fraction, exponent⟩ := text
        cases negative <;> cases fraction <;> cases exponent <;> try cases h
        rw [setting, readNat, hdigits] at h
        simp only [Option.ite_none_right_eq_some, Option.some.injEq] at h
        obtain ⟨hfits, rfl⟩ := h
        exact .natural hfits
      | _ => cases h
    · cases h with
      | natural hfits => simp [setting, readNat, hdigits, hfits]

/-! ## (4) One part -/

/-- The settings of a part are what the values given for their names denote. -/
def Part.Settled (p : Part) (given : String → Option Json) (c : Config) : Prop :=
  ∀ s : Setting, s.part = p → s.kind.Settles (given s.name) (s.content {}) (s.content c)

section Parts

variable {part : Json} {c : Config}

theorem Server.ofJson?_eq_some_iff :
    Server.ofJson? part = some c.server ↔ part.IsRecord Part.server.settingNames ∧
      Part.server.Settled (part.field? Part.server.settingNames) c := by
  obtain ⟨⟨host, port⟩, _, _, _⟩ := c
  by_cases h : part.IsRecord Part.server.settingNames
  · have hrecord := Json.record?_of_isRecord Part.server.nodup_settingNames h
    rw [Part.settingNames] at hrecord
    rw [and_iff_right h, Server.ofJson?, hrecord]
    simp [Option.bind_eq_some_iff, setting_text_eq_some_iff, setting_natural_eq_some_iff,
      Part.Settled, Part.settingNames, Setting.forall_iff, Setting.part, Setting.kind,
      Setting.content, Setting.name]
  · have hrecord := Json.record?_of_not_isRecord h
    rw [Part.settingNames] at hrecord
    simp [Server.ofJson?, hrecord, h]

theorem Storage.ofJson?_eq_some_iff :
    Storage.ofJson? part = some c.storage ↔ part.IsRecord Part.storage.settingNames ∧
      Part.storage.Settled (part.field? Part.storage.settingNames) c := by
  obtain ⟨_, ⟨root⟩, _, _⟩ := c
  by_cases h : part.IsRecord Part.storage.settingNames
  · have hrecord := Json.record?_of_isRecord Part.storage.nodup_settingNames h
    rw [Part.settingNames] at hrecord
    rw [and_iff_right h, Storage.ofJson?, hrecord]
    simp [Option.bind_eq_some_iff, setting_text_eq_some_iff, Part.Settled,
      Part.settingNames, Setting.forall_iff, Setting.part, Setting.kind, Setting.content,
      Setting.name]
  · have hrecord := Json.record?_of_not_isRecord h
    rw [Part.settingNames] at hrecord
    simp [Storage.ofJson?, hrecord, h]

theorem Tools.ofJson?_eq_some_iff :
    Tools.ofJson? part = some c.tools ↔ part.IsRecord Part.tools.settingNames ∧
      Part.tools.Settled (part.field? Part.tools.settingNames) c := by
  obtain ⟨_, _, ⟨ffmpegPath⟩, _⟩ := c
  by_cases h : part.IsRecord Part.tools.settingNames
  · have hrecord := Json.record?_of_isRecord Part.tools.nodup_settingNames h
    rw [Part.settingNames] at hrecord
    rw [and_iff_right h, Tools.ofJson?, hrecord]
    simp [Option.bind_eq_some_iff, setting_path_eq_some_iff, Part.Settled,
      Part.settingNames, Setting.forall_iff, Setting.part, Setting.kind, Setting.content,
      Setting.name]
  · have hrecord := Json.record?_of_not_isRecord h
    rw [Part.settingNames] at hrecord
    simp [Tools.ofJson?, hrecord, h]

theorem Pipeline.ofJson?_eq_some_iff :
    Pipeline.ofJson? part = some c.pipeline ↔ part.IsRecord Part.pipeline.settingNames ∧
      Part.pipeline.Settled (part.field? Part.pipeline.settingNames) c := by
  obtain ⟨_, _, _, ⟨_, _, _, _, _, _, _, _⟩⟩ := c
  by_cases h : part.IsRecord Part.pipeline.settingNames
  · have hrecord := Json.record?_of_isRecord Part.pipeline.nodup_settingNames h
    rw [Part.settingNames] at hrecord
    rw [and_iff_right h, Pipeline.ofJson?, hrecord]
    simp [Option.bind_eq_some_iff, setting_natural_eq_some_iff, Part.Settled,
      Part.settingNames, Pipeline.names, Setting.forall_iff, Setting.part, Setting.kind,
      Setting.content, Setting.name]
  · have hrecord := Json.record?_of_not_isRecord h
    rw [Part.settingNames] at hrecord
    simp [Pipeline.ofJson?, hrecord, h]

/-- **A part that may be missing.** Where no document is given for a part, no value is given for its
settings. -/
theorem setting_part_eq_some_iff {α : Type} {p : Part} {get : Config → α} {read : Json → Option α}
    (hread : ∀ part c, read part = some (get c) ↔
      part.IsRecord p.settingNames ∧ p.Settled (part.field? p.settingNames) c)
    (hdefault : ∀ c, p.Settled (fun _ => none) c ↔ get c = get {}) (o : Option Json) (c : Config) :
    setting read (get {}) o = some (get c) ↔ (∀ part ∈ o, part.IsRecord p.settingNames) ∧
      p.Settled (fun name => o.bind fun part => part.field? p.settingNames name) c := by
  cases o with
  | none =>
    have hmissing := hdefault c
    simp only [setting, Option.some.injEq, Option.not_mem_none, false_implies, implies_true,
      true_and, Option.bind_none, hmissing, eq_comm]
  | some part => simpa [setting] using hread part c

theorem Part.settled_none_server : Part.server.Settled (fun _ => none) c ↔ c.server = {} := by
  obtain ⟨⟨host, port⟩, _, _, _⟩ := c
  simp [Part.Settled, Setting.forall_iff, Setting.part, Setting.content, Kind.Settles]

theorem Part.settled_none_storage : Part.storage.Settled (fun _ => none) c ↔ c.storage = {} := by
  obtain ⟨_, ⟨root⟩, _, _⟩ := c
  simp [Part.Settled, Setting.forall_iff, Setting.part, Setting.content, Kind.Settles]

theorem Part.settled_none_tools : Part.tools.Settled (fun _ => none) c ↔ c.tools = {} := by
  obtain ⟨_, _, ⟨ffmpegPath⟩, _⟩ := c
  simp [Part.Settled, Setting.forall_iff, Setting.part, Setting.content, Kind.Settles]

theorem Part.settled_none_pipeline : Part.pipeline.Settled (fun _ => none) c ↔ c.pipeline = {} := by
  obtain ⟨_, _, _, ⟨_, _, _, _, _, _, _, _⟩⟩ := c
  simp [Part.Settled, Setting.forall_iff, Setting.part, Setting.content, Kind.Settles]

end Parts

/-! ## (5) A document -/

/-- The value that a document gives for a setting. -/
def given? (j : Json) (s : Setting) : Option Json :=
  (j.field? Part.allNames s.part.name).bind fun part => part.field? s.part.settingNames s.name

/-- The configuration of a document, part by part. -/
theorem ofJson?_eq_some_iff_parts {j : Json} {c : Config} :
    ofJson? j = some c ↔ j.IsRecord Part.allNames ∧ ∀ p : Part,
      (∀ part ∈ j.field? Part.allNames p.name, part.IsRecord p.settingNames) ∧
      p.Settled (fun name => (j.field? Part.allNames p.name).bind
        fun part => part.field? p.settingNames name) c := by
  have hserver := setting_part_eq_some_iff (fun _ _ => Server.ofJson?_eq_some_iff)
    (fun _ => Part.settled_none_server) (j.field? Part.allNames Part.server.name) c
  have hstorage := setting_part_eq_some_iff (fun _ _ => Storage.ofJson?_eq_some_iff)
    (fun _ => Part.settled_none_storage) (j.field? Part.allNames Part.storage.name) c
  have htools := setting_part_eq_some_iff (fun _ _ => Tools.ofJson?_eq_some_iff)
    (fun _ => Part.settled_none_tools) (j.field? Part.allNames Part.tools.name) c
  have hpipeline := setting_part_eq_some_iff (fun _ _ => Pipeline.ofJson?_eq_some_iff)
    (fun _ => Part.settled_none_pipeline) (j.field? Part.allNames Part.pipeline.name) c
  rw [Part.forall_iff, ← hserver, ← hstorage, ← htools, ← hpipeline]
  by_cases h : j.IsRecord Part.allNames
  · have hrecord := Json.record?_of_isRecord Part.nodup_allNames h
    rw [Part.allNames] at hrecord
    obtain ⟨server, storage, tools, pipeline⟩ := c
    rw [and_iff_right h, ofJson?, hrecord]
    simp [Option.bind_eq_some_iff, Part.name, Part.allNames]
  · have hrecord := Json.record?_of_not_isRecord h
    rw [Part.allNames] at hrecord
    simp [ofJson?, hrecord, h]

/-- **A document is read part by part and setting by setting.** -/
theorem ofJson?_eq_some_iff_settles {j : Json} {c : Config} :
    ofJson? j = some c ↔ IsDocument j ∧
      ∀ s : Setting, s.kind.Settles (given? j s) (s.content {}) (s.content c) := by
  rw [ofJson?_eq_some_iff_parts]
  have hgives : ∀ (p : Part) (part : Json), j.IsRecord Part.allNames →
      (part ∈ j.field? Part.allNames p.name ↔ j.Gives Part.allNames p.name part) :=
    fun p _ h => Json.field?_eq_some_iff Part.nodup_allNames h p.name_mem_allNames
  constructor
  · rintro ⟨hrecord, hparts⟩
    refine ⟨⟨hrecord, fun p part hpart => ?_⟩, fun s => ?_⟩
    · exact (hparts p).1 part ((hgives p part hrecord).2 hpart)
    · exact (hparts s.part).2 s rfl
  · rintro ⟨⟨hrecord, hpart⟩, hsettles⟩
    refine ⟨hrecord, fun p => ⟨fun part hp => ?_, fun s hs => ?_⟩⟩
    · exact hpart p part ((hgives p part hrecord).1 hp)
    · cases hs
      exact hsettles s

theorem given?_eq_some_iff {j : Json} (h : IsDocument j) {s : Setting} {v : Json} :
    given? j s = some v ↔ Mentions j s v := by
  rw [given?, Option.bind_eq_some_iff, Mentions]
  refine exists_congr fun part => ?_
  rw [Json.field?_eq_some_iff Part.nodup_allNames h.isRecord s.part.name_mem_allNames]
  refine and_congr_right fun hpart => ?_
  exact Json.field?_eq_some_iff s.part.nodup_settingNames (h.part_isRecord s.part part hpart)
    s.name_mem_settingNames

/-- **The reader gives the configuration that overlays the document.** -/
theorem ofJson?_eq_some_iff {j : Json} {c : Config} :
    ofJson? j = some c ↔ IsDocument j ∧ Overlays j c := by
  rw [ofJson?_eq_some_iff_settles]
  refine and_congr_right fun h => forall_congr' fun s => ?_
  cases hgiven : given? j s with
  | none =>
    have hnone : ∀ v, ¬Mentions j s v := by
      intro v hv
      rw [(given?_eq_some_iff h).2 hv] at hgiven
      cases hgiven
    exact ⟨fun hdefault => ⟨fun v hv => absurd hv (hnone v), fun _ => hdefault⟩,
      fun hoverlay => hoverlay.2 hnone⟩
  | some v =>
    have hv : Mentions j s v := (given?_eq_some_iff h).1 hgiven
    refine ⟨fun hdenotes => ⟨fun w hw => ?_, fun hnone => absurd hv (hnone v)⟩,
      fun hoverlay => hoverlay.1 v hv⟩
    cases hgiven.symm.trans ((given?_eq_some_iff h).2 hw)
    exact hdenotes

/-- What a setting becomes where its value, if it is given, denotes one. -/
theorem exists_settles {j : Json} (h : IsOverlay j) (s : Setting) :
    ∃ a, s.kind.Settles (given? j s) (s.content {}) a := by
  cases hgiven : given? j s with
  | none => exact ⟨_, rfl⟩
  | some v => exact h.denotes s v ((given?_eq_some_iff h.toIsDocument).1 hgiven)

theorem Kind.exists_text {o : Option Json} {d : String}
    (h : ∃ a, Kind.text.Settles o (.text d) a) : ∃ t, Kind.text.Settles o (.text d) (.text t) := by
  obtain ⟨a, ha⟩ := h
  cases o with
  | none => exact ⟨d, rfl⟩
  | some v => cases ha; exact ⟨_, .text _⟩

theorem Kind.exists_path {o : Option Json} {d : Option String}
    (h : ∃ a, Kind.path.Settles o (.path d) a) : ∃ p, Kind.path.Settles o (.path d) (.path p) := by
  obtain ⟨a, ha⟩ := h
  cases o with
  | none => exact ⟨d, rfl⟩
  | some v => cases ha with
    | noPath => exact ⟨_, .noPath⟩
    | path t => exact ⟨_, .path t⟩

theorem Kind.exists_natural {bits : Nat} {o : Option Json} {d : Nat}
    (h : ∃ a, (Kind.natural bits).Settles o (.natural d) a) :
    ∃ n, (Kind.natural bits).Settles o (.natural d) (.natural n) := by
  obtain ⟨a, ha⟩ := h
  cases o with
  | none => exact ⟨d, rfl⟩
  | some v => cases ha with
    | natural hfits => exact ⟨_, .natural hfits⟩

/-- A document of settings overlays the defaults with a configuration. -/
theorem exists_ofJson? {j : Json} (h : IsOverlay j) : ∃ c, ofJson? j = some c := by
  have hsettles := exists_settles h
  obtain ⟨host, hhost⟩ := Kind.exists_text (hsettles .host)
  obtain ⟨port, hport⟩ := Kind.exists_natural (hsettles .port)
  obtain ⟨root, hroot⟩ := Kind.exists_text (hsettles .root)
  obtain ⟨path, hpath⟩ := Kind.exists_path (hsettles .ffmpegPath)
  obtain ⟨imageTimeout, himageTimeout⟩ := Kind.exists_natural (hsettles .imageTimeoutSecs)
  obtain ⟨videoTimeout, hvideoTimeout⟩ := Kind.exists_natural (hsettles .videoTimeoutSecs)
  obtain ⟨buffer, hbuffer⟩ := Kind.exists_natural (hsettles .streamBufferChunks)
  obtain ⟨chunk, hchunk⟩ := Kind.exists_natural (hsettles .streamChunkBytes)
  obtain ⟨quality, hquality⟩ := Kind.exists_natural (hsettles .defaultImageQuality)
  obtain ⟨qscale, hqscale⟩ := Kind.exists_natural (hsettles .defaultVideoQscale)
  obtain ⟨radius, hradius⟩ := Kind.exists_natural (hsettles .defaultBlurRadius)
  obtain ⟨pixels, hpixels⟩ := Kind.exists_natural (hsettles .maxOutputPixels)
  refine ⟨⟨⟨host, port⟩, ⟨root⟩, ⟨path⟩, ⟨imageTimeout, videoTimeout, buffer, chunk, quality,
    qscale, radius, pixels⟩⟩, ofJson?_eq_some_iff_settles.2 ⟨h.toIsDocument, ?_⟩⟩
  exact Setting.forall_iff.2 ⟨⟨hhost, hport⟩, hroot, hpath, himageTimeout, hvideoTimeout, hbuffer,
    hchunk, hquality, hqscale, hradius, hpixels⟩

/-- **The documents of settings are those that are read.** -/
theorem isOverlay_iff {j : Json} : IsOverlay j ↔ ∃ c, ofJson? j = some c := by
  refine ⟨exists_ofJson?, fun ⟨c, hc⟩ => ?_⟩
  obtain ⟨hdocument, hoverlays⟩ := ofJson?_eq_some_iff.1 hc
  exact ⟨hdocument, fun s v hv => ⟨_, (hoverlays s).1 v hv⟩⟩

/-! ## (6) Writing -/

/-- Whether the content of a setting fits in its bits. -/
def Kind.Fits : Kind → Content → Prop
  | natural bits, .natural n => n < 2 ^ bits
  | _, _ => True

/-- **A configuration whose numbers fit in the bits of their settings.** -/
def InRange (c : Config) : Prop := ∀ s : Setting, s.kind.Fits (s.content c)

theorem readNat_ofNat {bits n : Nat} (h : n < 2 ^ bits) :
    readNat bits (Json.ofNat n) = some n := by
  refine (setting_natural_eq_some_iff (o := some (Json.ofNat n)) (d := n)).2 ?_
  have hdigits : Nat.ofDigitChars 10 (Nat.toDigits 10 n) 0 = n := Nat.ofDigitChars_ten_toDigits
  have hdenotes : (Kind.natural bits).Denotes (Json.ofNat n)
      (.natural (Nat.ofDigitChars 10 (Nat.toDigits 10 n) 0)) := .natural (by rwa [hdigits])
  rwa [hdigits] at hdenotes

theorem writable_ofText (t : String) : (Json.ofText t).Writable := trivial

theorem writable_ofNat (n : Nat) : (Json.ofNat n).Writable := by
  refine ⟨?_, by simp, by simp⟩
  rcases Nat.eq_zero_or_pos n with rfl | hpos
  · exact .inl rfl
  · exact .inr ⟨Json.isRow_toDigits n, Json.head?_toDigits hpos⟩

theorem Server.writable_toJson (x : Server) : x.toJson.Writable :=
  Json.writable_ofFields (by simp [writable_ofText, writable_ofNat])

theorem Storage.writable_toJson (x : Storage) : x.toJson.Writable :=
  Json.writable_ofFields (by simp [writable_ofText])

theorem Tools.writable_toJson (x : Tools) : x.toJson.Writable := by
  refine Json.writable_ofFields fun f hf => ?_
  cases List.mem_singleton.1 hf
  cases x.ffmpegPath with
  | none => trivial
  | some path => exact writable_ofText path

theorem Pipeline.writable_toJson (x : Pipeline) : x.toJson.Writable :=
  Json.writable_ofFields (by simp [writable_ofNat])

theorem writable_toJson (c : Config) : c.toJson.Writable :=
  Json.writable_ofFields (by simp [Server.writable_toJson, Storage.writable_toJson,
    Tools.writable_toJson, Pipeline.writable_toJson])

theorem Server.ofJson?_toJson {x : Server} (h : x.port < 2 ^ 16) :
    Server.ofJson? x.toJson = some x := by
  have hrecord : x.toJson.record? ["host", "port"]
      = some [some (Json.ofText x.host), some (Json.ofNat x.port)] := rfl
  rw [Server.ofJson?, hrecord]
  simp only [setting, readNat_ofNat h]
  rfl

theorem Storage.ofJson?_toJson (x : Storage) : Storage.ofJson? x.toJson = some x := rfl

theorem Tools.ofJson?_toJson (x : Tools) : Tools.ofJson? x.toJson = some x := by
  obtain ⟨_ | path⟩ := x
  · rfl
  · rfl

theorem Pipeline.ofJson?_toJson {x : Pipeline} (himage : x.imageTimeoutSecs < 2 ^ 64)
    (hvideo : x.videoTimeoutSecs < 2 ^ 64) (hbuffer : x.streamBufferChunks < 2 ^ 64)
    (hchunk : x.streamChunkBytes < 2 ^ 64) (hquality : x.defaultImageQuality < 2 ^ 8)
    (hqscale : x.defaultVideoQscale < 2 ^ 32) (hradius : x.defaultBlurRadius < 2 ^ 32)
    (hpixels : x.maxOutputPixels < 2 ^ 64) : Pipeline.ofJson? x.toJson = some x := by
  have hrecord : x.toJson.record? Pipeline.names
      = some [some (Json.ofNat x.imageTimeoutSecs), some (Json.ofNat x.videoTimeoutSecs),
        some (Json.ofNat x.streamBufferChunks), some (Json.ofNat x.streamChunkBytes),
        some (Json.ofNat x.defaultImageQuality), some (Json.ofNat x.defaultVideoQscale),
        some (Json.ofNat x.defaultBlurRadius), some (Json.ofNat x.maxOutputPixels)] := rfl
  rw [Pipeline.ofJson?, hrecord]
  simp only [setting, readNat_ofNat himage, readNat_ofNat hvideo, readNat_ofNat hbuffer,
    readNat_ofNat hchunk, readNat_ofNat hquality, readNat_ofNat hqscale, readNat_ofNat hradius,
    readNat_ofNat hpixels]
  rfl

/-- **A configuration is read back from its document.** -/
theorem ofJson?_toJson {c : Config} (h : c.InRange) : ofJson? c.toJson = some c := by
  obtain ⟨⟨-, hport⟩, -, -, himage, hvideo, hbuffer, hchunk, hquality, hqscale, hradius, hpixels⟩ :=
    Setting.forall_iff.1 h
  have hrecord : c.toJson.record? ["server", "storage", "tools", "pipeline"]
      = some [some c.server.toJson, some c.storage.toJson, some c.tools.toJson,
        some c.pipeline.toJson] := rfl
  rw [ofJson?, hrecord]
  simp only [setting, Server.ofJson?_toJson hport, Storage.ofJson?_toJson, Tools.ofJson?_toJson,
    Pipeline.ofJson?_toJson himage hvideo hbuffer hchunk hquality hqscale hradius hpixels]
  rfl

/-! ## (7) Texts -/

/-- **A number that is no natural number of some bits**: negative, with a point or an exponent, or
too large. -/
def Beyond (bits : Nat) (n : Json.NumberText) : Prop :=
  n.negative = true ∨ n.fraction ≠ none ∨ n.exponent ≠ none ∨
    2 ^ bits ≤ Nat.ofDigitChars 10 n.whole 0

theorem not_denotes_of_beyond {bits : Nat} {n : Json.NumberText} (h : Beyond bits n) (a : Content) :
    ¬(Kind.natural bits).Denotes (.number n) a := by
  intro hdenotes
  cases hdenotes with
  | natural hfits =>
    rcases h with hminus | hpoint | hexponent | hlarge
    · cases hminus
    · exact hpoint rfl
    · exact hexponent rfl
    · exact absurd hfits (Nat.not_lt.2 hlarge)

theorem parse_eq_ok_iff {text : String} {c : Config} :
    parse text = .ok c ↔ ∃ j, Json.parse? text = some j ∧ IsDocument j ∧ Overlays j c := by
  have hread : parse text = .ok c ↔ (Json.parse? text).bind ofJson? = some c := by
    rw [parse]
    cases (Json.parse? text).bind ofJson? <;> simp
  rw [hread, Option.bind_eq_some_iff]
  simp only [ofJson?_eq_some_iff]

/-- A text that gives no configuration is refused. -/
theorem exists_parse_eq_error {text : String} (h : ∀ c, parse text ≠ .ok c) :
    ∃ reason, parse text = .error (.validation reason) := by
  rw [parse] at h ⊢
  cases hread : (Json.parse? text).bind ofJson? with
  | some c => exact absurd (by rw [hread]) (h c)
  | none => exact ⟨_, rfl⟩

/-- **Configuration texts are lossless and overlay the defaults.** A configuration is read back from
its text. A document of settings, in any order and among any other fields, gives the one
configuration that has what it mentions and the defaults for the rest. A mentioned number that does
not fit its setting is refused. Whatever is read overlays the defaults, so that no limit is a
wrapped or cut form of a written one. -/
theorem parse_overlays :
    (∀ c : Config, c.InRange → parse c.toJson.compact = .ok c) ∧
      (∀ text j, Json.parse? text = some j → IsOverlay j →
        ∃ c, parse text = .ok c ∧ ∀ c', Overlays j c' ↔ c' = c) ∧
      (∀ text j, Json.parse? text = some j → ∀ s n bits, Mentions j s (.number n) →
        s.kind = .natural bits → Beyond bits n →
          ∃ reason, parse text = .error (.validation reason)) ∧
      ∀ text c, parse text = .ok c → ∃ j, Json.parse? text = some j ∧ Overlays j c := by
  refine ⟨fun c h => ?_, fun text j hj h => ?_, fun text j hj s n bits hs hkind hn => ?_,
    fun text c h => ?_⟩
  · rw [parse, Json.parse?_compact c.writable_toJson, Option.bind_some, ofJson?_toJson h]
  · obtain ⟨c, hc⟩ := exists_ofJson? h
    obtain ⟨hdocument, hoverlays⟩ := ofJson?_eq_some_iff.1 hc
    refine ⟨c, parse_eq_ok_iff.2 ⟨j, hj, hdocument, hoverlays⟩, fun c' => ⟨fun h' => ?_, ?_⟩⟩
    · exact h'.unique hoverlays
    · rintro rfl
      exact hoverlays
  · refine exists_parse_eq_error fun c hc => ?_
    obtain ⟨j', hj', -, hoverlays⟩ := parse_eq_ok_iff.1 hc
    cases hj.symm.trans hj'
    have hdenotes := (hoverlays s).1 _ hs
    rw [hkind] at hdenotes
    exact not_denotes_of_beyond hn _ hdenotes
  · obtain ⟨j, hj, -, hoverlays⟩ := parse_eq_ok_iff.1 h
    exact ⟨j, hj, hoverlays⟩

/-- A document that has its parts out of order, the largest values of two settings, and the name of
a setting where it means nothing. -/
def sampleDocument : Json :=
  Json.ofFields
    [("note", .array [.null, Json.ofFields [("port", Json.ofNat 70000)]]),
     ("pipeline", Json.ofFields [("max_output_pixels", Json.ofNat 18446744073709551615),
       ("host", Json.ofText "a"), ("default_image_quality", Json.ofNat 255)]),
     ("tools", Json.ofFields []),
     ("server", Json.ofFields [("port", Json.ofNat 65535)])]

/-- The defaults with what the document mentions. -/
def sampleConfig : Config :=
  { server := { port := 65535 }
    pipeline := { maxOutputPixels := 18446744073709551615, defaultImageQuality := 255 } }

/-- A document with a port of one more than sixteen bits hold. -/
def oversizedDocument : Json :=
  Json.ofFields [("server", Json.ofFields [("port", Json.ofNat 65536)])]

theorem parse_overlays_sample :
    sampleConfig.InRange ∧ parse sampleConfig.toJson.compact = .ok sampleConfig ∧
    Json.parse? sampleDocument.compact = some sampleDocument ∧ IsOverlay sampleDocument ∧
    parse sampleDocument.compact = .ok sampleConfig ∧ Overlays sampleDocument sampleConfig ∧
    Json.parse? oversizedDocument.compact = some oversizedDocument ∧
    Mentions oversizedDocument .port (Json.ofNat 65536) ∧
    ∃ reason, parse oversizedDocument.compact = .error (.validation reason) := by
  obtain ⟨hlossless, hoverlay, hrefused, -⟩ := parse_overlays
  have hrange : sampleConfig.InRange := by
    refine Setting.forall_iff.2 ?_
    simp [Kind.Fits, Setting.kind, Setting.content, sampleConfig]
  have hread : ofJson? sampleDocument = some sampleConfig := by decide +kernel
  have hwrite : sampleDocument.Writable := by
    simp [sampleDocument, Json.ofFields, Json.Writable, Json.WritableFields, Json.WritableItems,
      writable_ofNat, writable_ofText]
  have hoversized : oversizedDocument.Writable := by
    simp [oversizedDocument, Json.ofFields, Json.Writable, Json.WritableFields, writable_ofNat]
  have hmentions : Mentions oversizedDocument .port (Json.ofNat 65536) := by
    refine ⟨Json.ofFields [("port", Json.ofNat 65536)], .field ?_, .field ?_⟩
    · exact List.mem_singleton_self _
    · exact List.mem_singleton_self _
  have hsample := Json.parse?_compact hwrite
  have hisOverlay : IsOverlay sampleDocument := isOverlay_iff.2 ⟨_, hread⟩
  obtain ⟨c, hc, hunique⟩ := hoverlay _ _ hsample hisOverlay
  have hoverlays : Overlays sampleDocument sampleConfig := (ofJson?_eq_some_iff.1 hread).2
  cases (hunique _).1 hoverlays
  refine ⟨hrange, hlossless _ hrange, hsample, hisOverlay, hc, hoverlays,
    Json.parse?_compact hoversized, hmentions, ?_⟩
  exact hrefused _ _ (Json.parse?_compact hoversized) .port _ 16 hmentions rfl
    (.inr (.inr (.inr (by decide))))

end Config

end MediaTransform
