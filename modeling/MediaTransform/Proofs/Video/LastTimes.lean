import MediaTransform.Proofs.Video.Ranges
import MediaTransform.Proofs.Video.TokenOrder

/-! # The times of a plan

A plan begins and lasts as the last specs say that set these times:

* **`Video.TimingCall`** — a call of timing; `timingCall?` is the one that a spec makes.
* **`TimingCall.start?`**, **`length?`** — the times that a call sets; `writes_of_timing` says that
  timing writes these and no others.
* **`TimingCall.Refused`** — what can be wrong with a call; `timing_fails_iff` says that timing
  fails for that and for nothing else.
* **`Video.LastCall`**, **`NoneSets`** — the last spec of a chain that sets a time, and chains that
  have none.
* **`Video.kept_of_planFrom`** — specs that do not set a time leave it as it is, so `times_of_plan`
  reads the times of a plan off the last calls. -/

namespace MediaTransform

namespace Video

/-! ## (1) Calls -/

/-- **A call of timing.** -/
structure TimingCall where
  key : String
  params : Params
  deriving DecidableEq

/-- **The call of timing that a spec makes**, if the operation found for it is one of timing. -/
def timingCall? (config : Config.Pipeline) (s : Spec) : Option TimingCall :=
  ((registry config).resolve s).bind fun found =>
    if found.tag ∈ timingKeys then some ⟨found.tag, found.params⟩ else none

namespace TimingCall

variable (t : TimingCall)

/-- **A call sets the start** where it is about the start or has a value for it. -/
def SetsStart : Prop := t.key = "so" ∨ t.params.contains "so" = true

/-- **A call sets the duration** where it has a value for the duration or for the end. -/
def SetsLength : Prop := t.params.contains "du" = true ∨ t.params.contains "eo" = true

instance : Decidable t.SetsStart := inferInstanceAs (Decidable (_ ∨ _))

instance : Decidable t.SetsLength := inferInstanceAs (Decidable (_ ∨ _))

/-- **The start that a call sets**: its number, or zero where it has none. -/
def start? : Option Number :=
  if t.params.contains "so" then t.params.number? "so" else some (.ofNat 0)

/-- **The start in force** once a call has set its own, after an earlier one; zero where neither is
there. -/
def startInForce (earlier : Option Number) : Number :=
  (if t.SetsStart then t.start? else earlier).getD (.ofNat 0)

/-- **The duration that a call sets**: its number, or else the time from the start in force to its
end. -/
def length? (earlier : Option Number) : Option Number :=
  if t.params.contains "du" then t.params.number? "du"
  else (t.params.number? "eo").map (· - t.startInForce earlier)

/-- **What can be wrong with a call** when a start is in force. -/
inductive Refused (start : Number) : Prop where
  /-- One of the three is there, and is no finite number. -/
  | notFinite {name : String} (hname : name ∈ timingKeys) (hgiven : t.params.contains name = true)
      (h : ∀ x, t.params.number? name = some x → x.isFinite = false)
  | negativeStart {x : Number} (hx : t.params.number? "so" = some x) (h : x < .ofNat 0)
  | earlyEnd {x : Number} (hx : t.params.number? "eo" = some x) (h : ¬start < x)
  | noDuration {x : Number} (hx : t.params.number? "du" = some x) (h : ¬.ofNat 0 < x)
  /-- A call that is about the end or the duration has no value for it. -/
  | missing (hkey : t.key ≠ "so") (h : t.params.contains t.key = false)

end TimingCall

/-! ## (2) What one call sets -/

section Calls

variable {t : TimingCall} {c next : Command} {x : Number}

/-- The start that is read is the one that the call has, if it is finite. -/
theorem startRead_eq_ok_iff :
    startRead t.params = .ok x ↔ t.start? = some x ∧ x.isFinite = true := by
  unfold startRead TimingCall.start?
  split
  · exact Params.requireNumber_eq_ok_iff
  · constructor
    · intro h
      cases h
      exact ⟨rfl, isFinite_zero⟩
    · rintro ⟨h, -⟩
      cases h
      rfl

/-- **What timing does**, by the times that its three parts set. -/
theorem timing_eq_ok_iff {key : String} {ps : Params} :
    timing key c ps = .ok next ↔
      ∃ start stop length, startSet key ps = .ok start ∧
        endSet key ps ((start.or c.seek).getD (.ofNat 0)) = .ok stop ∧
        lengthSet key ps = .ok length ∧
        next = { c with
          seek := start.or c.seek, duration := length.or (stop.or c.duration) } := by
  constructor
  · intro h
    obtain ⟨started, hstarted, h⟩ := bind_eq_ok_iff.1 h
    obtain ⟨ended, hended, h⟩ := bind_eq_ok_iff.1 h
    rw [applyStart_eq] at hstarted
    obtain ⟨start, hstart, rfl⟩ := map_eq_ok_iff.1 hstarted
    rw [applyEnd_eq] at hended
    obtain ⟨stop, hend, rfl⟩ := map_eq_ok_iff.1 hended
    rw [applyDuration_eq] at h
    obtain ⟨length, hlength, rfl⟩ := map_eq_ok_iff.1 h
    exact ⟨start, stop, length, hstart, hend, hlength, rfl⟩
  · rintro ⟨start, stop, length, hstart, hend, hlength, rfl⟩
    have hstarted : applyStart key c ps = .ok { c with seek := start.or c.seek } := by
      rw [applyStart_eq, hstart]
      rfl
    refine bind_eq_ok_iff.2 ⟨_, hstarted, bind_eq_ok_iff.2
      ⟨{ c with seek := start.or c.seek, duration := stop.or c.duration }, ?_, ?_⟩⟩
    · rw [applyEnd_eq, hend]
      rfl
    · rw [applyDuration_eq, hlength]
      rfl

/-- The start in force is the one that the call has just set, or the one before. -/
theorem getD_startSet {new : Option Number} (h : startSet t.key t.params = .ok new) :
    (new.or c.seek).getD (.ofNat 0) = t.startInForce c.seek := by
  obtain ⟨hset, hnone⟩ := startSet_eq_ok_iff.1 h
  unfold TimingCall.startInForce
  split
  · rename_i hstart
    obtain ⟨x, ⟨hread, -⟩, rfl⟩ := hset hstart
    rw [(startRead_eq_ok_iff.1 hread).1]
    rfl
  · rename_i hstart
    rw [hnone hstart, Option.none_or]

/-- Whatever start is in force, it is one from which to begin. -/
theorem isStart_startInForce (hc : c.TimesInRange) {new : Option Number}
    (h : startSet t.key t.params = .ok new) : IsStart (t.startInForce c.seek) := by
  have hstarted : applyStart t.key c t.params = .ok { c with seek := new.or c.seek } := by
    rw [applyStart_eq, h]
    rfl
  rw [← getD_startSet h]
  exact isStart_getD (timesInRange_of_applyStart hc hstarted)

/-- **A call writes the times that it sets** to a command, and keeps the others. -/
structure TimingCall.Writes (t : TimingCall) (c next : Command) : Prop where
  start : t.SetsStart → ∃ x, t.start? = some x ∧ next.seek = some x
  startKept : ¬t.SetsStart → next.seek = c.seek
  length : t.SetsLength → ∃ x, t.length? c.seek = some x ∧ next.duration = some x
  lengthKept : ¬t.SetsLength → next.duration = c.duration

/-- A call that goes well has a value for what it is about, as none stands in for it. -/
theorem contains_of_imp_requireNumber {name : String} {P Q : Number → Prop}
    (h : t.key = name ∨ t.params.contains name = true →
      ∃ x, (t.params.requireNumber name name = .ok x ∧ P x) ∧ Q x)
    (hname : t.params.contains name = false) :
    ¬(t.key = name ∨ t.params.contains name = true) := by
  intro habout
  obtain ⟨x, ⟨hread, -⟩, -⟩ := h habout
  have hcontains := Params.contains_of_number? (Params.requireNumber_eq_ok_iff.1 hread).1
  rw [hname] at hcontains
  cases hcontains

/-- **Timing writes the times of its call.** -/
theorem writes_of_timing (hc : c.TimesInRange) (h : timing t.key c t.params = .ok next) :
    t.Writes c next := by
  obtain ⟨start, stop, length, hstart, hend, hlength, rfl⟩ := timing_eq_ok_iff.1 h
  rw [getD_startSet hstart] at hend
  obtain ⟨hstartSet, hstartNone⟩ := startSet_eq_ok_iff.1 hstart
  obtain ⟨hendSet, hendNone⟩ := (endSet_eq_ok_iff (isStart_startInForce hc hstart).1).1 hend
  obtain ⟨hlengthSet, hlengthNone⟩ := lengthSet_eq_ok_iff.1 hlength
  refine ⟨fun hsets => ?_, fun hsets => ?_, fun hsets => ?_, fun hsets => ?_⟩
  · obtain ⟨x, ⟨hread, -⟩, rfl⟩ := hstartSet hsets
    exact ⟨x, (startRead_eq_ok_iff.1 hread).1, rfl⟩
  · rw [hstartNone hsets]
    rfl
  -- a value for the duration goes before one for the end
  · by_cases hdu : t.params.contains "du" = true
    · obtain ⟨x, ⟨hread, -⟩, rfl⟩ := hlengthSet (.inr hdu)
      refine ⟨x, ?_, rfl⟩
      rw [TimingCall.length?, if_pos hdu, (Params.requireNumber_eq_ok_iff.1 hread).1]
    · obtain ⟨x, ⟨hread, -⟩, rfl⟩ := hendSet (.inr (hsets.resolve_left hdu))
      have hnone := hlengthNone
        (contains_of_imp_requireNumber hlengthSet (Bool.eq_false_iff.2 hdu))
      refine ⟨x - t.startInForce c.seek, ?_, by rw [hnone]; rfl⟩
      rw [TimingCall.length?, if_neg hdu, (Params.requireNumber_eq_ok_iff.1 hread).1]
      rfl
  · obtain ⟨hdu, heo⟩ := not_or.1 hsets
    rw [hlengthNone (contains_of_imp_requireNumber hlengthSet (Bool.eq_false_iff.2 hdu)),
      hendNone (contains_of_imp_requireNumber hendSet (Bool.eq_false_iff.2 heo))]
    rfl

/-! ## (3) What one call refuses -/

/-- **What a call that goes well has**: a value in range for all that it is about. -/
structure TimingCall.Accepted (t : TimingCall) (inForce : Number) : Prop where
  start : t.SetsStart → ∃ x, startRead t.params = .ok x ∧ IsStart x
  stop : t.key = "eo" ∨ t.params.contains "eo" = true →
    ∃ x, t.params.requireNumber "eo" "eo" = .ok x ∧ inForce < x
  length : t.key = "du" ∨ t.params.contains "du" = true →
    ∃ x, t.params.requireNumber "du" "du" = .ok x ∧ IsLength x

/-- **Timing goes well for the calls that are accepted.** -/
theorem exists_timing_eq_ok_iff (hc : c.TimesInRange) :
    (∃ next, timing t.key c t.params = .ok next) ↔ t.Accepted (t.startInForce c.seek) := by
  constructor
  · rintro ⟨next, h⟩
    obtain ⟨start, stop, length, hstart, hend, hlength, -⟩ := timing_eq_ok_iff.1 h
    rw [getD_startSet hstart] at hend
    have hforce := (isStart_startInForce hc hstart).1
    exact ⟨(exists_eq_ok_iff fun _ => startSet_eq_ok_iff).1 ⟨start, hstart⟩,
      (exists_eq_ok_iff fun _ => endSet_eq_ok_iff hforce).1 ⟨stop, hend⟩,
      (exists_eq_ok_iff fun _ => lengthSet_eq_ok_iff).1 ⟨length, hlength⟩⟩
  · rintro ⟨hstart, hstop, hlength⟩
    obtain ⟨start, hstart⟩ := (exists_eq_ok_iff fun _ => startSet_eq_ok_iff).2 hstart
    have hforce := (isStart_startInForce hc hstart).1
    obtain ⟨stop, hend⟩ := (exists_eq_ok_iff fun _ => endSet_eq_ok_iff hforce).2 hstop
    obtain ⟨length, hlength⟩ := (exists_eq_ok_iff fun _ => lengthSet_eq_ok_iff).2 hlength
    rw [← getD_startSet hstart] at hend
    exact ⟨_, timing_eq_ok_iff.2 ⟨start, stop, length, hstart, hend, hlength, rfl⟩⟩

/-- What is there can be read, unless it is no finite number. -/
theorem exists_requireNumber {inForce : Number} (h : ¬t.Refused inForce) {name : String}
    (hname : name ∈ timingKeys) (hgiven : t.params.contains name = true) :
    ∃ x, t.params.requireNumber name name = .ok x := by
  by_contra hnone
  refine h (.notFinite hname hgiven fun x hx => Bool.eq_false_iff.2 fun hfinite => hnone ?_)
  exact ⟨x, Params.requireNumber_eq_ok_iff.2 ⟨hx, hfinite⟩⟩

/-- A call that is about the end, or the duration, has a value for it, unless that is missing. -/
theorem contains_of_about {inForce : Number} (h : ¬t.Refused inForce) {name : String}
    (hname : name ≠ "so") (habout : t.key = name ∨ t.params.contains name = true) :
    t.params.contains name = true := by
  rcases habout with rfl | hgiven
  · by_contra hmissing
    exact h (.missing hname (Bool.eq_false_iff.2 hmissing))
  · exact hgiven

theorem mem_timingKeys_iff {name : String} :
    name ∈ timingKeys ↔ name = "so" ∨ name = "eo" ∨ name = "du" := by
  simp [timingKeys]

/-- What an accepted call has a value for can be read. -/
theorem TimingCall.Accepted.exists_requireNumber {inForce : Number} (h : t.Accepted inForce)
    {name : String} (hname : name ∈ timingKeys)
    (hgiven : t.key = name ∧ name ≠ "so" ∨ t.params.contains name = true) :
    ∃ x, t.params.requireNumber name name = .ok x := by
  rcases mem_timingKeys_iff.1 hname with rfl | rfl | rfl
  · have hso := hgiven.resolve_left fun hkey => hkey.2 rfl
    obtain ⟨x, hread, -⟩ := h.start (.inr hso)
    rw [startRead, if_pos hso] at hread
    exact ⟨x, hread⟩
  · obtain ⟨x, hread, -⟩ := h.stop (hgiven.imp_left And.left)
    exact ⟨x, hread⟩
  · obtain ⟨x, hread, -⟩ := h.length (hgiven.imp_left And.left)
    exact ⟨x, hread⟩

/-- **A call is accepted unless there is something wrong with it.** -/
theorem TimingCall.accepted_iff (hkey : t.key ∈ timingKeys) {inForce : Number} :
    t.Accepted inForce ↔ ¬t.Refused inForce := by
  constructor
  · intro haccepted hrefused
    cases hrefused with
    | notFinite hname hgiven h =>
      obtain ⟨x, hread⟩ := haccepted.exists_requireNumber hname (.inr hgiven)
      obtain ⟨hx, hfinite⟩ := Params.requireNumber_eq_ok_iff.1 hread
      rw [h x hx] at hfinite
      cases hfinite
    | negativeStart hx h =>
      have hgiven := Params.contains_of_number? hx
      obtain ⟨y, hread, hy⟩ := haccepted.start (.inr hgiven)
      rw [startRead, if_pos hgiven] at hread
      cases hx.symm.trans (Params.requireNumber_eq_ok_iff.1 hread).1
      exact (Number.not_lt_iff_le hy.1 isFinite_zero).2 hy.2 h
    | earlyEnd hx h =>
      obtain ⟨y, hread, hy⟩ := haccepted.stop (.inr (Params.contains_of_number? hx))
      cases hx.symm.trans (Params.requireNumber_eq_ok_iff.1 hread).1
      exact h hy
    | noDuration hx h =>
      obtain ⟨y, hread, hy⟩ := haccepted.length (.inr (Params.contains_of_number? hx))
      cases hx.symm.trans (Params.requireNumber_eq_ok_iff.1 hread).1
      exact h hy.2
    | missing hso h =>
      obtain ⟨x, hread⟩ := haccepted.exists_requireNumber hkey (.inl ⟨rfl, hso⟩)
      rw [Params.contains_of_number? (Params.requireNumber_eq_ok_iff.1 hread).1] at h
      cases h
  · intro h
    refine ⟨fun habout => ?_, fun habout => ?_, fun habout => ?_⟩
    · by_cases hgiven : t.params.contains "so" = true
      · obtain ⟨x, hread⟩ := exists_requireNumber h (by decide) hgiven
        obtain ⟨hx, hfinite⟩ := Params.requireNumber_eq_ok_iff.1 hread
        refine ⟨x, (if_pos hgiven).trans hread, hfinite, ?_⟩
        exact (Number.not_lt_iff_le hfinite isFinite_zero).1 fun hlt => h (.negativeStart hx hlt)
      · exact ⟨_, if_neg hgiven, isStart_zero⟩
    · obtain ⟨x, hread⟩ := exists_requireNumber h (by decide)
        (contains_of_about h (by decide) habout)
      refine ⟨x, hread, by_contra fun hnot => h (.earlyEnd ?_ hnot)⟩
      exact (Params.requireNumber_eq_ok_iff.1 hread).1
    · obtain ⟨x, hread⟩ := exists_requireNumber h (by decide)
        (contains_of_about h (by decide) habout)
      obtain ⟨hx, hfinite⟩ := Params.requireNumber_eq_ok_iff.1 hread
      exact ⟨x, hread, hfinite, by_contra fun hnot => h (.noDuration hx hnot)⟩

/-- **Timing fails for the calls that are refused**, and for no others. -/
theorem timing_fails_iff (hkey : t.key ∈ timingKeys) (hc : c.TimesInRange) :
    (∃ e, timing t.key c t.params = .error e) ↔ t.Refused (t.startInForce c.seek) := by
  rw [← not_iff_not, ← TimingCall.accepted_iff hkey, ← exists_timing_eq_ok_iff hc]
  cases hdone : timing t.key c t.params with
  | ok next =>
    refine ⟨fun _ => ⟨next, rfl⟩, ?_⟩
    rintro - ⟨e, h⟩
    cases h
  | error e =>
    refine ⟨fun h => absurd ⟨e, rfl⟩ h, ?_⟩
    rintro ⟨next, h⟩
    cases h

end Calls

/-! ## (4) Specs of a chain -/

section Chains

variable {config : Config.Pipeline} {s : Spec} {found : Resolved Operation} {t : TimingCall}
  {c next command : Command} {chain : Chain} {sets : TimingCall → Prop}

/-- The tags of timing are its keys. -/
theorem mem_timingKeys_of_ofTag {tag : String} (h : Group.ofTag tag = .timing) :
    tag ∈ timingKeys := by
  unfold Group.ofTag at h
  split at h
  case h_1 | h_2 | h_3 => decide
  all_goals cases h

/-- **A spec makes a call of timing** where timing is found for it under the key of the call. -/
theorem timingCall?_eq_some_iff :
    timingCall? config s = some t ↔
      t.key ∈ timingKeys ∧ (registry config).resolve s = some ⟨t.key, timing t.key, t.params⟩ := by
  unfold timingCall?
  constructor
  · intro h
    obtain ⟨⟨tag, op, ps⟩, hfound, h⟩ := Option.bind_eq_some_iff.1 h
    split at h
    · rename_i hkey
      cases h
      have hmem : (tag, op) ∈ operations config :=
        Dictionary.mem_of_mem_ofList (Registry.resolve_cases hfound).1
      cases (get?_of_mem_operations hmem).symm.trans (get?_timing config hkey)
      exact ⟨hkey, hfound⟩
    · cases h
  · rintro ⟨hkey, hfound⟩
    rw [hfound, Option.bind_some, if_pos hkey]

/-- **No spec of a chain makes a call that sets a time.** -/
def NoneSets (config : Config.Pipeline) (sets : TimingCall → Prop) (chain : Chain) : Prop :=
  ∀ s ∈ chain, ∀ t, timingCall? config s = some t → ¬sets t

/-- **The last spec of a chain that makes a call which sets a time**, by the specs before it and by
its call. -/
inductive LastCall (config : Config.Pipeline) (sets : TimingCall → Prop) :
    Chain → Chain → TimingCall → Prop
  | intro {before : Chain} {s : Spec} {after : Chain} {t : TimingCall}
      (hcall : timingCall? config s = some t) (hsets : sets t)
      (hlater : NoneSets config sets after) : LastCall config sets (before ++ s :: after) before t

/-- **A spec that does not set a time leaves it as it is**, whatever else it does. -/
theorem kept_of_step (hc : c.TimesInRange) (hfound : (registry config).resolve s = some found)
    (hnext : step found c = .ok next) :
    ((∀ t, timingCall? config s = some t → ¬t.SetsStart) → next.seek = c.seek) ∧
      ((∀ t, timingCall? config s = some t → ¬t.SetsLength) → next.duration = c.duration) := by
  cases hcall : timingCall? config s with
  | some t =>
    obtain ⟨-, hresolve⟩ := timingCall?_eq_some_iff.1 hcall
    cases hfound.symm.trans hresolve
    have hwrites : t.Writes c next := writes_of_timing hc (step_eq_ok_iff.1 hnext)
    exact ⟨fun h => hwrites.startKept (h t rfl), fun h => hwrites.lengthKept (h t rfl)⟩
  | none =>
    have htiming : groupOf config s ≠ .timing := by
      intro htiming
      rw [groupOf, hfound] at htiming
      rw [timingCall?, hfound, Option.bind_some, if_pos (mem_timingKeys_of_ofTag htiming)] at hcall
      cases hcall
    obtain ⟨change, -, -, rfl⟩ := exists_contributes_of_step hfound htiming hnext
    cases change <;> exact ⟨fun _ => rfl, fun _ => rfl⟩

/-- **Specs that do not set a time leave it as it is**, however many there are. -/
theorem kept_of_planFrom (hc : c.TimesInRange)
    (h : planFrom (registry config) c chain = .ok command) :
    (NoneSets config TimingCall.SetsStart chain → command.seek = c.seek) ∧
      (NoneSets config TimingCall.SetsLength chain → command.duration = c.duration) := by
  -- on the run, with the times in range as `kept_of_step` asks for them
  constructor
  · intro hnone
    refine (Registry.fold_induction (fun state => state.TimesInRange ∧ state.seek = c.seek)
      (fun s hs found hfound state next hstate hnext => ?_) ⟨hc, rfl⟩ h).2
    have hkept := (kept_of_step hstate.1 hfound hnext).1 (hnone s hs)
    exact ⟨timesInRange_of_step hfound hstate.1 hnext, hkept.trans hstate.2⟩
  · intro hnone
    refine (Registry.fold_induction (fun state => state.TimesInRange ∧ state.duration = c.duration)
      (fun s hs found hfound state next hstate hnext => ?_) ⟨hc, rfl⟩ h).2
    have hkept := (kept_of_step hstate.1 hfound hnext).2 (hnone s hs)
    exact ⟨timesInRange_of_step hfound hstate.1 hnext, hkept.trans hstate.2⟩

/-! ## (5) Plans -/

/-- A chain that has no last call which sets a time has none at all. -/
theorem noneSets_or_exists_lastCall (config : Config.Pipeline) (sets : TimingCall → Prop)
    (chain : Chain) :
    NoneSets config sets chain ∨ ∃ before t, LastCall config sets chain before t := by
  induction chain with
  | nil => exact .inl fun _ hs => absurd hs List.not_mem_nil
  | cons s rest ih =>
    -- a call of this spec is the last one only where there is none in the rest
    obtain hnone | ⟨before, t, hlast⟩ := ih
    · by_cases hhere : ∀ t, timingCall? config s = some t → ¬sets t
      · exact .inl (List.forall_mem_cons.2 ⟨hhere, hnone⟩)
      · obtain ⟨t, hcall, hsets⟩ : ∃ t, timingCall? config s = some t ∧ sets t := by
          simpa using hhere
        exact .inr ⟨[], t, @LastCall.intro _ _ [] _ _ _ hcall hsets hnone⟩
    · obtain ⟨hcall, hsets, hlater⟩ := hlast
      exact .inr ⟨s :: before, t, @LastCall.intro _ _ (s :: before) _ _ _ hcall hsets hlater⟩

/-- A plan of a chain goes on from the plan of its first part. -/
theorem plan_append_of_ok {first : Chain} (h : plan (registry config) first = .ok c)
    (second : Chain) :
    plan (registry config) (first ++ second) = planFrom (registry config) c second := by
  rw [plan_append, h]
  rfl

/-- A spec of timing goes first, and the rest of the chain from where it gets. -/
theorem planFrom_cons_of_timing (hcall : timingCall? config s = some t) (after : Chain) :
    planFrom (registry config) c (s :: after)
      = (timing t.key c t.params).bind (planFrom (registry config) · after) := by
  rw [planFrom, Registry.fold_cons_of_some (timingCall?_eq_some_iff.1 hcall).2, step_timing]
  rfl

/-- **A plan runs through the last call that sets a time**, from the plan of the specs before. -/
theorem LastCall.exists_writes {before : Chain} (hlast : LastCall config sets chain before t)
    (h : plan (registry config) chain = .ok command) :
    ∃ part next after, plan (registry config) before = .ok part ∧ t.Writes part next ∧
      next.TimesInRange ∧ planFrom (registry config) next after = .ok command ∧
      NoneSets config sets after ∧ sets t := by
  obtain ⟨hcall, hsets, hlater⟩ := hlast
  rw [plan_append] at h
  obtain ⟨part, hpart, h⟩ := bind_eq_ok_iff.1 h
  rw [planFrom_cons_of_timing hcall] at h
  obtain ⟨next, hnext, h⟩ := bind_eq_ok_iff.1 h
  have hrange := timesInRange_of_plan hpart
  exact ⟨part, next, _, hpart, writes_of_timing hrange hnext, timesInRange_of_timing hrange hnext,
    h, hlater, hsets⟩

/-- **A spec of timing makes a plan fail** where there is something wrong with its call. -/
theorem plan_fails_at_iff {before : Chain} {part : Command}
    (hcall : timingCall? config s = some t) (hpart : plan (registry config) before = .ok part) :
    (∃ e, ∀ after, plan (registry config) (before ++ s :: after) = .error e) ↔
      t.Refused (t.startInForce part.seek) := by
  have hkey := (timingCall?_eq_some_iff.1 hcall).1
  rw [← timing_fails_iff hkey (timesInRange_of_plan hpart)]
  constructor
  · rintro ⟨e, h⟩
    -- where nothing follows, only this spec can fail
    have hlast := h []
    rw [plan_append_of_ok hpart, planFrom_cons_of_timing hcall] at hlast
    cases hdone : timing t.key part t.params with
    | ok next =>
      rw [hdone] at hlast
      cases hlast
    | error e => exact ⟨e, rfl⟩
  · rintro ⟨e, h⟩
    refine ⟨e, fun after => ?_⟩
    rw [plan_append_of_ok hpart, planFrom_cons_of_timing hcall, h]
    rfl

/-- **The times of a chain**, as the last calls that set them say. -/
structure LastTimes (config : Config.Pipeline) (chain : Chain) (command : Command) : Prop where
  start : ∀ {before : Chain} {t : TimingCall}, LastCall config TimingCall.SetsStart chain before t →
    ∃ x, t.start? = some x ∧ command.seek = some x
  noStart : NoneSets config TimingCall.SetsStart chain → command.seek = none
  length : ∀ {before : Chain} {t : TimingCall},
    LastCall config TimingCall.SetsLength chain before t →
      ∃ part x, plan (registry config) before = .ok part ∧ t.length? part.seek = some x ∧
        command.duration = some x
  noLength : NoneSets config TimingCall.SetsLength chain → command.duration = none

/-- **A plan begins and lasts as its last calls say.** A chain either has a last call that sets a
time, or none that does; its plan has the start of the last call that sets one, and the duration of
the last call that sets one, which counts an end from the start in force at that call. So a later
start does not change an earlier duration. And a spec of timing makes a plan fail just where one of
its three values is no finite number or out of its range, or where it lacks its own. -/
theorem times_of_plan (config : Config.Pipeline) :
    (∀ sets chain, NoneSets config sets chain ∨ ∃ before t, LastCall config sets chain before t) ∧
    (∀ chain command, plan (registry config) chain = .ok command →
      LastTimes config chain command) ∧
    (∀ first second part whole, plan (registry config) first = .ok part →
      plan (registry config) (first ++ second) = .ok whole →
      NoneSets config TimingCall.SetsLength second → whole.duration = part.duration) ∧
    ∀ before s t part, timingCall? config s = some t → plan (registry config) before = .ok part →
      ((∃ e, ∀ after, plan (registry config) (before ++ s :: after) = .error e) ↔
        t.Refused (t.startInForce part.seek)) := by
  refine ⟨noneSets_or_exists_lastCall config, fun chain command h => ⟨?_, ?_, ?_, ?_⟩, ?_,
    fun before s t part => plan_fails_at_iff⟩
  · intro before t hlast
    obtain ⟨part, next, after, -, hwrites, hrange, hrest, hlater, hsets⟩ := hlast.exists_writes h
    obtain ⟨x, hx, hseek⟩ := hwrites.start hsets
    exact ⟨x, hx, ((kept_of_planFrom hrange hrest).1 hlater).trans hseek⟩
  · exact (kept_of_planFrom timesInRange_empty h).1
  · intro before t hlast
    obtain ⟨part, next, after, hpart, hwrites, hrange, hrest, hlater, hsets⟩ := hlast.exists_writes h
    obtain ⟨x, hx, hlength⟩ := hwrites.length hsets
    exact ⟨part, x, hpart, hx, ((kept_of_planFrom hrange hrest).2 hlater).trans hlength⟩
  · exact (kept_of_planFrom timesInRange_empty h).2
  · intro first second part whole hpart hwhole hnone
    rw [plan_append_of_ok hpart] at hwhole
    exact (kept_of_planFrom (timesInRange_of_plan hpart) hwhole).2 hnone

/-- A start, a start with an end, another operation and a start once more. -/
def timesChain : Chain :=
  [⟨"so", .ofList [("so", .number (.ofNat 5))]⟩,
    ⟨"eo", .ofList [("eo", .number (.ofNat 9)), ("so", .number (.ofNat 4))]⟩,
    ⟨"q_80", .empty⟩,
    ⟨"so", .ofList [("so", .number (.ofNat 1))]⟩]

/-- The last start is in force, the duration is counted from the one before it, and an end that is
not after the start in force makes the plan fail. -/
theorem times_of_plan_timesChain :
    (∃ command, plan (registry {}) timesChain = .ok command ∧ LastTimes {} timesChain command ∧
      command.seek = some (.ofNat 1) ∧ command.duration = some (.ofNat 5)) ∧
    ∃ e, ∀ after, plan (registry {})
      (timesChain ++ ⟨"eo", .ofList [("eo", .number (.ofNat 1))]⟩ :: after) = .error e := by
  have hplan : plan (registry {}) timesChain
      = .ok { seek := some (.ofNat 1), duration := some (.ofNat 5),
              options := [("-qscale:v", "31")] } := by
    decide +kernel
  obtain ⟨-, htimes, -, hfails⟩ := times_of_plan {}
  refine ⟨⟨_, hplan, htimes _ _ hplan, rfl, rfl⟩, ?_⟩
  have hcall : timingCall? {} ⟨"eo", .ofList [("eo", .number (.ofNat 1))]⟩
      = some ⟨"eo", .ofList [("eo", .number (.ofNat 1))]⟩ := by
    decide +kernel
  exact (hfails _ _ _ _ hcall hplan).2 (.earlyEnd rfl (by decide +kernel))

end Chains

end Video

end MediaTransform
