import MediaTransform.Proofs.Number.Arithmetic
import MediaTransform.Proofs.Video.Change

/-! # Starts, ends and durations

What a timing spec reads, apart from the command that it writes it to:

* **`Video.startSet`**, **`endSet`**, **`lengthSet`** — the time that a spec sets, if it sets one;
  `applyStart_eq`, `applyEnd_eq` and `applyDuration_eq` write it to a command, and
  `startSet_eq_ok_iff` and its companions say what is set.
* **`Command.TimesInRange`** — a start that is not negative and a duration that is positive, both
  finite; `timesInRange_of_timing` says that timing keeps to them. -/

namespace MediaTransform

namespace Video

/-! ## (1) The times that a spec sets -/

/-- The start that a spec about the start asks for; zero where it says nothing. -/
def startRead (ps : Params) : Except Error Number :=
  if ps.contains "so" then ps.requireNumber "so" "so" else .ok (.ofNat 0)

/-- **The start that a spec sets**, if the spec is about the start. -/
def startSet (key : String) (ps : Params) : Except Error (Option Number) :=
  if key = "so" ∨ ps.contains "so" then do
    let start ← startRead ps
    if start < .ofNat 0 then
      throw (.operation "so" ("start offset must be >= 0, got " ++ start.text))
    return some start
  else .ok none

/-- **The duration that the end of a spec sets**, if the spec is about the end, after a start. -/
def endSet (key : String) (ps : Params) (start : Number) : Except Error (Option Number) :=
  if key = "eo" ∨ ps.contains "eo" then do
    let stop ← ps.requireNumber "eo" "eo"
    if stop ≤ start then
      throw (.operation "eo"
        ("end offset " ++ stop.text ++ " must be after start offset " ++ start.text))
    return some (stop - start)
  else .ok none

/-- **The duration that a spec sets**, if the spec is about the duration. -/
def lengthSet (key : String) (ps : Params) : Except Error (Option Number) :=
  if key = "du" ∨ ps.contains "du" then do
    let duration ← ps.requireNumber "du" "du"
    if duration ≤ .ofNat 0 then
      throw (.operation "du" ("duration must be > 0, got " ++ duration.text))
    return some duration
  else .ok none

theorem applyStart_eq (key : String) (c : Command) (ps : Params) :
    applyStart key c ps
      = (startSet key ps).map fun start => { c with seek := start.or c.seek } := by
  unfold applyStart startSet startRead
  split
  · by_cases hso : ps.contains "so" = true
    · simp only [if_pos hso]
      cases ps.requireNumber "so" "so" with
      | error e => rfl
      | ok start =>
        dsimp only [bind, Except.bind]
        split <;> rfl
    · simp only [if_neg hso]
      dsimp only [bind, Except.bind, pure, Except.pure]
      split <;> rfl
  · rfl

theorem applyEnd_eq (key : String) (c : Command) (ps : Params) :
    applyEnd key c ps = (endSet key ps (c.seek.getD (.ofNat 0))).map fun duration =>
      { c with duration := duration.or c.duration } := by
  unfold applyEnd endSet
  split
  · cases ps.requireNumber "eo" "eo" with
    | error e => rfl
    | ok stop =>
      dsimp only [bind, Except.bind]
      split <;> rfl
  · rfl

theorem applyDuration_eq (key : String) (c : Command) (ps : Params) :
    applyDuration key c ps = (lengthSet key ps).map fun duration =>
      { c with duration := duration.or c.duration } := by
  unfold applyDuration lengthSet
  split
  · cases ps.requireNumber "du" "du" with
    | error e => rfl
    | ok duration =>
      dsimp only [bind, Except.bind]
      split <;> rfl
  · rfl

/-! ## (2) What is set is in range -/

/-- A checked reading that is made only where it is asked for. -/
theorem ite_checked_eq_ok_iff {α β : Type} {about : Prop} [Decidable about] {read : Except Error α}
    {bad : α → Prop} [DecidablePred bad] {e : α → Error} {f : α → Option β} {new : Option β} :
    (if about then do
        let a ← read
        if bad a then throw (e a)
        return f a
      else .ok none) = .ok new ↔
      (about → ∃ a, (read = .ok a ∧ ¬bad a) ∧ f a = new) ∧ (¬about → new = none) := by
  simp only [and_assoc]
  by_cases habout : about
  · rw [if_pos habout, checked_eq_ok_iff]
    exact ⟨fun h => ⟨fun _ => h, fun hnot => absurd habout hnot⟩, fun h => h.1 habout⟩
  · rw [if_neg habout]
    constructor
    · intro h
      cases h
      exact ⟨fun h => absurd h habout, fun _ => rfl⟩
    · rintro ⟨-, h⟩
      rw [h habout]

/-- Such a reading goes well where what is asked for can be read. -/
theorem exists_eq_ok_iff {α β : Type} {about : Prop} {x : Except Error (Option β)} {P : α → Prop}
    {f : α → Option β}
    (h : ∀ new, x = .ok new ↔ (about → ∃ a, P a ∧ f a = new) ∧ (¬about → new = none)) :
    (∃ new, x = .ok new) ↔ (about → ∃ a, P a) := by
  constructor
  · rintro ⟨new, hnew⟩ habout
    obtain ⟨a, ha, -⟩ := ((h new).1 hnew).1 habout
    exact ⟨a, ha⟩
  · intro hread
    by_cases habout : about
    · obtain ⟨a, ha⟩ := hread habout
      exact ⟨f a, (h _).2 ⟨fun _ => ⟨a, ha, rfl⟩, fun hnot => absurd habout hnot⟩⟩
    · exact ⟨none, (h _).2 ⟨fun hyes => absurd hyes habout, fun _ => rfl⟩⟩

/-- **A time from which to begin**: finite and not negative. -/
def IsStart (x : Number) : Prop := x.isFinite = true ∧ .ofNat 0 ≤ x

/-- **A length of time**: finite and positive. -/
def IsLength (x : Number) : Prop := x.isFinite = true ∧ .ofNat 0 < x

section Ranges

variable {key : String} {ps : Params} {x start : Number} {new : Option Number}

theorem isFinite_zero : (Number.ofNat 0).isFinite = true := Number.isFinite_ofNat (by decide)

theorem value_zero : (Number.ofNat 0).value = 0 := by
  rw [Number.value_ofNat (by decide), Nat.cast_zero]

theorem isStart_zero : IsStart (.ofNat 0) :=
  ⟨isFinite_zero, (Number.le_iff_value_le isFinite_zero isFinite_zero).2 le_rfl⟩

theorem IsStart.value (h : IsStart x) : 0 ≤ x.value := by
  rw [← value_zero]
  exact (Number.le_iff_value_le isFinite_zero h.1).1 h.2

/-- Starts that are read are finite. -/
theorem isFinite_of_startRead (h : startRead ps = .ok x) : x.isFinite = true := by
  unfold startRead at h
  split at h
  · exact Params.isFinite_of_requireNumber h
  · cases h
    exact isFinite_zero

/-- **The start that is set** is the one that is read, which is not negative. -/
theorem startSet_eq_ok_iff :
    startSet key ps = .ok new ↔
      (key = "so" ∨ ps.contains "so" = true →
        ∃ x, (startRead ps = .ok x ∧ IsStart x) ∧ some x = new) ∧
        (¬(key = "so" ∨ ps.contains "so" = true) → new = none) := by
  refine ite_checked_eq_ok_iff.trans (and_congr_left fun _ => forall_congr' fun _ =>
    exists_congr fun x => and_congr_left fun _ => and_congr_right fun hread => ?_)
  have hfinite := isFinite_of_startRead hread
  rw [IsStart, Number.not_lt_iff_le hfinite isFinite_zero, and_iff_right hfinite]

/-- **The duration that an end sets** is the time to it from the start, which lies before it. -/
theorem endSet_eq_ok_iff (hstart : start.isFinite = true) :
    endSet key ps start = .ok new ↔
      (key = "eo" ∨ ps.contains "eo" = true →
        ∃ x, (ps.requireNumber "eo" "eo" = .ok x ∧ start < x) ∧ some (x - start) = new) ∧
        (¬(key = "eo" ∨ ps.contains "eo" = true) → new = none) := by
  refine ite_checked_eq_ok_iff.trans (and_congr_left fun _ => forall_congr' fun _ =>
    exists_congr fun x => and_congr_left fun _ => and_congr_right fun hread => ?_)
  exact Number.not_le_iff_lt (Params.isFinite_of_requireNumber hread) hstart

/-- **The duration that is set** is the one that is read, which is positive. -/
theorem lengthSet_eq_ok_iff :
    lengthSet key ps = .ok new ↔
      (key = "du" ∨ ps.contains "du" = true →
        ∃ x, (ps.requireNumber "du" "du" = .ok x ∧ IsLength x) ∧ some x = new) ∧
        (¬(key = "du" ∨ ps.contains "du" = true) → new = none) := by
  refine ite_checked_eq_ok_iff.trans (and_congr_left fun _ => forall_congr' fun _ =>
    exists_congr fun x => and_congr_left fun _ => and_congr_right fun hread => ?_)
  have hfinite := Params.isFinite_of_requireNumber hread
  rw [IsLength, Number.not_le_iff_lt hfinite isFinite_zero, and_iff_right hfinite]

/-- What is set was asked for. -/
theorem of_not_imp_none {about : Prop} (h : ¬about → some x = none) : about :=
  by_contra fun hnot => Option.some_ne_none x (h hnot)

/-- **A start that is set is not negative.** -/
theorem isStart_of_startSet (h : startSet key ps = .ok (some x)) : IsStart x := by
  obtain ⟨hset, hnone⟩ := startSet_eq_ok_iff.1 h
  obtain ⟨y, ⟨-, hy⟩, hx⟩ := hset (of_not_imp_none hnone)
  cases hx
  exact hy

/-- **The duration up to an end is positive**: the end lies after the start. -/
theorem isLength_of_endSet (hstart : IsStart start) (h : endSet key ps start = .ok (some x)) :
    IsLength x := by
  obtain ⟨hset, hnone⟩ := (endSet_eq_ok_iff hstart.1).1 h
  obtain ⟨stop, ⟨hread, hlt⟩, hx⟩ := hset (of_not_imp_none hnone)
  cases hx
  have hstop := Params.isFinite_of_requireNumber hread
  obtain ⟨hfinite, hpos⟩ := Number.sub_pos_of_lt hstop hstart.1 hstart.value
    ((Number.lt_iff_value_lt hstart.1 hstop).1 hlt)
  refine ⟨hfinite, (Number.lt_iff_value_lt isFinite_zero hfinite).2 ?_⟩
  rwa [value_zero]

/-- **A duration that is set is positive.** -/
theorem isLength_of_lengthSet (h : lengthSet key ps = .ok (some x)) : IsLength x := by
  obtain ⟨hset, hnone⟩ := lengthSet_eq_ok_iff.1 h
  obtain ⟨y, ⟨-, hy⟩, hx⟩ := hset (of_not_imp_none hnone)
  cases hx
  exact hy

end Ranges

end Video

/-! ## (3) Commands with such times -/

/-- **The times of a command are in range**: it begins at a start and lasts for a length of time, if
it has either. -/
structure Command.TimesInRange (c : Command) : Prop where
  seek : ∀ x ∈ c.seek, Video.IsStart x
  duration : ∀ x ∈ c.duration, Video.IsLength x

namespace Video

theorem timesInRange_empty : Command.TimesInRange {} where
  seek x hx := absurd hx (Option.not_mem_none x)
  duration x hx := absurd hx (Option.not_mem_none x)

variable {key : String} {ps : Params} {c next : Command}

/-- A time that is set takes the place of the one before. -/
theorem forall_mem_or {P : Number → Prop} {new old : Option Number} (hnew : ∀ x, new = some x → P x)
    (hold : ∀ x ∈ old, P x) : ∀ x ∈ new.or old, P x := by
  cases new with
  | none => exact hold
  | some y =>
    intro x hx
    exact hnew x (by simpa using hx)

theorem timesInRange_of_applyStart (hc : c.TimesInRange) (h : applyStart key c ps = .ok next) :
    next.TimesInRange := by
  rw [applyStart_eq] at h
  obtain ⟨new, hset, rfl⟩ := map_eq_ok_iff.1 h
  exact ⟨forall_mem_or (fun x hx => isStart_of_startSet (hx ▸ hset)) hc.seek, hc.duration⟩

/-- The start in force is one from which to begin: at the beginning where none is set. -/
theorem isStart_getD (hc : c.TimesInRange) : IsStart (c.seek.getD (.ofNat 0)) := by
  cases hseek : c.seek with
  | none => exact isStart_zero
  | some start => exact hc.seek start hseek

theorem timesInRange_of_applyEnd (hc : c.TimesInRange) (h : applyEnd key c ps = .ok next) :
    next.TimesInRange := by
  rw [applyEnd_eq] at h
  obtain ⟨new, hset, rfl⟩ := map_eq_ok_iff.1 h
  exact ⟨hc.seek,
    forall_mem_or (fun x hx => isLength_of_endSet (isStart_getD hc) (hx ▸ hset)) hc.duration⟩

theorem timesInRange_of_applyDuration (hc : c.TimesInRange)
    (h : applyDuration key c ps = .ok next) : next.TimesInRange := by
  rw [applyDuration_eq] at h
  obtain ⟨new, hset, rfl⟩ := map_eq_ok_iff.1 h
  exact ⟨hc.seek, forall_mem_or (fun x hx => isLength_of_lengthSet (hx ▸ hset)) hc.duration⟩

/-- **Timing keeps the times in range**, whatever was set before. -/
theorem timesInRange_of_timing (hc : c.TimesInRange) (h : timing key c ps = .ok next) :
    next.TimesInRange := by
  obtain ⟨started, hstart, h⟩ := bind_eq_ok_iff.1 h
  obtain ⟨ended, hend, hlength⟩ := bind_eq_ok_iff.1 h
  exact timesInRange_of_applyDuration
    (timesInRange_of_applyEnd (timesInRange_of_applyStart hc hstart) hend) hlength

/-- The operations of timing are timing under some key. -/
theorem exists_key_of_timing {config : Config.Pipeline} {tag : String} {op : Operation}
    (h : (tag, op) ∈ operations config) (htag : Group.ofTag tag = .timing) :
    ∃ key, op = timing key := by
  have hall : ∀ p ∈ operations config, Group.ofTag p.1 = .timing → ∃ key, p.2 = timing key := by
    simp [operations, Group.ofTag]
  exact hall _ h htag

/-- **A spec of timing calls timing under some key.** -/
theorem exists_key_of_resolve {config : Config.Pipeline} {s : Spec} {found : Resolved Operation}
    (h : (registry config).resolve s = some found) (htiming : groupOf config s = .timing) :
    ∃ key, found.handler = timing key := by
  have htag : Group.ofTag found.tag = .timing := by rw [← htiming, groupOf, h]
  exact exists_key_of_timing (Dictionary.mem_of_mem_ofList (Registry.resolve_cases h).1) htag

end Video

end MediaTransform
