import MediaTransform.Dictionary
import Mathlib.Data.List.Induction
import Mathlib.Data.List.Sort
import Mathlib.Data.Option.Basic

/-! # Dictionaries of lists in any order

* **`Dictionary.insert_comm`** — values under two keys may be set in either order.
* **`Dictionary.ofList_perm`** — so the order of a list with distinct keys does not matter, and each
  entry is found under its key (`get?_ofList_of_mem`).
* **`Dictionary.withDefault_ofList`** — a default under a new key is one more entry of the list.
* **`Dictionary.lastValue?`** — the value of the last entry with a key; `get?_ofList` says that
  nothing else in a list counts.
* **`Dictionary.Alike`** — two dictionaries with one list of keys and related values, which is a
  matter of what is found under each key (`alike_iff`). -/

namespace MediaTransform

namespace Dictionary

variable {β : Type}

/-! ## (1) Two entries -/

/-- **Values under two keys may be set in either order.** -/
theorem insert_comm (d : Dictionary β) {a b : String} (h : a ≠ b) (x y : β) :
    (d.insert a x).insert b y = (d.insert b y).insert a x := by
  refine ext_get? fun key => ?_
  simp only [get?_insert]
  by_cases hb : key = b
  · have ha : key ≠ a := fun ha => h (ha.symm.trans hb)
    rw [if_pos hb, if_neg ha, if_pos hb]
  · rw [if_neg hb, if_neg hb]

/-- **Reading after a default**, which counts where there was no value. -/
theorem get?_withDefault (d : Dictionary β) (key other : String) (value : β) :
    (d.withDefault key value).get? other =
      if other = key then (d.get? key).or (some value) else d.get? other := by
  unfold withDefault contains
  cases hkey : d.get? key with
  | some old =>
    rw [if_pos Option.isSome_some]
    split
    · next h => rw [h, hkey, Option.some_or]
    · rfl
  | none =>
    rw [if_neg (by simp), get?_insert, Option.none_or]

/-! ## (2) Entries of lists -/

variable {l l' : List (String × β)} {e : String × β}

theorem ofList_concat (l : List (String × β)) (e : String × β) :
    ofList (l ++ [e]) = (ofList l).insert e.1 e.2 := by
  rw [ofList, List.foldl_concat]
  rfl

/-- A key that no entry has finds nothing. -/
theorem contains_ofList_eq_false {key : String} (h : key ∉ l.map (·.1)) :
    (ofList l).contains key = false := by
  refine Bool.eq_false_iff.2 fun hcontains => ?_
  obtain ⟨value, hvalue⟩ := Option.isSome_iff_exists.1 hcontains
  exact h (List.mem_map.2 ⟨_, mem_of_mem_ofList (mem_of_get? hvalue), rfl⟩)

/-- **The order of entries with distinct keys does not matter.** -/
theorem ofList_perm (hperm : l.Perm l') (hdistinct : (l.map (·.1)).Nodup) :
    ofList l = ofList l' := by
  refine hperm.foldl_eq' (fun a ha b hb d => ?_) empty
  by_cases hkey : a.1 = b.1
  · -- one key is that of one entry
    rw [List.inj_on_of_nodup_map hdistinct ha hb hkey]
  · exact insert_comm d hkey a.2 b.2

/-- **A default under a new key is one more entry.** -/
theorem withDefault_ofList (hdistinct : ((e :: l).map (·.1)).Nodup) :
    (ofList l).withDefault e.1 e.2 = ofList (e :: l) := by
  have hnew : (ofList l).contains e.1 = false :=
    contains_ofList_eq_false (List.nodup_cons.1 hdistinct).1
  rw [withDefault, if_neg (Bool.eq_false_iff.1 hnew), ← ofList_concat]
  exact (ofList_perm (List.perm_append_singleton e l).symm hdistinct).symm

/-- **An entry is found under its key** if no other entry has it. -/
theorem get?_ofList_of_mem (hdistinct : (l.map (·.1)).Nodup) (h : e ∈ l) :
    (ofList l).get? e.1 = some e.2 := by
  obtain ⟨before, after, rfl⟩ := List.append_of_mem h
  -- with the entry put last, nothing is set after it
  have hlast : (before ++ e :: after).Perm (before ++ after ++ [e]) :=
    List.perm_middle.trans (List.perm_append_singleton e _).symm
  rw [ofList_perm hlast hdistinct, ofList_concat, get?_insert, if_pos rfl]

/-! ## (3) Last entries -/

/-- **The value of the last entry with a key**, if there is one. -/
def lastValue? (key : String) (l : List (String × β)) : Option β :=
  (l.filter (·.1 = key)).getLast?.map (·.2)

theorem lastValue?_append (key : String) (l l' : List (String × β)) :
    lastValue? key (l ++ l') = (lastValue? key l').or (lastValue? key l) := by
  rw [lastValue?, List.filter_append, List.getLast?_append, Option.map_or]
  rfl

theorem lastValue?_singleton (key : String) (e : String × β) :
    lastValue? key [e] = if key = e.1 then some e.2 else none := by
  unfold lastValue?
  split
  · rename_i heq
    simp [heq]
  · rename_i hne
    simp [Ne.symm hne]

theorem isSome_lastValue?_iff {key : String} {l : List (String × β)} :
    (lastValue? key l).isSome = true ↔ ∃ value, (key, value) ∈ l := by
  rw [lastValue?, Option.isSome_map, List.getLast?_isSome]
  constructor
  · intro hne
    obtain ⟨e, he⟩ := List.exists_mem_of_ne_nil _ hne
    obtain ⟨hmem, hkey⟩ := List.mem_filter.1 he
    rw [← of_decide_eq_true hkey]
    exact ⟨e.2, hmem⟩
  · rintro ⟨value, hmem⟩
    exact List.ne_nil_of_mem (List.mem_filter.2 ⟨hmem, decide_eq_true rfl⟩)

/-- **What is found in the dictionary of a list** is the last value of a key. -/
theorem get?_ofList (l : List (String × β)) (key : String) :
    (ofList l).get? key = lastValue? key l := by
  induction l using List.reverseRecOn with
  | nil => rfl
  | append_singleton l e ih =>
    rw [ofList_concat, get?_insert, lastValue?_append, lastValue?_singleton, ih]
    split <;> rfl

/-! ## (4) Related values -/

/-- **Dictionaries are alike** where they have the same keys, and related values under them. -/
def Alike (r : β → β → Prop) (a b : Dictionary β) : Prop :=
  List.Forall₂ (fun x y => x.1 = y.1 ∧ r x.2 y.2) a.entries b.entries

variable {r : β → β → Prop} {a b : Dictionary β}

/-- An entry is found under its key. -/
theorem get?_of_mem {d : Dictionary β} (h : e ∈ d.entries) : d.get? e.1 = some e.2 := by
  have hdistinct : (d.entries.map (·.1)).Nodup :=
    List.pairwise_map.2 (d.increasing.imp fun {x y} hlt (heq : x.1 = y.1) =>
      String.lt_irrefl y.1 (by rwa [heq] at hlt))
  have hofList := get?_ofList_of_mem hdistinct h
  rwa [ofList_entries] at hofList

theorem mem_keys_iff {d : Dictionary β} {key : String} :
    key ∈ d.entries.map (·.1) ↔ (d.get? key).isSome = true := by
  constructor
  · intro h
    obtain ⟨e, he, rfl⟩ := List.mem_map.1 h
    rw [get?_of_mem he]
    rfl
  · intro h
    obtain ⟨value, hvalue⟩ := Option.isSome_iff_exists.1 h
    exact List.mem_map.2 ⟨_, mem_of_get? hvalue, rfl⟩

theorem rel_lookupEntry (h : List.Forall₂ (fun x y => x.1 = y.1 ∧ r x.2 y.2) l l') (key : String) :
    Option.Rel r (lookupEntry key l) (lookupEntry key l') := by
  induction h with
  | nil => exact .none
  | @cons x y _ _ hxy _ ih =>
    rw [lookupEntry, lookupEntry, ← hxy.1]
    split
    · exact .some hxy.2
    · exact ih

/-- **Dictionaries are alike** where all keys find related values or find none. -/
theorem alike_iff : a.Alike r b ↔ ∀ key, Option.Rel r (a.get? key) (b.get? key) := by
  refine ⟨rel_lookupEntry, fun h => ?_⟩
  have hsome (key : String) : (a.get? key).isSome = (b.get? key).isSome := by
    have hkey := h key
    revert hkey
    cases a.get? key <;> cases b.get? key <;> simp
  -- the keys are those that find something, and there is one order for them
  have hkeys : a.entries.map (·.1) = b.entries.map (·.1) := by
    refine List.Pairwise.eq_of_mem_iff (List.pairwise_map.2 a.increasing)
      (List.pairwise_map.2 b.increasing) fun key => ?_
    rw [mem_keys_iff, mem_keys_iff, hsome]
  have hentries : List.Forall₂ (fun x y => x.1 = y.1) a.entries b.entries := by
    have hself : List.Forall₂ (· = ·) (a.entries.map (·.1)) (b.entries.map (·.1)) := by
      rw [hkeys]
      exact List.forall₂_refl _
    rwa [List.forall₂_map_left_iff, List.forall₂_map_right_iff] at hself
  obtain ⟨hlength, hget⟩ := List.forall₂_iff_get.1 hentries
  refine List.forall₂_iff_get.2 ⟨hlength, fun i hi hj => ⟨hget i hi hj, ?_⟩⟩
  have hkey := h (a.entries.get ⟨i, hi⟩).1
  rwa [get?_of_mem (List.get_mem ..), hget i hi hj, get?_of_mem (List.get_mem ..),
    Option.rel_some_some] at hkey

end Dictionary

end MediaTransform
