/-! # Dictionaries: values under text keys, in key order

Parameters, handlers and stored files are looked up by a text key and listed in the order of the
keys' code points.

* **`Dictionary`** — entries with strictly increasing keys, so that a dictionary has one form.
* **`Dictionary.insert`** — a later value replaces an earlier one; `get?_insert` is its law.
* **`Dictionary.ofList`** — entries in any order; `ofList_entries` says that the entries of a
  dictionary give it back. -/

namespace MediaTransform

/-- **Values under distinct text keys**, listed in increasing order of the keys. -/
structure Dictionary (β : Type) where
  entries : List (String × β)
  increasing : entries.Pairwise (fun a b => a.1 < b.1)

namespace Dictionary

variable {β : Type}

instance [DecidableEq β] : DecidableEq (Dictionary β) := fun a b =>
  decidable_of_iff (a.entries = b.entries)
    ⟨fun h => by cases a; cases b; cases h; rfl, fun h => h ▸ rfl⟩

theorem ext_entries {a b : Dictionary β} (h : a.entries = b.entries) : a = b := by
  cases a; cases b; cases h; rfl

/-! ## (1) Entries in order -/

/-- The entries with `key` set to `value`, in order. -/
def insertEntry (key : String) (value : β) : List (String × β) → List (String × β)
  | [] => [(key, value)]
  | (k, v) :: rest =>
    if key < k then (key, value) :: (k, v) :: rest
    else if key = k then (key, value) :: rest
    else (k, v) :: insertEntry key value rest

/-- The value of the first entry with this key. -/
def lookupEntry (key : String) : List (String × β) → Option β
  | [] => none
  | (k, v) :: rest => if key = k then some v else lookupEntry key rest

theorem mem_insertEntry {key : String} {value : β} {l : List (String × β)} {e : String × β}
    (h : e ∈ insertEntry key value l) : e = (key, value) ∨ e ∈ l := by
  induction l with
  | nil => simpa [insertEntry] using h
  | cons hd tl ih =>
    obtain ⟨k, v⟩ := hd
    unfold insertEntry at h
    split at h
    · simpa using h
    · split at h
      · cases List.mem_cons.1 h with
        | inl e => exact .inl e
        | inr m => exact .inr (List.mem_cons_of_mem _ m)
      · cases List.mem_cons.1 h with
        | inl e => exact .inr (by simp [e])
        | inr m => exact (ih m).imp_right (List.mem_cons_of_mem _)

theorem pairwise_insertEntry (key : String) (value : β) {l : List (String × β)}
    (h : l.Pairwise (fun a b => a.1 < b.1)) :
    (insertEntry key value l).Pairwise (fun a b => a.1 < b.1) := by
  induction l with
  | nil => simp [insertEntry]
  | cons hd tl ih =>
    obtain ⟨k, v⟩ := hd
    have ⟨hhd, htl⟩ := List.pairwise_cons.1 h
    unfold insertEntry
    split
    · rename_i hlt
      refine List.pairwise_cons.2 ⟨fun e he => ?_, h⟩
      cases List.mem_cons.1 he with
      | inl eq => simpa [eq] using hlt
      | inr m => exact String.lt_trans hlt (hhd e m)
    · split
      · rename_i heq
        exact List.pairwise_cons.2 ⟨fun e he => heq ▸ hhd e he, htl⟩
      · rename_i hge hne
        refine List.pairwise_cons.2 ⟨fun e he => ?_, ih htl⟩
        cases mem_insertEntry he with
        | inl eq =>
          have : k ≤ key := String.not_lt.1 hge
          rw [eq]
          exact Std.lt_of_le_of_ne this (Ne.symm hne)
        | inr m => exact hhd e m

theorem lookupEntry_insertEntry_self (key : String) (value : β) (l : List (String × β)) :
    lookupEntry key (insertEntry key value l) = some value := by
  induction l with
  | nil => simp [insertEntry, lookupEntry]
  | cons hd tl ih =>
    obtain ⟨k, v⟩ := hd
    unfold insertEntry
    split
    · simp [lookupEntry]
    · split
      · simp [lookupEntry]
      · rename_i hne
        simp [lookupEntry, hne, ih]

theorem lookupEntry_insertEntry_of_ne {key other : String} (h : other ≠ key) (value : β)
    (l : List (String × β)) :
    lookupEntry other (insertEntry key value l) = lookupEntry other l := by
  induction l with
  | nil => simp [insertEntry, lookupEntry, h]
  | cons hd tl ih =>
    obtain ⟨k, v⟩ := hd
    unfold insertEntry
    split
    · simp [lookupEntry, h]
    · split
      · rename_i heq
        simp [lookupEntry, h, ← heq]
      · simp [lookupEntry, ih]

theorem lookupEntry_eq_none_of_lt {key : String} {l : List (String × β)}
    (h : ∀ e ∈ l, key < e.1) : lookupEntry key l = none := by
  induction l with
  | nil => rfl
  | cons hd tl ih =>
    have hne : key ≠ hd.1 := fun e => String.lt_irrefl _ (e ▸ h hd List.mem_cons_self)
    simp [lookupEntry, hne, ih fun e he => h e (List.mem_cons_of_mem _ he)]

/-! ## (2) Dictionaries -/

/-- The dictionary without entries. -/
def empty : Dictionary β := ⟨[], .nil⟩

instance : Inhabited (Dictionary β) := ⟨empty⟩

/-- **The dictionary with `key` set to `value`**, replacing any earlier value. -/
def insert (d : Dictionary β) (key : String) (value : β) : Dictionary β :=
  ⟨insertEntry key value d.entries, pairwise_insertEntry key value d.increasing⟩

/-- The value under a key. -/
def get? (d : Dictionary β) (key : String) : Option β := lookupEntry key d.entries

/-- Whether the key has a value. -/
def contains (d : Dictionary β) (key : String) : Bool := (d.get? key).isSome

/-- The dictionary with `key` set to `value` unless it has a value already. -/
def withDefault (d : Dictionary β) (key : String) (value : β) : Dictionary β :=
  if d.contains key then d else d.insert key value

/-- The keys, in increasing order. -/
def keys (d : Dictionary β) : List String := d.entries.map (·.1)

/-- The number of entries. -/
def size (d : Dictionary β) : Nat := d.entries.length

/-- Whether there is no entry. -/
def isEmpty (d : Dictionary β) : Bool := d.entries.isEmpty

/-- The dictionary of a list of entries, of which the last with a key counts. -/
def ofList (l : List (String × β)) : Dictionary β :=
  l.foldl (fun d e => d.insert e.1 e.2) empty

@[simp] theorem get?_empty (key : String) : (empty : Dictionary β).get? key = none := rfl

/-- **Reading after writing.** -/
theorem get?_insert (d : Dictionary β) (key other : String) (value : β) :
    (d.insert key value).get? other = if other = key then some value else d.get? other := by
  by_cases h : other = key
  · rw [if_pos h, h]; exact lookupEntry_insertEntry_self key value d.entries
  · rw [if_neg h]; exact lookupEntry_insertEntry_of_ne h value d.entries

/-- **A dictionary is determined by what its keys look up to.** -/
theorem ext_get? {a b : Dictionary β} (h : ∀ key, a.get? key = b.get? key) : a = b := by
  apply ext_entries
  obtain ⟨l, hl⟩ := a
  obtain ⟨r, hr⟩ := b
  change ∀ key, lookupEntry key l = lookupEntry key r at h
  change l = r
  induction l generalizing r with
  | nil =>
    cases r with
    | nil => rfl
    | cons hd tl => exact absurd (h hd.1) (by simp [lookupEntry])
  | cons x xs ih =>
    cases r with
    | nil => exact absurd (h x.1) (by simp [lookupEntry])
    | cons y ys =>
      have ⟨hx, hxs⟩ := List.pairwise_cons.1 hl
      have ⟨hy, hys⟩ := List.pairwise_cons.1 hr
      have key_eq : x.1 = y.1 := by
        by_cases hlt : x.1 < y.1
        · have h1 := h x.1
          rw [lookupEntry_eq_none_of_lt (l := y :: ys)] at h1
          · simp [lookupEntry] at h1
          · intro e he
            cases List.mem_cons.1 he with
            | inl eq => exact eq ▸ hlt
            | inr m => exact String.lt_trans hlt (hy e m)
        · by_cases heq : x.1 = y.1
          · exact heq
          · have hgt : y.1 < x.1 := Std.lt_of_le_of_ne (String.not_lt.1 hlt) (Ne.symm heq)
            have h1 := h y.1
            rw [lookupEntry_eq_none_of_lt (l := x :: xs)] at h1
            · simp [lookupEntry] at h1
            · intro e he
              cases List.mem_cons.1 he with
              | inl eq => exact eq ▸ hgt
              | inr m => exact String.lt_trans hgt (hx e m)
      have value_eq : x.2 = y.2 := by
        have h1 := h x.1
        simpa [lookupEntry, ← key_eq] using h1
      have rest_eq : xs = ys := by
        refine ih hxs ys hys fun key => ?_
        by_cases hk : key = x.1
        · rw [hk, lookupEntry_eq_none_of_lt hx,
            lookupEntry_eq_none_of_lt (fun e he => key_eq ▸ hy e he)]
        · have h1 := h key
          have hk' : key ≠ y.1 := key_eq ▸ hk
          simpa [lookupEntry, hk, hk'] using h1
      obtain ⟨xk, xv⟩ := x
      obtain ⟨yk, yv⟩ := y
      cases key_eq; cases value_eq; cases rest_eq
      rfl

/-- A value that is found stands under its key. -/
theorem mem_of_get? {d : Dictionary β} {key : String} {value : β} (h : d.get? key = some value) :
    (key, value) ∈ d.entries := by
  obtain ⟨l, hl⟩ := d
  change lookupEntry key l = some value at h
  change (key, value) ∈ l
  clear hl
  induction l with
  | nil => cases h
  | cons e rest ih =>
    rw [lookupEntry] at h
    split at h
    · rename_i hkey
      cases h
      exact List.mem_cons.2 (.inl (by rw [hkey]))
    · exact List.mem_cons_of_mem _ (ih h)

/-- A value set as a default adds at most its own entry. -/
theorem mem_of_mem_withDefault {d : Dictionary β} {key : String} {value : β} {e : String × β}
    (h : e ∈ (d.withDefault key value).entries) : e = (key, value) ∨ e ∈ d.entries := by
  unfold withDefault at h
  split at h
  · exact .inr h
  · exact mem_insertEntry h

/-! ## (3) Dictionaries of lists -/

/-- An entry whose key is beyond all others goes to the end. -/
theorem insertEntry_of_lt {key : String} (value : β) {l : List (String × β)}
    (h : ∀ e ∈ l, e.1 < key) : insertEntry key value l = l ++ [(key, value)] := by
  induction l with
  | nil => rfl
  | cons hd tl ih =>
    have hlt : hd.1 < key := h hd List.mem_cons_self
    have hnot : ¬key < hd.1 := fun hgt => String.lt_irrefl _ (String.lt_trans hlt hgt)
    have hne : key ≠ hd.1 := fun heq => String.lt_irrefl key (by rwa [← heq] at hlt)
    rw [insertEntry, if_neg hnot, if_neg hne, ih fun e he => h e (List.mem_cons_of_mem _ he)]
    rfl

/-- **The entries of a dictionary give it back.** -/
theorem ofList_entries (d : Dictionary β) : ofList d.entries = d := by
  -- entries that come in order are appended one after the other
  have hfold : ∀ (l : List (String × β)) (a : Dictionary β),
      (a.entries ++ l).Pairwise (fun x y => x.1 < y.1) →
        (l.foldl (fun d e => d.insert e.1 e.2) a).entries = a.entries ++ l := by
    intro l
    induction l with
    | nil => simp
    | cons e rest ih =>
      intro a h
      have hlt : ∀ x ∈ a.entries, x.1 < e.1 := fun x hx =>
        (List.pairwise_append.1 h).2.2 x hx e List.mem_cons_self
      have happ : (a.insert e.1 e.2).entries = a.entries ++ [e] := insertEntry_of_lt e.2 hlt
      rw [List.foldl_cons, ih, happ, List.append_assoc]
      · rfl
      · rw [happ, List.append_assoc]
        exact h
  exact ext_entries (hfold d.entries empty d.increasing)

/-- Every entry comes from the list. -/
theorem mem_of_mem_ofList {l : List (String × β)} {e : String × β}
    (h : e ∈ (ofList l).entries) : e ∈ l := by
  have hfold : ∀ (l : List (String × β)) (a : Dictionary β),
      e ∈ (l.foldl (fun d x => d.insert x.1 x.2) a).entries → e ∈ a.entries ∨ e ∈ l := by
    intro l
    induction l with
    | nil => exact fun a ha => .inl ha
    | cons x rest ih =>
      intro a ha
      rcases ih (a.insert x.1 x.2) ha with hins | hrest
      · rcases mem_insertEntry hins with heq | hold
        · exact .inr (by simp [heq])
        · exact .inl hold
      · exact .inr (List.mem_cons_of_mem _ hrest)
  rcases hfold l empty h with hnil | hl
  · cases hnil
  · exact hl

/-- A list with entries gives a dictionary with entries. -/
theorem ofList_ne_nil {l : List (String × β)} (h : l ≠ []) : (ofList l).entries ≠ [] := by
  rcases List.eq_nil_or_concat l with rfl | ⟨front, e, rfl⟩
  · exact absurd rfl h
  · rw [List.concat_eq_append, ofList, List.foldl_append]
    -- the last entry is there, whatever stands before it
    intro hnil
    have hget := lookupEntry_insertEntry_self e.1 e.2 (front.foldl (fun d x => d.insert x.1 x.2)
      empty).entries
    have hins : insertEntry e.1 e.2 (front.foldl (fun d x => d.insert x.1 x.2) empty).entries = [] :=
      hnil
    rw [hins] at hget
    cases hget

end Dictionary

end MediaTransform
