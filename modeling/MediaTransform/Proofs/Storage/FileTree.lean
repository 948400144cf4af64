import Mathlib.Data.List.Basic
import MediaTransform.Storage.FileTree

/-! # Written files are read back

* **`FileTree.put`** — a tree with a file at a place; everything that was there elsewhere is as
  before (`node?_put_of_ne`).
* **`FileTree.Goes`** — where one field of a path leads; a path leads along its fields
  (`follow_cons_eq_ok_iff`).
* **`FileTree.IsTarget`** — the place of a path that can be written.
* **`FileTree.read_write`** — such a path is read back as it was written. -/

namespace MediaTransform

namespace FileTree

variable {t : FileTree} {place q r : Place} {contents : Buffer} {path : String}

/-! ## (1) A file at a place -/

/-- **The tree with a file at a place.** -/
def put (t : FileTree) (place : Place) (contents : Buffer) : FileTree :=
  { t with files := (place, contents) :: t.files.filter (·.1 != place) }

/-- The other files are as before. -/
theorem lookup_put_of_ne (h : q ≠ place) (t : FileTree) (contents : Buffer) :
    (t.put place contents).files.lookup q = t.files.lookup q := by
  have hfilter : (t.files.filter (·.1 != place)).lookup q = t.files.lookup q := by
    induction t.files with
    | nil => rfl
    | cons e files ih =>
      obtain ⟨k, v⟩ := e
      by_cases hk : k = place
      · have hqk : (q == k) = false := beq_eq_false_iff_ne.2 (hk ▸ h)
        rw [List.filter_cons_of_neg (by simp [hk]), ih, List.lookup_cons, hqk]
      · rw [List.filter_cons_of_pos (by simp [hk]), List.lookup_cons, List.lookup_cons, ih]
  have hq : (q == place) = false := beq_eq_false_iff_ne.2 h
  rw [put, List.lookup_cons, hq]
  exact hfilter

theorem node?_put_self (t : FileTree) (place : Place) (contents : Buffer) :
    (t.put place contents).node? place = some (.file contents) := by
  rw [node?, put, List.lookup_cons_self]

/-- A place above a file is still above one when a file is put somewhere. -/
theorem any_isAbove_put (h : t.files.any (isAbove q ·.1) = true) :
    (t.put place contents).files.any (isAbove q ·.1) = true := by
  obtain ⟨e, he, habove⟩ := List.any_eq_true.1 h
  refine List.any_eq_true.2 ?_
  by_cases hplace : e.1 = place
  · exact ⟨(place, contents), List.mem_cons_self, hplace ▸ habove⟩
  · exact ⟨e, List.mem_cons_of_mem _ (List.mem_filter.2 ⟨he, by simpa using hplace⟩), habove⟩

/-- **What was there elsewhere is as before.** -/
theorem node?_put_of_ne (h : q ≠ place) (hnode : (t.node? q).isSome = true) :
    (t.put place contents).node? q = t.node? q := by
  unfold node? at hnode ⊢
  rw [lookup_put_of_ne h]
  cases hfile : t.files.lookup q with
  | some found => rfl
  | none =>
    rw [hfile] at hnode
    dsimp only at hnode ⊢
    split at hnode
    · -- a directory, which is above what it was above
      rename_i hupper
      have hupper' : (t.directories.any (isAbove q) || isAbove q t.current ||
          (t.put place contents).files.any (isAbove q ·.1)) = true := by
        rcases Bool.or_eq_true_iff.1 hupper with hleft | hfiles
        · rw [hleft, Bool.true_or]
        · rw [any_isAbove_put hfiles, Bool.or_true]
      rw [if_pos hupper]
      exact if_pos hupper'
    · cases hnode

theorem isSome_node?_put (hnode : (t.node? q).isSome = true) :
    ((t.put place contents).node? q).isSome = true := by
  by_cases h : q = place
  · rw [h, node?_put_self]
    rfl
  · rwa [node?_put_of_ne h hnode]

/-- Directories stay directories, if no file is put in the place of one. -/
theorem isDirectory_put (hplace : t.isDirectory place = false) (hq : t.isDirectory q = true) :
    (t.put place contents).isDirectory q = true := by
  have hne : q ≠ place := by
    rintro rfl
    rw [hq] at hplace
    cases hplace
  have hnode : (t.node? q).isSome = true := by
    unfold isDirectory at hq
    cases hfound : t.node? q with
    | none =>
      rw [hfound] at hq
      cases hq
    | some node => rfl
  rw [isDirectory, node?_put_of_ne hne hnode]
  exact hq

/-! ## (2) Ways along a path -/

/-- **Where one field of a path leads** from a directory. -/
def Goes (t : FileTree) (place : Place) (field : String) (next : Place) : Prop :=
  t.isDirectory place = true ∧
    ((field = "" ∨ field = ".") ∧ next = place ∨
      field = ".." ∧ next = place.dropLast ∨
      (¬(field = "" ∨ field = ".") ∧ field ≠ "..") ∧ field.utf8ByteSize ≤ nameLimit ∧
        (t.node? (place ++ [field])).isSome = true ∧ next = place ++ [field])

/-- **A path leads along its fields.** -/
theorem follow_cons_eq_ok_iff {field : String} {rest : List String} :
    t.follow place (field :: rest) = .ok r ↔
      ∃ next, t.Goes place field next ∧ t.follow next rest = .ok r := by
  unfold Goes
  rw [follow]
  by_cases hdirectory : t.isDirectory place = true
  · rw [hdirectory, if_neg (by decide)]
    by_cases hnothing : field = "" ∨ field = "."
    · have hparent : field ≠ ".." := by
        rintro rfl
        exact absurd hnothing (by decide)
      simp [hnothing, hparent]
    · rw [if_neg hnothing]
      by_cases hparent : field = ".."
      · simp [hparent]
      · rw [if_neg hparent]
        by_cases hlong : nameLimit < field.utf8ByteSize
        · simp [hnothing, hparent, hlong, Nat.not_le.2 hlong]
        · rw [if_neg hlong]
          by_cases hnode : (t.node? (place ++ [field])).isSome = true
          · simp [hnothing, hparent, hnode, Nat.not_lt.1 hlong]
          · simp [hnothing, hparent, hnode]
  · simp [hdirectory]

/-- Fields one after the other. -/
theorem follow_append_eq_ok_iff {fields more : List String} :
    t.follow place (fields ++ more) = .ok r ↔
      ∃ middle, t.follow place fields = .ok middle ∧ t.follow middle more = .ok r := by
  induction fields generalizing place with
  | nil => simp [follow]
  | cons field fields ih =>
    simp only [List.cons_append, follow_cons_eq_ok_iff, ih]
    constructor
    · rintro ⟨next, hgoes, middle, hfields, hmore⟩
      exact ⟨middle, ⟨next, hgoes, hfields⟩, hmore⟩
    · rintro ⟨middle, ⟨next, hgoes, hfields⟩, hmore⟩
      exact ⟨next, hgoes, middle, hfields, hmore⟩

/-- A way is open when a file is put somewhere, unless in the place of a directory. -/
theorem Goes.put {field : String} (h : t.Goes q field r) (hplace : t.isDirectory place = false) :
    (t.put place contents).Goes q field r := by
  obtain ⟨hdirectory, hnothing | hparent | ⟨hname, hsize, hnode, hnext⟩⟩ := h
  · exact ⟨isDirectory_put hplace hdirectory, .inl hnothing⟩
  · exact ⟨isDirectory_put hplace hdirectory, .inr (.inl hparent)⟩
  · exact ⟨isDirectory_put hplace hdirectory, .inr (.inr ⟨hname, hsize, isSome_node?_put hnode,
      hnext⟩)⟩

/-- **Paths lead where they led.** -/
theorem follow_put (hplace : t.isDirectory place = false) {fields : List String}
    (h : t.follow q fields = .ok r) : (t.put place contents).follow q fields = .ok r := by
  induction fields generalizing q with
  | nil => exact h
  | cons field fields ih =>
    obtain ⟨next, hgoes, hrest⟩ := follow_cons_eq_ok_iff.1 h
    exact follow_cons_eq_ok_iff.2 ⟨next, hgoes.put hplace, ih hrest⟩

/-! ## (3) Targets -/

/-- **The place of a path that can be written**: its last field names something that is no
directory, in the directory to which the other fields lead. -/
structure IsTarget (t : FileTree) (path : String) (upper : List String) (name : String)
    (directory : Place) : Prop where
  noNul : path.toList.contains '\x00' = false
  nonempty : path ≠ ""
  short : path.utf8ByteSize ≤ pathLimit
  fields : Text.fields '/' path = upper ++ [name]
  leads : t.follow (t.base path) upper = .ok directory
  isDirectory : t.isDirectory directory = true
  named : ¬(name = "" ∨ name = ".") ∧ name ≠ ".."
  nameShort : name.utf8ByteSize ≤ nameLimit
  free : t.isDirectory (directory ++ [name]) = false

/-- Fields that end with an empty one are more than the names among them. -/
theorem length_names_lt {fields : List String} (h : fields.getLast? = some "") :
    (fields.reverse.dropWhile (· = "")).reverse.length < fields.length := by
  obtain ⟨front, rfl⟩ := List.getLast?_eq_some_iff.1 h
  have hdrop : ((front ++ [""]).reverse.dropWhile (· = "")).length ≤ front.reverse.length := by
    rw [List.reverse_append, List.reverse_singleton, List.singleton_append,
      List.dropWhile_cons_of_pos (by simp)]
    exact (List.dropWhile_suffix _).length_le
  rw [List.length_reverse, List.length_append, List.length_singleton]
  rw [List.length_reverse] at hdrop
  omega

/-- A check that goes well. -/
theorem ok_of_check {α : Type} {failing : Prop} [Decidable failing] {e : FileError}
    {rest : Except FileError α} {a : α} :
    (if failing then .error e else rest) = .ok a ↔ ¬failing ∧ rest = .ok a := by
  by_cases h : failing
  · simp [h]
  · simp [h]

/-- **A path that can be written has such a place.** -/
theorem exists_isTarget (h : t.target path = .ok place) :
    ∃ upper name directory, t.IsTarget path upper name directory ∧ place = directory ++ [name] := by
  rw [target, ok_of_check, ok_of_check, ok_of_check] at h
  obtain ⟨hnul, hne, hlong, h⟩ := h
  dsimp only at h
  split at h
  · split at h <;> cases h
  · rename_i hname
    cases hleads : t.follow (t.base path)
        ((Text.fields '/' path).reverse.dropWhile (· = "")).reverse.dropLast with
    | error e =>
      rw [hleads] at h
      cases h
    | ok directory =>
      rw [hleads] at h
      dsimp only at h
      rw [ok_of_check, ok_of_check, ok_of_check, ok_of_check] at h
      obtain ⟨hdirectory, hlength, hsize, hfree, hplace⟩ := h
      -- no field is empty at the end, so the names are all the fields
      have hnames : ((Text.fields '/' path).reverse.dropWhile (· = "")).reverse
          = Text.fields '/' path := by
        have hreverse : (Text.fields '/' path).reverse.length = (Text.fields '/' path).length :=
          List.length_reverse
        have hsuffix : (Text.fields '/' path).reverse.dropWhile (· = "")
            <:+ (Text.fields '/' path).reverse := List.dropWhile_suffix _
        rw [List.length_reverse, ← hreverse] at hlength
        rw [hsuffix.eq_of_length_le (Nat.not_lt.1 hlength), List.reverse_reverse]
      rw [hnames] at hname hleads hlength hsize hfree hplace
      rcases List.eq_nil_or_concat (Text.fields '/' path) with hnil | ⟨upper, name, hfields⟩
      · rw [hnil] at hname
        exact absurd (.inl rfl) hname
      · rw [List.concat_eq_append] at hfields
        have hempty : name ≠ "" := by
          rintro rfl
          have hlast : (Text.fields '/' path).getLast? = some "" := by
            rw [hfields, List.getLast?_concat]
          have hless := length_names_lt hlast
          rw [hnames] at hless
          exact absurd hless (Nat.lt_irrefl _)
        rw [hfields, List.getLast?_concat, Option.getD_some] at hname hsize hfree hplace
        rw [hfields, List.dropLast_concat] at hleads
        obtain ⟨hdot, hparent⟩ := not_or.1 hname
        refine ⟨upper, name, directory, ⟨?_, hne, Nat.not_lt.1 hlong, hfields, hleads, ?_,
          ⟨not_or.2 ⟨hempty, hdot⟩, hparent⟩, Nat.not_lt.1 hsize, ?_⟩, (Except.ok.inj hplace).symm⟩
        · simpa using hnul
        · simpa using hdirectory
        · simpa using hfree

/-! ## (4) Reading what was written -/

/-- **A file that is put at the place of a path is found there.** -/
theorem IsTarget.read_put {upper : List String} {name : String} {directory : Place}
    (h : t.IsTarget path upper name directory) (contents : Buffer) :
    (t.put (directory ++ [name]) contents).read path = .ok contents := by
  have hbase : (t.put (directory ++ [name]) contents).base path = t.base path := rfl
  have hleads : (t.put (directory ++ [name]) contents).follow (t.base path) upper = .ok directory :=
    follow_put h.free h.leads
  -- the last field leads to the file itself
  have hlast :
      (t.put (directory ++ [name]) contents).Goes directory name (directory ++ [name]) := by
    refine ⟨isDirectory_put h.free h.isDirectory, .inr (.inr ⟨h.named, h.nameShort, ?_, rfl⟩)⟩
    rw [node?_put_self]
    rfl
  have hfind : (t.put (directory ++ [name]) contents).find path = .ok (directory ++ [name]) := by
    rw [find, h.noNul, if_neg (by decide), if_neg h.nonempty, if_neg (Nat.not_lt.2 h.short), hbase,
      h.fields]
    exact follow_append_eq_ok_iff.2 ⟨directory, hleads,
      follow_cons_eq_ok_iff.2 ⟨_, hlast, rfl⟩⟩
  rw [read, hfind]
  dsimp only
  rw [node?_put_self]

/-- **What is written to a path is read back from it.** -/
theorem read_write (h : t.writeError? path = none) (contents : Buffer) :
    (t.write path contents).read path = .ok contents := by
  unfold writeError? at h
  cases htarget : t.target path with
  | error e =>
    rw [htarget] at h
    cases h
  | ok place =>
    obtain ⟨upper, name, directory, hisTarget, rfl⟩ := exists_isTarget htarget
    have hput : t.write path contents = t.put (directory ++ [name]) contents := by
      rw [write, htarget]
      rfl
    rw [hput]
    exact hisTarget.read_put contents

end FileTree

end MediaTransform
