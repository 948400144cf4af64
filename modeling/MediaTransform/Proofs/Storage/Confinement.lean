import MediaTransform.Proofs.Text.Cut
import MediaTransform.Storage.Store

/-! # Ids lead below the root

* **`Path.IsPlainName`** — the names that a resolved id may consist of.
* **`Path.components_join`** — a row of plain names below a directory appends its components.
* **`Storage.resolve_confined`** — a resolved id is the root followed by plain names, so it leads
  strictly below wherever the root leads. -/

namespace MediaTransform

namespace Path

/-! ## (1) Components of joined texts -/

/-- **The names that stand for a file or directory of their own**: not empty, not one dot or two,
and without a slash or a backslash. -/
def IsPlainName (n : String) : Prop :=
  n ≠ "" ∧ n ≠ "." ∧ n ≠ ".." ∧ '/' ∉ n.toList ∧ '\\' ∉ n.toList

/-- A field that stands for a name is this name. -/
theorem componentOf?_eq_name_iff {field n : String} :
    componentOf? field = some (.name n) ↔ field = n ∧ n ≠ "" ∧ n ≠ "." ∧ n ≠ ".." := by
  unfold componentOf?
  by_cases hnothing : field = "" ∨ field = "."
  · rw [if_pos hnothing]
    constructor
    · intro h
      cases h
    · rintro ⟨rfl, hempty, hdot, -⟩
      exact absurd hnothing (not_or.2 ⟨hempty, hdot⟩)
  · rw [if_neg hnothing]
    by_cases hparent : field = ".."
    · rw [if_pos hparent]
      constructor
      · intro h
        cases h
      · rintro ⟨rfl, -, -, hdots⟩
        exact absurd hparent hdots
    · rw [if_neg hparent, Option.some.injEq, Component.name.injEq]
      constructor
      · rintro rfl
        exact ⟨rfl, (not_or.1 hnothing).1, (not_or.1 hnothing).2, hparent⟩
      · rintro ⟨h, -⟩
        exact h

/-- What follows the first fields stands for the same, whatever they are. -/
theorem ofFields_append {fields more : List String} (hfields : fields ≠ []) (hmore : more ≠ []) :
    ofFields (fields ++ more) = ofFields (fields ++ [""]) ++ more.filterMap componentOf? := by
  cases fields with
  | nil => exact absurd rfl hfields
  | cons first rest =>
    have hempty : componentOf? "" = none := rfl
    simp only [List.cons_append, ofFields, List.filterMap_append, List.filterMap_cons, hempty,
      List.filterMap_nil, List.append_nil, List.append_assoc]
    have hleft : (rest ++ more).isEmpty = false := by simp [hmore]
    have hright : (rest ++ [""]).isEmpty = false := by simp
    rw [hleft, hright]

/-- A slash at the end of a text changes nothing, unless it is the whole text. -/
theorem ofFields_append_empty {fields : List String} (h : fields ≠ [""]) :
    ofFields (fields ++ [""]) = ofFields fields := by
  cases fields with
  | nil => rfl
  | cons first rest =>
    have hempty : componentOf? "" = none := rfl
    simp only [List.cons_append, ofFields, List.filterMap_append, List.filterMap_cons, hempty,
      List.filterMap_nil, List.append_nil]
    by_cases hfirst : first = ""
    · have hrest : rest ≠ [] := by
        rintro rfl
        exact h (by rw [hfirst])
      simp [hfirst, hrest]
    · simp [hfirst]

/-- **A row of names**: a text whose components are names, of which there is one. -/
theorem eq_names_of_all {text : String} (hne : text ≠ "")
    (hall : (components text).all Component.isName = true) :
    ∃ names, names ≠ [] ∧ components text = names.map .name ∧
      (Text.fields '/' text).filterMap componentOf? = names.map .name ∧
      ∀ n ∈ names, n ∈ Text.fields '/' text ∧ n ≠ "" ∧ n ≠ "." ∧ n ≠ ".." := by
  have hcut := Text.isCut_fields '/' text
  rw [components] at hall
  cases hf : Text.fields '/' text with
  | nil => exact absurd hf hcut.1
  | cons first rest =>
    rw [hf] at hcut hall
    -- the first field is no empty one and no dot, as these would not be names
    have hfirst : first ≠ "" := by
      rintro rfl
      have hrest : rest ≠ [] := by
        rintro rfl
        exact hne (by simpa using hcut.2.2.symm)
      simp [ofFields, hrest, Component.isName] at hall
    have hdot : first ≠ "." := by
      rintro rfl
      simp [ofFields, Component.isName] at hall
    have hsame : components text = (first :: rest).filterMap componentOf? := by
      rw [components, hf, ofFields, if_neg hfirst, if_neg hdot, List.filterMap_cons]
      cases componentOf? first <;> rfl
    have hnames : ∀ k ∈ (first :: rest).filterMap componentOf?, ∃ n, k = .name n := by
      intro k hk
      rw [← hsame, components, hf] at hk
      have hk' := List.all_eq_true.1 hall k hk
      cases k with
      | name n => exact ⟨n, rfl⟩
      | root => cases hk'
      | here => cases hk'
      | parent => cases hk'
    -- so every component is a name, and the names come out of them one by one
    have hrow : ∀ l : List Component, (∀ k ∈ l, ∃ n, k = .name n) →
        ∃ names : List String, l = names.map .name := by
      intro l
      induction l with
      | nil => exact fun _ => ⟨[], rfl⟩
      | cons k l ih =>
        intro h
        obtain ⟨n, rfl⟩ := h k List.mem_cons_self
        obtain ⟨names, rfl⟩ := ih fun j hj => h j (List.mem_cons_of_mem _ hj)
        exact ⟨n :: names, rfl⟩
    obtain ⟨names, hmap⟩ := hrow _ hnames
    refine ⟨names, ?_, hsame.trans hmap, hmap, fun n hn => ?_⟩
    · -- the first field stands for a name, so there is one
      rintro rfl
      have hnone : componentOf? first = none := by
        rw [List.map_nil, List.filterMap_eq_nil_iff] at hmap
        exact hmap first List.mem_cons_self
      unfold componentOf? at hnone
      rw [if_neg (not_or.2 ⟨hfirst, hdot⟩)] at hnone
      split at hnone <;> cases hnone
    · have hmem : Component.name n ∈ (first :: rest).filterMap componentOf? := by
        rw [hmap]
        exact List.mem_map.2 ⟨n, hn, rfl⟩
      obtain ⟨field, hfield, hcomponent⟩ := List.mem_filterMap.1 hmem
      obtain ⟨rfl, hplain⟩ := componentOf?_eq_name_iff.1 hcomponent
      exact ⟨hfield, hplain⟩

/-- **A row of names below a directory** appends its components, however the directory is
written. -/
theorem components_join {directory relative : String} (hne : relative ≠ "")
    (hall : (components relative).all Component.isName = true) :
    components (join directory relative) = components directory ++ components relative := by
  obtain ⟨names, -, hcomponents, hfields, -⟩ := eq_names_of_all hne hall
  have hslash : String.singleton '/' = "/" := rfl
  have hsome : ∀ s, Text.fields '/' s ≠ [] := fun s => (Text.isCut_fields '/' s).1
  rw [hcomponents, ← hfields]
  unfold join
  by_cases hempty : directory = ""
  · -- nothing stands in front
    subst hempty
    rw [if_pos (.inl rfl), String.empty_append, hcomponents, hfields]
    rfl
  · by_cases hlast : directory.toList.getLast? = some '/'
    · -- the directory ends with a slash: it has one empty field more
      obtain ⟨front, hfront⟩ := List.getLast?_eq_some_iff.1 hlast
      have hdirectory : directory = String.ofList front ++ String.singleton '/' := by
        apply String.toList_injective
        simp [hfront]
      have hpath : Text.fields '/' (directory ++ relative)
          = Text.fields '/' (String.ofList front) ++ Text.fields '/' relative := by
        rw [hdirectory, Text.fields_append]
      have hself : Text.fields '/' directory = Text.fields '/' (String.ofList front) ++ [""] := by
        have happ := Text.fields_append '/' (String.ofList front) ""
        rwa [String.append_empty, ← hdirectory] at happ
      rw [if_pos (.inr hlast), components, components, hpath, hself,
        ofFields_append (hsome _) (hsome _)]
    · -- a slash comes between the two
      have hpath : Text.fields '/' (directory ++ "/" ++ relative)
          = Text.fields '/' directory ++ Text.fields '/' relative := by
        rw [← hslash, Text.fields_append]
      have hnot : Text.fields '/' directory ≠ [""] := by
        intro hfields
        have hjoin := (Text.isCut_fields '/' directory).2.2
        rw [hfields] at hjoin
        exact hempty (by simpa using hjoin.symm)
      rw [if_neg (not_or.2 ⟨hempty, hlast⟩), components, components, hpath,
        ofFields_append (hsome _) (hsome _), ofFields_append_empty hnot]

/-! ## (2) Where names lead -/

/-- Names lead down, one after the other. -/
theorem descend_names (place : List String) (names : List String) :
    descend place (names.map .name) = place ++ names := by
  induction names generalizing place with
  | nil => simp [descend]
  | cons n names ih =>
    rw [List.map_cons, descend, ih, List.append_assoc]
    rfl

/-- **Names at the end lead down from wherever the rest leads.** -/
theorem descend_append_names (place : List String) (components : List Component)
    (names : List String) :
    descend place (components ++ names.map .name) = descend place components ++ names := by
  induction components generalizing place with
  | nil =>
    rw [List.nil_append, descend_names]
    rfl
  | cons k components ih =>
    cases k with
    | root => exact ih []
    | here => exact ih place
    | parent => exact ih place.dropLast
    | name n => exact ih (place ++ [n])

end Path

namespace Storage

/-! ## (3) Resolved ids -/

/-- What a resolved id is made of. -/
theorem plain_of_resolve {root id path : String} (h : resolve root id = .ok path) :
    path = Path.join root id ∧ id ≠ "" ∧ '\\' ∉ id.toList ∧
      (Path.components id).all Path.Component.isName = true := by
  obtain ⟨hplain, hpath⟩ := (resolve_eq_ok_iff root id path).1 h
  unfold isPlain at hplain
  simp only [Bool.and_eq_true, bne_iff_ne, Bool.not_eq_true', List.contains_eq_mem,
    decide_eq_false_iff_not] at hplain
  exact ⟨hpath, hplain.1.1, hplain.1.2, hplain.2⟩

/-- **A resolved id leads strictly below the root**: its file is the root joined with the id, the
components of the id are plain names and nothing else, and wherever the root leads, the file lies
below it by these names. -/
theorem resolve_confined {root id path : String} (h : resolve root id = .ok path) :
    path = Path.join root id ∧
      ∃ names, names ≠ [] ∧ (∀ n ∈ names, Path.IsPlainName n) ∧
        Path.components id = names.map .name ∧
        Path.components path = Path.components root ++ names.map .name ∧
        ∀ place, Path.descend place (Path.components path)
          = Path.descend place (Path.components root) ++ names := by
  obtain ⟨rfl, hne, hbackslash, hall⟩ := plain_of_resolve h
  obtain ⟨names, hnames, hcomponents, -, hmem⟩ := Path.eq_names_of_all hne hall
  have hjoin := @Path.components_join root id hne hall
  rw [hcomponents] at hjoin
  refine ⟨rfl, names, hnames, fun n hn => ?_, hcomponents, hjoin, fun place => ?_⟩
  · obtain ⟨hfield, hempty, hdot, hdots⟩ := hmem n hn
    have hcut := Text.isCut_fields '/' id
    exact ⟨hempty, hdot, hdots, hcut.2.1 n hfield,
      fun hc => hbackslash (hcut.mem_of_part hfield hc)⟩
  · rw [hjoin, Path.descend_append_names]

/-- **A resolved id without a slash is one component.** -/
theorem resolve_single {root id path : String} (h : resolve root id = .ok path)
    (hslash : '/' ∉ id.toList) :
    path = Path.join root id ∧ Path.IsPlainName id ∧
      Path.components path = Path.components root ++ [.name id] := by
  obtain ⟨rfl, hne, hbackslash, hall⟩ := plain_of_resolve h
  obtain ⟨names, hnames, hcomponents, hfields, hmem⟩ := Path.eq_names_of_all hne hall
  have hjoin := @Path.components_join root id hne hall
  have hone := Text.fields_of_not_mem hslash
  rw [hone] at hfields hmem
  cases names with
  | nil => exact absurd rfl hnames
  | cons n names =>
    obtain ⟨hn, hempty, hdot, hdots⟩ := hmem n List.mem_cons_self
    obtain rfl : n = id := List.mem_singleton.1 hn
    -- one field gives one component at most
    have hrest : names = [] := by
      have hlength := congrArg List.length hfields
      have hbound := List.length_filterMap_le Path.componentOf? [n]
      rw [hlength, List.length_map, List.length_cons, List.length_singleton] at hbound
      exact List.length_eq_zero_iff.1 (by omega)
    rw [hcomponents, hrest] at hjoin
    exact ⟨rfl, ⟨hempty, hdot, hdots, hslash, hbackslash⟩, hjoin⟩

end Storage

end MediaTransform
