import MediaTransform.Proofs.Text.Cut
import MediaTransform.Proofs.Video.Filter

/-! # Filter graphs

The text of a filter graph, read as links between labels:

* **`FilterGraph.Link`** — labels that are consumed, what is done to them, and labels that are
  produced; `Link.Joins.eq_of_text` says which links are read back from their text.
* **`FilterGraph.Spells`** — the text of links with semicolons between them; `Spells.unique` says
  that there is one way to read it.
* **`FilterGraph.IsWired`** — links that leave no label over and miss none. -/

namespace MediaTransform

namespace FilterGraph

/-! ## (1) Labels -/

/-- The characters between which the parts of a graph stand. -/
def separators : List Char := ['[', ']', ';']

/-- **A plain text**: no part of a graph begins or ends in it. -/
def Plain (text : String) : Prop := ∀ c ∈ separators, c ∉ text.toList

instance (text : String) : Decidable (Plain text) :=
  List.decidableBAll (· ∉ text.toList) separators

/-- A label with its brackets. -/
def labelText (name : String) : String := "[" ++ name ++ "]"

/-- Labels, one after the other. -/
def labelTexts (names : List String) : String := String.join (names.map labelText)

@[simp] theorem plain_append {s t : String} : Plain (s ++ t) ↔ Plain s ∧ Plain t := by
  simp only [Plain, String.toList_append, List.mem_append, not_or, forall_and]

/-- Texts of filters are plain where they are harmless. -/
theorem plain_of_harmless {text : String} (h : Video.Harmless text) : Plain text := by
  have hseparators : ∀ c ∈ separators, ¬Video.IsFilterChar c :=
    List.forall_mem_cons.2 ⟨by decide, List.forall_mem_cons.2 ⟨by decide,
      List.forall_mem_singleton.2 (by decide)⟩⟩
  exact fun c hc hmem => hseparators c hc (h c hmem)

theorem toList_labelTexts_cons (name : String) (names : List String) :
    (labelTexts (name :: names)).toList
      = '[' :: (name.toList ++ ']' :: (labelTexts names).toList) := by
  simp [labelTexts, labelText]

theorem labelTexts_append (names names' : List String) :
    labelTexts (names ++ names') = labelTexts names ++ labelTexts names' := by
  rw [labelTexts, List.map_append, String.join_append]
  rfl

/-- Plain labels hold no semicolon. -/
theorem not_mem_labelTexts {names : List String} (h : ∀ name ∈ names, Plain name) :
    ';' ∉ (labelTexts names).toList := by
  induction names with
  | nil => simp [labelTexts]
  | cons name names ih =>
    obtain ⟨hname, hnames⟩ := List.forall_mem_cons.1 h
    have hsemicolon : ';' ∉ name.toList := hname _ (by decide)
    simp [toList_labelTexts_cons, hsemicolon, ih hnames]

/-- **Labels are read off the beginning of a text**, up to where no label begins. -/
theorem eq_of_labelTexts_append {names names' : List String} {rest rest' : List Char}
    (hnames : ∀ name ∈ names, Plain name) (hnames' : ∀ name ∈ names', Plain name)
    (hrest : rest.head? ≠ some '[') (hrest' : rest'.head? ≠ some '[')
    (h : (labelTexts names).toList ++ rest = (labelTexts names').toList ++ rest') :
    names = names' ∧ rest = rest' := by
  induction names generalizing names' with
  | nil =>
    cases names' with
    | nil => exact ⟨rfl, h⟩
    | cons name' names' =>
      rw [toList_labelTexts_cons] at h
      exact absurd (congrArg List.head? h) hrest
  | cons name names ih =>
    cases names' with
    | nil =>
      rw [toList_labelTexts_cons] at h
      exact absurd (congrArg List.head? h).symm hrest'
    | cons name' names' =>
      obtain ⟨hname, hnames⟩ := List.forall_mem_cons.1 hnames
      obtain ⟨hname', hnames'⟩ := List.forall_mem_cons.1 hnames'
      -- both labels end at the first closing bracket
      rw [toList_labelTexts_cons, toList_labelTexts_cons, List.cons_append, List.cons_append,
        List.append_assoc, List.append_assoc, List.cons.injEq] at h
      have hsplit := congrArg (Text.splitFirst ']') h.2
      rw [List.cons_append, List.cons_append, Text.splitFirst_append (hname _ (by decide)),
        Text.splitFirst_append (hname' _ (by decide)), Option.some.injEq, Prod.mk.injEq] at hsplit
      obtain ⟨rfl, hrests⟩ := ih hnames hnames' hsplit.2
      exact ⟨by rw [String.toList_injective hsplit.1], hrests⟩

/-! ## (2) Links -/

/-- **A link of a graph**: the labels that it consumes, what is done to them, and the labels that it
produces. -/
@[ext] structure Link where
  consumed : List String
  work : String
  produced : List String
  deriving DecidableEq

namespace Link

/-- The text of a link. -/
def text (l : Link) : String := labelTexts l.consumed ++ l.work ++ labelTexts l.produced

/-- **A link joins labels to labels**: there are some on either side, and all its parts are plain. -/
structure Joins (l : Link) : Prop where
  consumes : l.consumed ≠ []
  produces : l.produced ≠ []
  consumed : ∀ name ∈ l.consumed, Plain name
  work : Plain l.work
  produced : ∀ name ∈ l.produced, Plain name

/-- **The sides of a link are told apart** by what stands between them, or by there being one label
on each. -/
def IsDetermined (l : Link) : Prop :=
  l.work ≠ "" ∨ l.consumed.length = 1 ∧ l.produced.length = 1

variable {l l' : Link}

theorem Joins.not_mem_text (h : l.Joins) : ';' ∉ l.text.toList := by
  have hwork : ';' ∉ l.work.toList := h.work _ (by decide)
  simp [text, not_mem_labelTexts h.consumed, not_mem_labelTexts h.produced, hwork]

/-- No label begins with what is done. -/
theorem head?_work_append (hplain : Plain l.work) (hwork : l.work ≠ "") (rest : List Char) :
    (l.work.toList ++ rest).head? ≠ some '[' := by
  have hnil : l.work.toList ≠ [] := fun h => hwork (String.toList_eq_nil_iff.1 h)
  rw [List.head?_append_of_ne_nil _ hnil]
  exact fun h => hplain _ (by decide) (List.mem_of_head? h)

/-- The text of a link with nothing between its sides. -/
theorem toList_text_of_empty (h : l.work = "") :
    l.text.toList = (labelTexts (l.consumed ++ l.produced)).toList ++ [] := by
  rw [text, h, String.append_empty, labelTexts_append, List.append_nil]

theorem toList_text (l : Link) :
    l.text.toList
      = (labelTexts l.consumed).toList ++ (l.work.toList ++ (labelTexts l.produced).toList) := by
  rw [text, String.toList_append, String.toList_append, List.append_assoc]

/-- **What is done ends where the first label that is produced begins.** -/
theorem eq_of_work_append {names names' : List String} (hl : Plain l.work) (hl' : Plain l'.work)
    (hne : names ≠ []) (hne' : names' ≠ []) (hnames : ∀ name ∈ names, Plain name)
    (hnames' : ∀ name ∈ names', Plain name)
    (h : l.work.toList ++ (labelTexts names).toList = l'.work.toList ++ (labelTexts names').toList) :
    l.work = l'.work ∧ names = names' := by
  obtain ⟨first, rest, rfl⟩ := List.exists_cons_of_ne_nil hne
  obtain ⟨first', rest', rfl⟩ := List.exists_cons_of_ne_nil hne'
  have hwork : l.work = l'.work := by
    have hsplit := congrArg (Text.splitFirst '[') h
    rw [toList_labelTexts_cons, toList_labelTexts_cons, Text.splitFirst_append (hl _ (by decide)),
      Text.splitFirst_append (hl' _ (by decide)), Option.some.injEq, Prod.mk.injEq] at hsplit
    exact String.toList_injective hsplit.1
  rw [hwork, List.append_cancel_left_eq] at h
  have hnil : ([] : List Char).head? ≠ some '[' := by decide
  exact ⟨hwork, (eq_of_labelTexts_append hnames hnames' hnil hnil (by rw [h])).1⟩

/-- **A link is read back from its text** where its sides are told apart. -/
theorem Joins.eq_of_text (hl : l.Joins) (hl' : l'.Joins) (hdetermined : l.IsDetermined)
    (h : l.text = l'.text) : l = l' := by
  have htext : l.text.toList = l'.text.toList := congrArg String.toList h
  have hboth {k : Link} (hk : k.Joins) : ∀ name ∈ k.consumed ++ k.produced, Plain name :=
    List.forall_mem_append.2 ⟨hk.consumed, hk.produced⟩
  have hnil : ([] : List Char).head? ≠ some '[' := by decide
  by_cases hwork : l.work = "" <;> by_cases hwork' : l'.work = ""
  · -- nothing but labels, so the first one is consumed and the second one produced
    rw [toList_text_of_empty hwork, toList_text_of_empty hwork'] at htext
    have hnames := (eq_of_labelTexts_append (hboth hl) (hboth hl') hnil hnil htext).1
    obtain ⟨hconsumed, hproduced⟩ := hdetermined.resolve_left (not_not_intro hwork)
    have hlength := congrArg List.length hnames
    have hconsumes := List.length_pos_of_ne_nil hl'.consumes
    have hproduces := List.length_pos_of_ne_nil hl'.produces
    rw [List.length_append, List.length_append] at hlength
    obtain ⟨hleft, hright⟩ := List.append_inj hnames (by omega)
    exact Link.ext hleft (hwork.trans hwork'.symm) hright
  · rw [toList_text_of_empty hwork, toList_text l'] at htext
    have hrest := (eq_of_labelTexts_append (hboth hl) hl'.consumed hnil
      (head?_work_append hl'.work hwork' _) htext).2
    exact absurd (String.toList_eq_nil_iff.1 (List.append_eq_nil_iff.1 hrest.symm).1) hwork'
  · rw [toList_text l, toList_text_of_empty hwork'] at htext
    have hrest := (eq_of_labelTexts_append hl.consumed (hboth hl')
      (head?_work_append hl.work hwork _) hnil htext).2
    exact absurd (String.toList_eq_nil_iff.1 (List.append_eq_nil_iff.1 hrest).1) hwork
  · rw [toList_text l, toList_text l'] at htext
    obtain ⟨hconsumed, hrest⟩ := eq_of_labelTexts_append hl.consumed hl'.consumed
      (head?_work_append hl.work hwork _) (head?_work_append hl'.work hwork' _) htext
    obtain ⟨hwork, hproduced⟩ := eq_of_work_append hl.work hl'.work hl.produces hl'.produces
      hl.produced hl'.produced hrest
    exact Link.ext hconsumed hwork hproduced

end Link

/-! ## (3) Graphs -/

/-- **Links spell a graph**: each of them joins labels to labels, and with semicolons between them
their texts are the graph. -/
structure Spells (links : List Link) (graph : String) : Prop where
  joins : ∀ l ∈ links, l.Joins
  cut : Text.IsCut ';' graph (links.map Link.text)

variable {links links' : List Link} {graph : String}

theorem spells_of_joins (hne : links ≠ []) (h : ∀ l ∈ links, l.Joins) :
    Spells links (";".intercalate (links.map Link.text)) where
  joins := h
  cut := by
    refine ⟨by simpa using hne, fun text htext => ?_, rfl⟩
    obtain ⟨l, hl, rfl⟩ := List.mem_map.1 htext
    exact (h l hl).not_mem_text

/-- **A graph is read in one way only** where the sides of all its links are told apart. -/
theorem Spells.unique (h : Spells links graph) (hdetermined : ∀ l ∈ links, l.IsDetermined)
    (h' : Spells links' graph) : links' = links := by
  have htexts : links.map Link.text = links'.map Link.text :=
    h.cut.eq_fields.symm.trans h'.cut.eq_fields
  have hjoins := h.joins
  have hjoins' := h'.joins
  clear h h'
  induction links generalizing links' with
  | nil => exact List.map_eq_nil_iff.1 htexts.symm
  | cons l links ih =>
    obtain ⟨l', rest, rfl, htext, hrest⟩ := List.map_eq_cons_iff.1 htexts.symm
    obtain ⟨hl, hlinks⟩ := List.forall_mem_cons.1 hjoins
    obtain ⟨hl', hlinks'⟩ := List.forall_mem_cons.1 hjoins'
    obtain ⟨hone, hall⟩ := List.forall_mem_cons.1 hdetermined
    rw [hl.eq_of_text hl' hone htext.symm, ih hall hrest.symm hlinks hlinks']

/-- The labels that links consume, in order. -/
def consumedBy (links : List Link) : List String := links.flatMap Link.consumed

/-- The labels that links produce, in order. -/
def producedBy (links : List Link) : List String := links.flatMap Link.produced

/-- **Links are wired** between the pads of inputs and the labels that are written: the pads are
consumed each once and in order, a label that is produced is produced once and consumed once, by a
link or by being written, and nothing else is consumed. -/
structure IsWired (links : List Link) (pads written : List String) : Prop where
  ordered : (consumedBy links ++ written).filter (· ∈ pads) = pads
  distinct : pads.Nodup
  produced : ∀ name ∈ producedBy links, (producedBy links).count name = 1
  consumed : ∀ name ∈ producedBy links, (consumedBy links ++ written).count name = 1
  known : ∀ name ∈ consumedBy links ++ written, name ∈ pads ∨ name ∈ producedBy links

/-- **Links are wired** where what is consumed is the pads and then the labels that are produced, in
some order. -/
theorem isWired_of_perm {pads written labels names : List String} (hdistinct : pads.Nodup)
    (hconsumed : consumedBy links ++ written = pads ++ labels)
    (hproduced : producedBy links = names) (hperm : labels.Perm names) (hnodup : names.Nodup)
    (hapart : ∀ name ∈ names, name ∉ pads) : IsWired links pads written where
  ordered := by
    have hpads : pads.filter (· ∈ pads) = pads :=
      List.filter_eq_self.2 fun name hname => decide_eq_true hname
    have hlabels : labels.filter (· ∈ pads) = [] :=
      List.filter_eq_nil_iff.2 fun name hname => by
        simpa using hapart name (hperm.mem_iff.1 hname)
    rw [hconsumed, List.filter_append, hpads, hlabels, List.append_nil]
  distinct := hdistinct
  produced name hname := by
    rw [hproduced] at hname ⊢
    exact List.count_eq_one_of_mem hnodup hname
  consumed name hname := by
    rw [hproduced] at hname
    rw [hconsumed, List.count_append, List.count_eq_zero.2 (hapart name hname), Nat.zero_add,
      hperm.count_eq]
    exact List.count_eq_one_of_mem hnodup hname
  known name hname := by
    rw [hconsumed, List.mem_append] at hname
    rw [hproduced]
    exact hname.imp_right hperm.mem_iff.1

end FilterGraph

end MediaTransform
