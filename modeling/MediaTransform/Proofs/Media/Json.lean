import MediaTransform.Media.Json
import MediaTransform.Proofs.Json.Numbers
import MediaTransform.Proofs.Json.RoundTrip

/-! # The transformation model read back from JSON

* **`Json.RoundTrips`** — the text of a value is read as that value, and what is read from it is
  written as the same text.
* **`Json.Readable`** — finite numbers whose spelling is read as the same number. The reader scales
  a rounded integer by a rounded power of ten, so that this is no matter of course;
  `readable_of_short` has it for numbers with short spellings (`Json.ShortlySpelled`).
* **`Value.ofJson?_toJson`**, and so for parameters, specs and chains — reading undoes writing where
  all numbers are readable.
* **`model_roundTrips`** — values, parameters, specs, chains, assets and domains round-trip, with
  parameters in strictly increasing key order. -/

namespace MediaTransform

/-! ## (1) Texts that are read back -/

namespace Json

/-- **What JSON keeps**: the text of `a` is read as `a`, and whatever is read from it is written as
the same text. -/
structure RoundTrips {α : Type} (toJson : α → Json) (ofJson? : Json → Option α) (a : α) : Prop where
  reads : (parse? (toJson a).compact).bind ofJson? = some a
  stable : ∀ b, (parse? (toJson a).compact).bind ofJson? = some b →
    (toJson b).compact = (toJson a).compact

/-- Where the document can be written, reading it back is a matter of documents. -/
theorem roundTrips_of_writable {α : Type} {toJson : α → Json} {ofJson? : Json → Option α} {a : α}
    (hwrite : (toJson a).Writable) (hread : ofJson? (toJson a) = some a) :
    RoundTrips toJson ofJson? a := by
  have hreads : (parse? (toJson a).compact).bind ofJson? = some a := by
    rw [parse?_compact hwrite]
    exact hread
  refine ⟨hreads, fun b hb => ?_⟩
  rw [hreads] at hb
  cases hb
  rfl

/-- An object can be written if the values of its fields can. -/
theorem writable_ofFields {fields : List (String × Json)} (h : ∀ f ∈ fields, f.2.Writable) :
    (ofFields fields).Writable := by
  show WritableFields _
  induction fields with
  | nil => trivial
  | cons f fields ih =>
    exact ⟨h f List.mem_cons_self, ih fun g hg => h g (List.mem_cons_of_mem _ hg)⟩

/-- An array can be written if its items can. -/
theorem writable_array {items : List Json} (h : ∀ item ∈ items, item.Writable) :
    (Json.array items).Writable := by
  show WritableItems _
  induction items with
  | nil => trivial
  | cons item items ih =>
    exact ⟨h item List.mem_cons_self, ih fun j hj => h j (List.mem_cons_of_mem _ hj)⟩

/-- A list is read back item by item. -/
theorem mapM_map_of_inverse {α β : Type} {write : α → β} {read : β → Option α} {l : List α}
    (h : ∀ a ∈ l, read (write a) = some a) : (l.map write).mapM read = some l := by
  induction l with
  | nil => rfl
  | cons a l ih =>
    rw [List.map_cons, List.mapM_cons, h a List.mem_cons_self,
      ih fun b hb => h b (List.mem_cons_of_mem _ hb)]
    rfl

/-- **An object with strictly increasing keys.** -/
def KeysIncrease (j : Json) : Prop :=
  ∃ fields, j = ofFields fields ∧ fields.Pairwise fun a b => a.1 < b.1

/-! ## (2) Numbers -/

/-- The spelling of a number; infinities and not-a-number have none. -/
def spelling? (x : Number) : Option NumberText :=
  match ofNumber x with
  | .number n => some n
  | _ => none

/-- **Finite numbers whose spelling is read as the same number.** -/
def Readable (numbers : List Number) : Prop :=
  ∀ x ∈ numbers, x.isFinite = true ∧ ∀ n ∈ spelling? x, n.toNumber? = some x

instance (numbers : List Number) : Decidable (Readable numbers) :=
  inferInstanceAs (Decidable (∀ x ∈ numbers, _ ∧ ∀ n ∈ spelling? x, _))

theorem Readable.of_subset {part all : List Number} (h : Readable all) (hsub : part ⊆ all) :
    Readable part := fun x hx => h x (hsub hx)

/-- A finite number is a JSON number. -/
theorem ofNumber_of_isFinite {x : Number} (h : x.isFinite = true) :
    ∃ n, ofNumber x = .number n ∧ spelling? x = some n := by
  have hnumber : ∃ n, ofNumber x = .number n := by
    cases x with
    | nan => cases h
    | infinite s => cases h
    | finite s m q hc =>
      rw [ofNumber]
      split
      · exact ⟨_, rfl⟩
      · exact ⟨_, rfl⟩
  obtain ⟨n, hn⟩ := hnumber
  exact ⟨n, hn, by rw [spelling?, hn]⟩

/-- **Finite numbers with short spellings.** -/
def ShortlySpelled (numbers : List Number) : Prop :=
  ∀ x ∈ numbers, x.isFinite = true ∧ ∀ n ∈ spelling? x, n.Short

/-- **Numbers with short spellings are readable.** -/
theorem readable_of_short {numbers : List Number} (h : ShortlySpelled numbers) :
    Readable numbers := by
  refine fun x hx => ⟨(h x hx).1, fun n hn => ?_⟩
  obtain ⟨n', hnumber, hspell⟩ := ofNumber_of_isFinite (h x hx).1
  cases hspell.symm.trans hn
  exact toNumber?_of_ofNumber hnumber ((h x hx).2 n hn)

theorem writable_ofNumber (x : Number) : (ofNumber x).Writable := by
  by_cases h : x.isFinite = true
  · obtain ⟨n, hn, -⟩ := ofNumber_of_isFinite h
    rw [hn]
    exact wellFormed_of_ofNumber hn
  · cases x with
    | nan => trivial
    | infinite s => trivial
    | finite s m q hc => exact absurd rfl h

end Json

open Json

/-! ## (3) Values and parameters -/

/-- The numbers of a value. -/
def Value.numbers : Value → List Number
  | number x => [x]
  | text _ => []

theorem Value.writable_toJson (v : Value) : v.toJson.Writable := by
  cases v with
  | number x => exact writable_ofNumber x
  | text t => trivial

/-- **A value is read back as the same kind of value**: a number from a number, a text from a
string. -/
theorem Value.ofJson?_toJson {v : Value} (h : Readable v.numbers) : ofJson? v.toJson = some v := by
  cases v with
  | text t => rfl
  | number x =>
    obtain ⟨hfinite, hreads⟩ := h x (List.mem_singleton_self x)
    obtain ⟨n, hn, hspell⟩ := ofNumber_of_isFinite hfinite
    rw [toJson, hn, ofJson?, hreads n hspell]
    rfl

/-- The numbers of parameters. -/
def Params.numbers (ps : Params) : List Number := ps.entries.flatMap fun e => e.2.numbers

theorem Params.writable_toJson (ps : Params) : (toJson ps).Writable := by
  refine writable_ofFields fun f hf => ?_
  obtain ⟨e, -, rfl⟩ := List.mem_map.1 hf
  exact e.2.writable_toJson

theorem Params.ofJson?_toJson {ps : Params} (h : Readable ps.numbers) :
    ofJson? (toJson ps) = some ps := by
  have hentry : ∀ e ∈ ps.entries, entryOfField? (some e.1, e.2.toJson) = some e := by
    intro e he
    have hvalue : Readable e.2.numbers :=
      h.of_subset fun x hx => List.mem_flatMap.2 ⟨e, he, hx⟩
    rw [entryOfField?, Value.ofJson?_toJson hvalue]
  have hfields : toJson ps = .object (ps.entries.map fun e => (some e.1, e.2.toJson)) := by
    rw [toJson, ofFields, List.map_map]
    rfl
  rw [hfields, ofJson?, mapM_map_of_inverse hentry, Option.map_some, Dictionary.ofList_entries]

theorem Params.keysIncrease_toJson (ps : Params) : (toJson ps).KeysIncrease :=
  ⟨_, rfl, List.pairwise_map.2 ps.increasing⟩

/-! ## (4) Specs and chains -/

/-- The numbers of a spec. -/
def Spec.numbers (s : Spec) : List Number := s.params.numbers

theorem Spec.writable_toJson (s : Spec) : s.toJson.Writable := by
  refine writable_ofFields fun f hf => ?_
  rcases List.mem_pair.1 hf with rfl | rfl
  · trivial
  · exact s.params.writable_toJson

theorem Spec.ofJson?_toJson {s : Spec} (h : Readable s.numbers) : ofJson? s.toJson = some s := by
  have hrecord : s.toJson.record? ["type", "params"]
      = some [some (ofText s.kind), some s.params.toJson] := rfl
  have hparams : Params.ofJson? s.params.toJson = some s.params := Params.ofJson?_toJson h
  rw [ofJson?, hrecord]
  simp only [hparams]
  rfl

/-- The numbers of a chain. -/
def Chain.numbers (c : Chain) : List Number := c.flatMap Spec.numbers

theorem Chain.writable_toJson (c : Chain) : (toJson c).Writable := by
  refine writable_array fun item hitem => ?_
  obtain ⟨s, -, rfl⟩ := List.mem_map.1 hitem
  exact s.writable_toJson

theorem Chain.ofJson?_toJson {c : Chain} (h : Readable (numbers c)) :
    ofJson? (toJson c) = some c := by
  have hspec : ∀ s ∈ c, Spec.ofJson? s.toJson = some s := by
    intro s hs
    exact Spec.ofJson?_toJson (h.of_subset fun x hx => List.mem_flatMap.2 ⟨s, hs, hx⟩)
  exact mapM_map_of_inverse hspec

/-- **A spec with its parameters in key order.** -/
def Spec.InKeyOrder (j : Json) : Prop :=
  ∃ kind params, j = ofFields [("type", kind), ("params", params)] ∧ params.KeysIncrease

/-- **A chain with all parameters in key order.** -/
def Chain.InKeyOrder (j : Json) : Prop :=
  ∃ items, j = .array items ∧ ∀ item ∈ items, Spec.InKeyOrder item

theorem Spec.inKeyOrder_toJson (s : Spec) : InKeyOrder s.toJson :=
  ⟨_, _, rfl, s.params.keysIncrease_toJson⟩

theorem Chain.inKeyOrder_toJson (c : Chain) : InKeyOrder (toJson c) := by
  refine ⟨_, rfl, fun item hitem => ?_⟩
  obtain ⟨s, -, rfl⟩ := List.mem_map.1 hitem
  exact s.inKeyOrder_toJson

/-! ## (5) Assets and domains -/

theorem Asset.writable_toJson (a : Asset) : a.toJson.Writable := by
  refine writable_ofFields fun f hf => ?_
  cases List.mem_singleton.1 hf
  trivial

theorem Asset.ofJson?_toJson (a : Asset) : ofJson? a.toJson = some a := rfl

theorem Domain.ofJson?_toJson (d : Domain) : ofJson? d.toJson = some d := by
  cases d with
  | image => decide
  | video => decide

/-! ## (6) The model -/

/-- **The transformation model survives JSON**, with readable numbers and with texts of any
characters, whatever they look like. Numbers with short spellings are readable. -/
theorem model_roundTrips :
    (∀ v : Value, Readable v.numbers → RoundTrips Value.toJson Value.ofJson? v) ∧
      (∀ ps : Params, Readable ps.numbers → RoundTrips Params.toJson Params.ofJson? ps ∧
        ∃ j, parse? ps.toJson.compact = some j ∧ j.KeysIncrease) ∧
      (∀ s : Spec, Readable s.numbers → RoundTrips Spec.toJson Spec.ofJson? s ∧
        ∃ j, parse? s.toJson.compact = some j ∧ Spec.InKeyOrder j) ∧
      (∀ c : Chain, Readable (Chain.numbers c) → RoundTrips Chain.toJson Chain.ofJson? c ∧
        ∃ j, parse? (Chain.toJson c).compact = some j ∧ Chain.InKeyOrder j) ∧
      (∀ a : Asset, RoundTrips Asset.toJson Asset.ofJson? a) ∧
      (∀ d : Domain, RoundTrips Domain.toJson Domain.ofJson? d) ∧
      ∀ numbers, ShortlySpelled numbers → Readable numbers := by
  refine ⟨fun v h => ?_, fun ps h => ⟨?_, ?_⟩, fun s h => ⟨?_, ?_⟩, fun c h => ⟨?_, ?_⟩,
    fun a => ?_, fun d => ?_, fun _ => readable_of_short⟩
  · exact roundTrips_of_writable v.writable_toJson (Value.ofJson?_toJson h)
  · exact roundTrips_of_writable ps.writable_toJson (Params.ofJson?_toJson h)
  · exact ⟨_, parse?_compact ps.writable_toJson, ps.keysIncrease_toJson⟩
  · exact roundTrips_of_writable s.writable_toJson (Spec.ofJson?_toJson h)
  · exact ⟨_, parse?_compact s.writable_toJson, s.inKeyOrder_toJson⟩
  · exact roundTrips_of_writable (Chain.writable_toJson c) (Chain.ofJson?_toJson h)
  · exact ⟨_, parse?_compact (Chain.writable_toJson c), Chain.inKeyOrder_toJson c⟩
  · exact roundTrips_of_writable a.writable_toJson a.ofJson?_toJson
  · exact roundTrips_of_writable trivial d.ofJson?_toJson

/-- A chain with an empty key, a text like a number, and texts that need every kind of escape. -/
def Chain.awkward : Chain :=
  [⟨"c", Dictionary.ofList [("w", .text "200"), ("", .number (.ofNat 200)),
      ("h", .number (.ofDecimal true 125 (-33)))]⟩,
    ⟨"\"\\/\n\x08\x00\x1f😀\u2028", Dictionary.empty⟩,
    ⟨"l", Dictionary.ofList [("\"", .text "\\u0041"), ("o", .number (.ofNat 0))]⟩]

theorem model_roundTrips_awkward :
    Readable (Chain.numbers Chain.awkward) ∧
      RoundTrips Chain.toJson Chain.ofJson? Chain.awkward := by
  have hnumbers : Readable (Chain.numbers Chain.awkward) := by decide +kernel
  exact ⟨hnumbers, (model_roundTrips.2.2.2.1 Chain.awkward hnumbers).1⟩

end MediaTransform
