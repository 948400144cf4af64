import Mathlib.Data.List.Nodup
import MediaTransform.Json.Fields

/-! # Records as relations between names and values

* **`Json.Gives`** — a record gives a value for a name: as a field of an object, or as the item of
  an array at the place of the name.
* **`Json.IsRecord`** — every name has at most one value, and there is nothing that has no name.
* **`Json.record?_of_isRecord`**, **`record?_of_not_isRecord`** — the reader of records answers
  exactly on these, with the value of each name; `field?_eq_some_iff` says which value this is. -/

namespace MediaTransform

namespace Json

variable {names : List String} {name : String} {fields : List (StringText × Json)} {j v : Json}

/-! ## (1) Names and values -/

/-- **A record gives a value for a name.** -/
inductive Gives (names : List String) : Json → String → Json → Prop where
  | field {fields : List (StringText × Json)} {name : String} {v : Json} :
      (some name, v) ∈ fields → Gives names (.object fields) name v
  | item {items : List Json} {i : Nat} {name : String} {v : Json} :
      names[i]? = some name → items[i]? = some v → Gives names (.array items) name v

/-- **A record**: an object whose keys are texts, the known ones at most once each and the others in
any number, or an array with no more items than there are names. -/
def IsRecord (names : List String) : Json → Prop
  | .object fields => (∀ f ∈ fields, f.1.isSome = true) ∧
      ∀ name ∈ names, (fields.map (·.1)).count (some name) ≤ 1
  | .array items => items.length ≤ names.length
  | _ => False

/-- The value that a record gives for a name. -/
def field? (names : List String) : Json → String → Option Json
  | .object fields, name => (valuesOf name fields).head?
  | .array items, name => items[names.idxOf name]?
  | _, _ => none

/-! ## (2) Fields of an object -/

theorem mem_valuesOf : v ∈ valuesOf name fields ↔ (some name, v) ∈ fields := by
  simp [valuesOf]

theorem length_valuesOf (name : String) (fields : List (StringText × Json)) :
    (valuesOf name fields).length = (fields.map (·.1)).count (some name) := by
  rw [valuesOf, List.length_map, List.count, List.countP_map, List.countP_eq_length_filter]
  rfl

/-- Of a name with at most one value, the first value is the only one. -/
theorem head?_valuesOf_eq_some_iff (h : (fields.map (·.1)).count (some name) ≤ 1) :
    (valuesOf name fields).head? = some v ↔ (some name, v) ∈ fields := by
  rw [← length_valuesOf] at h
  rw [← mem_valuesOf]
  rcases hvalues : valuesOf name fields with - | ⟨w, - | ⟨w', rest⟩⟩
  · simp
  · simp [eq_comm]
  · rw [hvalues] at h
    simp at h

/-! ## (3) The reader of records -/

/-- **The value of a name is the one that the record gives.** -/
theorem field?_eq_some_iff (hnames : names.Nodup) (h : j.IsRecord names) (hname : name ∈ names) :
    j.field? names name = some v ↔ j.Gives names name v := by
  cases j with
  | object fields =>
    rw [field?, head?_valuesOf_eq_some_iff (h.2 name hname)]
    exact ⟨.field, fun hgives => by cases hgives with | field hmem => exact hmem⟩
  | array items =>
    refine ⟨fun hitem => ?_, fun hgives => ?_⟩
    · exact .item (List.getElem?_idxOf hname) hitem
    · cases hgives with
      | @item _ i _ _ hat hitem =>
        obtain ⟨hi, rfl⟩ := List.getElem?_eq_some_iff.1 hat
        rw [field?, List.Nodup.idxOf_getElem hnames, hitem]
  | null => cases h
  | bool => cases h
  | number => cases h
  | string => cases h

/-- Items take the first names, and the other names have no value. -/
theorem map_field?_array (hnames : names.Nodup) {items : List Json}
    (h : items.length ≤ names.length) :
    names.map (field? names (.array items))
      = items.map some ++ List.replicate (names.length - items.length) none := by
  refine List.ext_getElem (by simp [h]) fun i hi hi' => ?_
  rw [List.getElem_map, field?, List.Nodup.idxOf_getElem hnames]
  rcases Nat.lt_or_ge i items.length with hlt | hge
  · rw [List.getElem_append_left (by simpa using hlt), List.getElem_map, List.getElem?_eq_getElem]
  · rw [List.getElem_append_right (by simpa using hge), List.getElem_replicate,
      List.getElem?_eq_none hge]

/-- **A record is read with the value of each name.** -/
theorem record?_of_isRecord (hnames : names.Nodup) (h : j.IsRecord names) :
    j.record? names = some (names.map (j.field? names)) := by
  cases j with
  | object fields =>
    have hcond : keysHaveText fields ∧ names.all (fun n => (valuesOf n fields).length ≤ 1) := by
      simpa [keysHaveText, IsRecord, length_valuesOf] using h
    exact if_pos hcond
  | array items =>
    rw [map_field?_array hnames h]
    exact if_pos h
  | null => cases h
  | bool => cases h
  | number => cases h
  | string => cases h

/-- Nothing else is read. -/
theorem record?_of_not_isRecord (h : ¬j.IsRecord names) : j.record? names = none := by
  cases j with
  | object fields =>
    have hcond : ¬(keysHaveText fields ∧ names.all (fun n => (valuesOf n fields).length ≤ 1)) := by
      simpa [keysHaveText, IsRecord, length_valuesOf] using h
    exact if_neg hcond
  | array items => exact if_neg h
  | null => rfl
  | bool => rfl
  | number => rfl
  | string => rfl

end Json

end MediaTransform
