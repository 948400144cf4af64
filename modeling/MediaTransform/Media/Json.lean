import MediaTransform.Json.Fields
import MediaTransform.Json.Number
import MediaTransform.Json.Reader
import MediaTransform.Json.Writer
import MediaTransform.Url.Path

/-! # The transformation model in JSON

For values, parameters, specs, chains, assets and domains: `toJson` writes one and `ofJson?` reads
one back.

* A value is a number or a string; parameters are an object in key order.
* A spec has the fields `type` and `params`, an asset the field `public_id`.
* A domain is its name, or an object with the name as its only key and `null` under it. -/

namespace MediaTransform

namespace Value

/-- The value as JSON. -/
def toJson : Value → Json
  | number x => Json.ofNumber x
  | text t => Json.ofText t

/-- The value of a JSON number or string. -/
def ofJson? : Json → Option Value
  | .number n => n.toNumber?.map number
  | .string (some t) => some (text t)
  | _ => none

end Value

namespace Params

/-- The parameters as a JSON object, in key order. -/
def toJson (ps : Params) : Json := Json.ofFields (ps.entries.map fun e => (e.1, e.2.toJson))

/-- One parameter of an object. -/
def entryOfField? (f : Json.StringText × Json) : Option (String × Value) :=
  match f.1, Value.ofJson? f.2 with
  | some key, some value => some (key, value)
  | _, _ => none

/-- **The parameters of a JSON object**, of which the last field with a key counts. -/
def ofJson? : Json → Option Params
  | .object fields => (fields.mapM entryOfField?).map Dictionary.ofList
  | _ => none

end Params

namespace Spec

/-- The spec as JSON. -/
def toJson (s : Spec) : Json :=
  Json.ofFields [("type", Json.ofText s.kind), ("params", s.params.toJson)]

/-- **The spec of a JSON record** with both fields. -/
def ofJson? (j : Json) : Option Spec :=
  match j.record? ["type", "params"] with
  | some [some kind, some params] =>
    match kind.text?, Params.ofJson? params with
    | some kind, some params => some ⟨kind, params⟩
    | _, _ => none
  | _ => none

end Spec

namespace Chain

/-- The chain as a JSON array. -/
def toJson (c : Chain) : Json := .array (c.map Spec.toJson)

/-- The chain of a JSON array of specs. -/
def ofJson? : Json → Option Chain
  | .array items => items.mapM Spec.ofJson?
  | _ => none

end Chain

namespace Asset

/-- The asset as JSON. -/
def toJson (a : Asset) : Json := Json.ofFields [("public_id", Json.ofText a.publicId)]

/-- The asset of a JSON record. -/
def ofJson? (j : Json) : Option Asset :=
  match j.record? ["public_id"] with
  | some [some id] => id.text?.map Asset.mk
  | _ => none

end Asset

namespace Domain

/-- The domain as JSON. -/
def toJson (d : Domain) : Json := Json.ofText d.name

/-- **The domain of a JSON name**, alone or as the key of `null`. -/
def ofJson? : Json → Option Domain
  | .string (some s) => (ofName s).toOption
  | .object [(some s, .null)] => (ofName s).toOption
  | _ => none

end Domain

/-- The request as JSON. -/
def Request.toJson (r : Request) : Json :=
  Json.ofFields
    [("domain", match r.domain with
      | some d => Json.ofText d
      | none => .null),
     ("asset", r.asset.toJson),
     ("chain", Chain.toJson r.chain)]

end MediaTransform
