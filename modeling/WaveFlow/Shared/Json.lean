import Mathlib.Data.List.Basic

/-!
# JSON values

`Json` is `serde_json::Value`, with objects as lists of fields. Postgres cannot store the character
U+0000 in a text, nor in any string of a JSON document; `Storable` says that a string has none and
`Json.storable` that no string in a value has one.
-/

namespace WaveFlow

/-- A text without U+0000. -/
def Storable (s : String) : Prop := '\x00' ∉ s.toList

instance (s : String) : Decidable (Storable s) := by
  unfold Storable
  infer_instance

/-- `serde_json::Number`; a float is kept as it is written. -/
inductive Number
  | posInt (n : UInt64)
  | negInt (n : Int64)
  | float (text : String)
  deriving DecidableEq

inductive Json
  | null
  | bool (b : Bool)
  | num (n : Number)
  | str (s : String)
  | arr (items : List Json)
  | obj (fields : List (String × Json))

namespace Json

/-- `value.get(key)`: the field of an object. -/
def get (key : String) : Json → Option Json
  | .obj fields => fields.lookup key
  | _ => none

/-- `value.as_str()` -/
def asStr : Json → Option String
  | .str s => some s
  | _ => none

/-- `value.as_u64()` -/
def asU64 : Json → Option UInt64
  | .num (.posInt n) => some n
  | _ => none

mutual

/-- No string in the value, and no field name, has a U+0000. -/
def storable : Json → Bool
  | .null | .bool _ | .num _ => true
  | .str s => Storable s
  | .arr items => storableItems items
  | .obj fields => storableFields fields

def storableItems : List Json → Bool
  | [] => true
  | v :: items => storable v && storableItems items

def storableFields : List (String × Json) → Bool
  | [] => true
  | (key, v) :: fields => Storable key && storable v && storableFields fields

end

/-- The text of a field of an object, as in `json["status"]`. -/
def textAt (key : String) (v : Json) : Option String := (v.get key).bind asStr

end Json

end WaveFlow
