import Mathlib.Data.List.Basic

/-!
# Decoded JSON values

What `json.Unmarshal` produces in an `any`, and the decodings the handlers ask of it:
`decodeString` and `decodeStrings` (`MetadataAsStruct` into a `string` or a `[]string`), and
`Claims.get` (a key of an unmarshalled JSON object, the `map[string]any` of token claims).
-/

namespace Lxd

namespace Go

/-- A decoded JSON value. Numbers carry no value: no modelled code reads one. -/
inductive Json
  | null
  | bool (b : Bool)
  | num
  | str (s : String)
  | arr (l : List Json)
  | obj (fields : List (String × Json))

namespace Json

/-- `%T` of the value, as Go prints the dynamic type of an `any`. -/
def goType : Json → String
  | .null => "<nil>"
  | .bool _ => "bool"
  | .num => "float64"
  | .str _ => "string"
  | .arr _ => "[]interface {}"
  | .obj _ => "map[string]interface {}"

/-- The JSON kind that `encoding/json` names in an `UnmarshalTypeError`. -/
def kind : Json → String
  | .null => "null"
  | .bool _ => "bool"
  | .num => "number"
  | .str _ => "string"
  | .arr _ => "array"
  | .obj _ => "object"

/-- The text of an `UnmarshalTypeError`. -/
def unmarshalError (v : Json) (goTy : String) : String :=
  "json: cannot unmarshal " ++ v.kind ++ " into Go value of type " ++ goTy

/-- Unmarshal into a Go `string`: `null` leaves the zero value. -/
def decodeString : Json → Except String String
  | .null => .ok ""
  | .str s => .ok s
  | v => .error (unmarshalError v "string")

/-- Unmarshal into a Go `[]string`: `null` leaves a nil slice. -/
def decodeStrings : Json → Except String (List String)
  | .null => .ok []
  | .arr l => l.mapM decodeString
  | v => .error (unmarshalError v "[]string")

end Json

/-- An unmarshalled JSON object, `map[string]any`; its keys are distinct, as a map's are. -/
abbrev Claims := List (String × Json)

/-- `claims[key]`, with the `ok` of the lookup as `Option`. -/
def Claims.get (c : Claims) (key : String) : Option Json := c.lookup key

end Go

end Lxd
