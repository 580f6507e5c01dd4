/-
**Decoded JSON**: what `encoding/json` puts into an `any`, and the strings in it.
-/
import Mathlib.Data.Rat.Defs

namespace FfxNexus.Json

inductive Value
  | null
  | bool (b : Bool)
  | num (q : ℚ)
  | str (s : String)
  | arr (items : List Value)
  | obj (fields : List (String × Value))

abbrev Fields : Type := List (String × Value)

def field (m : Fields) (k : String) : Option Value := (m.find? (·.1 = k)).map (·.2)

mutual

def Value.strings : Value → List String
  | .null => []
  | .bool _ => []
  | .num _ => []
  | .str s => [s]
  | .arr items => itemsStrings items
  | .obj fields => fieldsStrings fields

def itemsStrings : List Value → List String
  | [] => []
  | v :: items => v.strings ++ itemsStrings items

def fieldsStrings : List (String × Value) → List String
  | [] => []
  | (_, v) :: fields => v.strings ++ fieldsStrings fields

end

end FfxNexus.Json
