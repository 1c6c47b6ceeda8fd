import Workflow.Json.Basic
import Workflow.Text.Search

/-! Parts of a value that is taken as it comes: members and items, where what is missing or of
another kind has a default, and dotted paths into named values. -/
namespace Workflow

namespace Json

/-- The members of an object; other values have none. -/
def members : Json → Fields
  | obj fields => fields
  | _ => []

/-- The items of an array; other values have none. -/
def items : Json → List Json
  | arr xs => xs
  | _ => []

def has (v : Json) (key : String) : Bool := Fields.contains v.members key

/-- The member of a key, or null. -/
def field (v : Json) (key : String) : Json := ofOption (Fields.get? v.members key)

/-- The item at an index, or null. -/
def item (v : Json) (n : Nat) : Json := v.items.getD n null

def text? : Json → Option String
  | str s => some s
  | _ => none

/-- The text, or an empty one. -/
def asText (v : Json) : String := v.text?.getD ""

/-- The texts of an array. -/
def asTexts (v : Json) : List String := v.items.map asText

/-- Whether the value is true itself. -/
def asFlag : Json → Bool
  | bool b => b
  | _ => false

/-- The integer, or the given one. -/
def asInt (v : Json) (default : Int) : Int :=
  match v with
  | num (.int n) => n
  | _ => default

/-- The natural number, or the given one; integers below zero count as zero. -/
def asNat (v : Json) (default : Nat) : Nat := (v.asInt default).toNat

end Json

/-! ### Dotted paths -/

namespace Json

/-- The member or item that a path segment names. -/
def child? : Json → List Char → Option Json
  | .obj fields, segment => Fields.get? fields (String.ofList segment)
  | .arr items, segment => (Text.index? segment).bind fun i => items[i]?
  | _, _ => none

def descend? (v : Json) (segments : List (List Char)) : Option Json := segments.foldlM child? v

/-- Whether a value counts as true: everything but null, false, zero and the empty. -/
def truthy : Json → Bool
  | .null => false
  | .bool b => b
  | .num n => !n.isZero
  | .str s => !s.isEmpty
  | .arr items => !items.isEmpty
  | .obj fields => !fields.isEmpty

end Json

/-- The value at a path: of the key that equals it, or else of its first segment and then down. -/
def Fields.lookup? (state : Fields) (path : String) : Option Json :=
  match state.get? path with
  | some v => some v
  | none => match Text.splitAt '.' path.toList with
    | [] => none
    | key :: segments => (state.get? (String.ofList key)).bind fun v => v.descend? segments

end Workflow
