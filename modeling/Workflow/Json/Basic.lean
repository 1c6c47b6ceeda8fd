import Workflow.Number.Basic

/-! JSON values. The members of an object are in increasing order of their keys. -/
namespace Workflow

inductive Json where
  | null
  | bool (value : Bool)
  | num (value : Number)
  | str (value : String)
  | arr (items : List Json)
  | obj (fields : List (String × Json))
  deriving Repr, Inhabited

/-- The members of an object, also a set of named values on its own. -/
abbrev Fields := List (String × Json)

namespace Fields

def get? : Fields → String → Option Json
  | [], _ => none
  | (k, v) :: rest, key => if k = key then some v else get? rest key

def contains (fields : Fields) (key : String) : Bool := (fields.get? key).isSome

/-- The members with `key` bound to `value`. -/
def insert : Fields → String → Json → Fields
  | [], key, value => [(key, value)]
  | (k, v) :: rest, key, value =>
    if key < k then (key, value) :: (k, v) :: rest
    else if key = k then (key, value) :: rest
    else (k, v) :: insert rest key value

def erase (fields : Fields) (key : String) : Fields := fields.filter fun (k, _) => k != key

/-- Members from a list of pairs, a later pair replacing an earlier one of its key. -/
def ofList (pairs : List (String × Json)) : Fields :=
  pairs.foldl (fun fields (k, v) => fields.insert k v) []

/-- The members of both, those of `patch` replacing those of `fields`. -/
def merge (fields patch : Fields) : Fields :=
  patch.foldl (fun fields (k, v) => fields.insert k v) fields

/-- The members with one of `keys`. -/
def restrict (fields : Fields) (keys : List String) : Fields :=
  fields.filter fun (k, _) => keys.contains k

end Fields

namespace Json

/-- An object of the given pairs. -/
def ofPairs (pairs : List (String × Json)) : Json := .obj (Fields.ofList pairs)

def ofNat (n : Nat) : Json := .num (.int n)

/-- The value, or null when there is none. -/
def ofOption : Option Json → Json
  | none => .null
  | some v => v

def ofStrings (ss : List String) : Json := .arr (ss.map .str)

def isNull : Json → Bool
  | .null => true
  | _ => false

mutual
/-- Equality of values: numbers by kind and value. -/
def same : Json → Json → Bool
  | .null, .null => true
  | .bool a, .bool b => a == b
  | .num a, .num b => a.same b
  | .str a, .str b => a == b
  | .arr a, .arr b => sameItems a b
  | .obj a, .obj b => sameFields a b
  | _, _ => false
def sameItems : List Json → List Json → Bool
  | [], [] => true
  | a :: as, b :: bs => a.same b && sameItems as bs
  | _, _ => false
def sameFields : List (String × Json) → List (String × Json) → Bool
  | [], [] => true
  | (k, a) :: as, (l, b) :: bs => k == l && a.same b && sameFields as bs
  | _, _ => false
end

mutual
def decideEq : (a b : Json) → Decidable (a = b)
  | .null, .null => .isTrue rfl
  | .bool a, .bool b => if h : a = b then .isTrue (by rw [h]) else .isFalse (by simp [h])
  | .num a, .num b => if h : a = b then .isTrue (by rw [h]) else .isFalse (by simp [h])
  | .str a, .str b => if h : a = b then .isTrue (by rw [h]) else .isFalse (by simp [h])
  | .arr a, .arr b => match decideEqItems a b with
    | .isTrue h => .isTrue (by rw [h])
    | .isFalse h => .isFalse (by simp [h])
  | .obj a, .obj b => match decideEqFields a b with
    | .isTrue h => .isTrue (by rw [h])
    | .isFalse h => .isFalse (by simp [h])
  | .null, .bool _ | .null, .num _ | .null, .str _ | .null, .arr _ | .null, .obj _
  | .bool _, .null | .bool _, .num _ | .bool _, .str _ | .bool _, .arr _ | .bool _, .obj _
  | .num _, .null | .num _, .bool _ | .num _, .str _ | .num _, .arr _ | .num _, .obj _
  | .str _, .null | .str _, .bool _ | .str _, .num _ | .str _, .arr _ | .str _, .obj _
  | .arr _, .null | .arr _, .bool _ | .arr _, .num _ | .arr _, .str _ | .arr _, .obj _
  | .obj _, .null | .obj _, .bool _ | .obj _, .num _ | .obj _, .str _ | .obj _, .arr _ =>
    .isFalse (by simp)
def decideEqItems : (a b : List Json) → Decidable (a = b)
  | [], [] => .isTrue rfl
  | [], _ :: _ | _ :: _, [] => .isFalse (by simp)
  | a :: as, b :: bs => match decideEq a b, decideEqItems as bs with
    | .isTrue h, .isTrue hs => .isTrue (by rw [h, hs])
    | .isFalse h, _ => .isFalse (by simp [h])
    | _, .isFalse h => .isFalse (by simp [h])
def decideEqFields : (a b : List (String × Json)) → Decidable (a = b)
  | [], [] => .isTrue rfl
  | [], _ :: _ | _ :: _, [] => .isFalse (by simp)
  | (k, a) :: as, (l, b) :: bs =>
    if hk : k = l then
      match decideEq a b, decideEqFields as bs with
      | .isTrue h, .isTrue hs => .isTrue (by rw [hk, h, hs])
      | .isFalse h, _ => .isFalse (by simp [h])
      | _, .isFalse h => .isFalse (by simp [h])
    else .isFalse (by simp [hk])
end

instance : DecidableEq Json := decideEq

end Json
end Workflow
