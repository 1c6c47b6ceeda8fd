import Workflow.Json.Access
import Workflow.Predicate.Basic

/-! Meaning of predicates. -/
namespace Workflow

namespace Json

/-- Equality in predicates: two numbers are equal when they round to the same double. -/
def looseEq : Json → Json → Bool
  | .num a, .num b => a.compare b == .eq
  | a, b => a.same b

/-- Numbers are ordered by their doubles, texts by code points; nothing else has an order. -/
def order? : Json → Json → Option Ordering
  | .num a, .num b => some (a.compare b)
  | .str a, .str b => some (compareOfLessAndEq a b)
  | _, _ => none

/-- A text contains its parts, an array its items, an object its keys. -/
def includes : Json → Json → Bool
  | .str hay, .str needle => Text.occursIn needle.toList hay.toList
  | .arr items, v => items.any (·.looseEq v)
  | .obj fields, .str key => Fields.contains fields key
  | _, _ => false

end Json

/-- Whether a comparison holds between two values. -/
def Comparison.holds (op : Comparison) (a b : Json) : Bool :=
  match op with
  | eq => a.looseEq b
  | ne => !a.looseEq b
  | gt => a.order? b == some .gt
  | ge => a.order? b == some .gt || a.order? b == some .eq
  | lt => a.order? b == some .lt
  | le => a.order? b == some .lt || a.order? b == some .eq
  | contains => a.includes b

namespace Predicate

/-- The value of a predicate; a path that leads nowhere is null. -/
def value (state : Fields) : Predicate → Json
  | literal v => v
  | path name => Json.ofOption (state.lookup? name)
  | not a => .bool !(a.value state).truthy
  | and a b => .bool ((a.value state).truthy && (b.value state).truthy)
  | or a b => .bool ((a.value state).truthy || (b.value state).truthy)
  | compare op a b => .bool (op.holds (a.value state) (b.value state))

/-- Whether the predicate is true of the state. -/
def holds (p : Predicate) (state : Fields) : Bool := (p.value state).truthy

end Predicate
end Workflow
