import Workflow.Regex.Search

/-! Replacing all matches of a regular expression. -/
namespace Workflow

namespace Regex

/-- A part of a replacement: a text, or what a group matched. -/
inductive Insert where
  | text (c : Char)
  | group (name : List Char)
  deriving DecidableEq, Repr

def isReferenceChar (c : Char) : Bool := c.isAlphanum || c == '_'

/-- The parts of a replacement. A dollar sign before a name, or before a name in braces, refers to
a group, and two of them stand for one. The fuel is the length of what is left. -/
def inserts : Nat → List Char → List Insert
  | 0, _ => []
  | fuel + 1, s => match s with
    | [] => []
    | '$' :: '$' :: s => .text '$' :: inserts fuel s
    | '$' :: '\x7b' :: s =>
      let name := s.takeWhile (· != '\x7d')
      match s.drop name.length with
      | [] => .text '$' :: inserts fuel ('\x7b' :: s)
      | _ :: s => .group name :: inserts fuel s
    | '$' :: s =>
      let name := s.takeWhile isReferenceChar
      if name.isEmpty then .text '$' :: inserts fuel s
      else .group name :: inserts fuel (s.drop name.length)
    | c :: s => .text c :: inserts fuel s

/-- The number of the group that a name refers to. -/
def groupNumber? (p : Pattern) (name : List Char) : Option Nat :=
  (Text.index? name).or (p.names.lookup (String.ofList name))

end Regex

namespace Pattern

open Regex

/-- What is put in the place of a match. -/
def expand (p : Pattern) (text : Array Char) (saves : Saves) (parts : List Insert) : List Char :=
  parts.flatMap fun
    | .text c => [c]
    | .group name => match (groupNumber? p name).bind (span? saves) with
      | some s => (text.extract s.first s.last).toList
      | none => []

/-- The text from `place` on with its matches replaced. `last` is the end of the match before, where
no empty match may follow. The fuel is more than the length of what is left. -/
def replaceFrom (p : Pattern) (m : Machine) (text : Array Char) (parts : List Insert) :
    Nat → Nat → Option Nat → List Char
  | 0, place, _ => (text.extract place text.size).toList
  | fuel + 1, place, last =>
    let find (from? : Nat) : Option (Saves × Span) :=
      if text.size < from? then none
      else do
        let before := if from? = 0 then none else text[from? - 1]?
        let saves ← m.find? from? before (text.extract from? text.size).toList
        return (saves, ← span? saves 0)
    let found := match find place with
      | some (saves, s) =>
        if s.first = s.last && last = some s.last then find (place + 1) else some (saves, s)
      | none => none
    match found with
    | none => (text.extract place text.size).toList
    | some (saves, s) =>
      (text.extract place s.first).toList ++ p.expand text saves parts
        ++ replaceFrom p m text parts fuel s.last (some s.last)

/-- The text with all matches replaced, from left to right. -/
def replaceAll (p : Pattern) (replacement text : String) : String :=
  let parts := inserts replacement.length replacement.toList
  String.ofList (p.replaceFrom p.regex.machine text.toList.toArray parts (text.length + 2) 0 none)

end Pattern
end Workflow
