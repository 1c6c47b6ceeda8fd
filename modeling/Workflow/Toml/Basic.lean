import Workflow.Json.Document

/-! Tables of settings and the rules by which they grow. -/
namespace Workflow.Toml

open Json (Document)

/-- What stands under a key. A table is implicit until it is named by a header of its own, and
dotted when a dotted key made it. -/
inductive Entry where
  | value (doc : Document)
  | table (implicit dotted : Bool) (entries : List (String × Entry))
  /-- Tables under one header, the last one first. -/
  | tables (all : List (List (String × Entry)))
  deriving Inhabited

abbrev Table := List (String × Entry)

namespace Table

def get? (t : Table) (key : String) : Option Entry := t.lookup key

def put : Table → String → Entry → Table
  | [], key, e => [(key, e)]
  | (k, old) :: rest, key, e => if k = key then (key, e) :: rest else (k, old) :: put rest key e

/-- Change what stands under a header. Tables on the way are made when they are missing; of several
tables the last one is meant. `none` stands for a change that is not allowed. -/
def alter (change : Table → Option Table) : List String → Table → Option Table
  | [], t => change t
  | key :: path, t => match t.get? key with
    | none => return t.put key (.table true false (← alter change path []))
    | some (.table implicit dotted inner) =>
      return t.put key (.table implicit dotted (← alter change path inner))
    | some (.tables (last :: others)) =>
      return t.put key (.tables ((← alter change path last) :: others))
    | some _ => none

/-- Begin a table under a key: a new one, or one that was implicit so far. -/
def openTable (key : String) (t : Table) : Option Table :=
  match t.get? key with
  | none => some (t.put key (.table false false []))
  | some (.table true false inner) => some (t.put key (.table false false inner))
  | some _ => none

/-- Begin another one of several tables under a key. -/
def addTable (key : String) (t : Table) : Option Table :=
  match t.get? key with
  | none => some (t.put key (.tables [[]]))
  | some (.tables all) => some (t.put key (.tables ([] :: all)))
  | some _ => none

/-- Set a key that is not set. -/
def setNew (key : String) (doc : Document) (t : Table) : Option Table :=
  match t.get? key with
  | none => some (t.put key (.value doc))
  | some _ => none

/-- Set a key behind dots. Tables on the way may be missing or implicit, and the last of them must
be dotted; of several tables the last one is meant. -/
def setDotted (key : String) (doc : Document) : List String → Table → Option Table
  | [], t => t.setNew key doc
  | k :: path, t => match t.get? k with
    | none => return t.put k (.table true true (← setDotted key doc path []))
    | some (.table true dotted inner) =>
      if path.isEmpty && !dotted then none
      else return t.put k (.table true dotted (← setDotted key doc path inner))
    | some (.tables (last :: others)) =>
      if path.isEmpty then none
      else return t.put k (.tables ((← setDotted key doc path last) :: others))
    | some _ => none

end Table

mutual
/-- The document that a table amounts to. -/
def Entry.toDocument : Entry → Document
  | .value doc => doc
  | .table _ _ entries => .obj (entriesToFields entries)
  | .tables all => .arr (tablesToItems all [])
def entriesToFields : List (String × Entry) → List (String × Document)
  | [] => []
  | (k, e) :: rest => (k, e.toDocument) :: entriesToFields rest
def tablesToItems : List (List (String × Entry)) → List Document → List Document
  | [], items => items
  | t :: rest, items => tablesToItems rest (.obj (entriesToFields t) :: items)
end

def Table.toDocument (t : Table) : Document := .obj (entriesToFields t)

end Workflow.Toml
