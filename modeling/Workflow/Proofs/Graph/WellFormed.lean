import Workflow.Graph.Basic
import Mathlib.Data.List.Nodup
import Mathlib.Logic.Relation

/-! Well-formed workflows, and the order of the checks that find out whether a workflow is one. -/
namespace Workflow

/-! ### Well-formed workflows -/

namespace Definition

variable (w : Definition)

def ids : List String := w.nodes.map (·.id)

/-- Some edge leads from the first node to the second. -/
def Joins (u v : String) : Prop := ∃ e ∈ w.edges, e.source = u ∧ e.target = v

/-- Edges lead from a start node to the node. -/
def Reaches (v : String) : Prop :=
  ∃ n ∈ w.nodes, n.type = .start ∧ Relation.ReflTransGen w.Joins n.id v

/-- The labels of the edges that leave a node. -/
def labels (v : String) : List (Option String) :=
  (w.edges.filter (·.source == v)).map (·.sourceHandle)

def UniqueIds : Prop := w.ids.Nodup

def EndsKnown : Prop := ∀ e ∈ w.edges, e.source ∈ w.ids ∧ e.target ∈ w.ids

def OneStart : Prop := ∃ start, w.nodes.filter (·.type == .start) = [start]

/-- Start nodes and information nodes need no edge that enters them. -/
def Entered : Prop :=
  ∀ n ∈ w.nodes, n.type ≠ .start → n.type ≠ .information → ∃ e ∈ w.edges, e.target = n.id

def Uncycled : Prop := ∀ v, ¬ Relation.TransGen w.Joins v v

/-- All nodes but information nodes are reached. -/
def Joined : Prop := ∀ n ∈ w.nodes, n.type ≠ .information → w.Reaches n.id

/-- If the node is a condition node that is reached, it has two edges, one for each result. -/
def Branches (v : String) : Prop :=
  ∀ n ∈ w.nodes, n.id = v → n.type = .condition → w.Reaches v →
    (w.labels v).Perm [some "true", some "false"]

/-- If the node is a condition node that is reached, its expression can be parsed. -/
def Parses (v : String) : Prop :=
  ∀ n ∈ w.nodes, n.id = v → w.Reaches v → ∀ expression, n.payload = .condition expression →
    ∃ p, Predicate.parse expression = .ok p

structure WellFormed : Prop where
  unique : w.UniqueIds
  ends : w.EndsKnown
  start : w.OneStart
  uncycled : w.Uncycled
  joined : w.Joined
  branches : ∀ v, w.Branches v
  parses : ∀ v, w.Parses v

end Definition

/-! ### Checks in their order -/

/-- What is checked of a workflow; the last two checks are made of every condition node. -/
inductive Check where
  | unique
  | ends
  | start
  | entered
  | uncycled
  | joined
  | branches (id : String)
  | parses (id : String)
  deriving DecidableEq, Repr

namespace Check

def Passes (w : Definition) : Check → Prop
  | unique => w.UniqueIds
  | ends => w.EndsKnown
  | start => w.OneStart
  | entered => w.Entered
  | uncycled => w.Uncycled
  | joined => w.Joined
  | branches id => w.Branches id
  | parses id => w.Parses id

/-- The code of the error that tells that the check has failed. -/
def code : Check → String
  | unique => "duplicate_node_id"
  | ends => "dangling_edge"
  | start => "missing_or_multiple_start"
  | entered | joined => "orphan_node"
  | uncycled => "cycle_detected"
  | branches _ => "invalid_condition_branching"
  | parses _ => "invalid_expression"

def stage : Check → ℕ
  | unique => 0
  | ends => 1
  | start => 2
  | entered => 3
  | uncycled => 4
  | joined => 5
  | branches _ | parses _ => 6

def node? : Check → Option String
  | branches id | parses id => some id
  | _ => none

/-- The order of the checks: condition nodes come last, in the order of their ids, and the edges of
a node come before its expression. -/
inductive Before : Check → Check → Prop
  | stage {a b : Check} (h : a.stage < b.stage) : Before a b
  | node {a b : Check} {u v : String} (ha : a.node? = some u) (hb : b.node? = some v)
    (h : u < v) : Before a b
  | parses {v : String} : Before (.branches v) (.parses v)

/-- The check fails, and those before it do not. -/
def IsFirst (w : Definition) (check : Check) : Prop :=
  ¬ check.Passes w ∧ ∀ earlier : Check, earlier.Before check → earlier.Passes w

/-- All checks up to a stage are passed. -/
def PassedTo (w : Definition) (k : ℕ) : Prop := ∀ check : Check, check.stage < k → check.Passes w

variable {w : Definition}

theorem eq_of_stage_eq {a b : Check} (h : a.stage = b.stage) (hb : b.stage < 6) : a = b := by
  cases a <;> cases b <;> simp_all [stage]

theorem stage_eq_six {check : Check} (h : ¬ check.stage < 6) :
    ∃ v, check = .branches v ∨ check = .parses v := by
  cases check with
  | branches v => exact ⟨v, Or.inl rfl⟩
  | parses v => exact ⟨v, Or.inr rfl⟩
  | _ => exact absurd (by decide) h

theorem stage_lt_of_before {a b : Check} (h : a.Before b) (hb : b.stage < 6) :
    a.stage < b.stage := by
  cases h with
  | stage h => exact h
  | node ha hv h => cases b <;> simp_all [node?, stage]
  | parses => simp [stage] at hb

theorem before_or_eq_or_before (a b : Check) : a.Before b ∨ a = b ∨ b.Before a := by
  rcases Nat.lt_trichotomy a.stage b.stage with h | h | h
  · exact Or.inl (.stage h)
  · by_cases hb : b.stage < 6
    · exact Or.inr (Or.inl (eq_of_stage_eq h hb))
    -- Both are checks of condition nodes: ids are compared first.
    obtain ⟨u, hu⟩ := stage_eq_six (h ▸ hb)
    obtain ⟨v, hv⟩ := stage_eq_six hb
    have hau : a.node? = some u := by rcases hu with rfl | rfl <;> rfl
    have hbv : b.node? = some v := by rcases hv with rfl | rfl <;> rfl
    by_cases huv : u < v
    · exact Or.inl (.node hau hbv huv)
    by_cases hvu : v < u
    · exact Or.inr (Or.inr (.node hbv hau hvu))
    obtain rfl : u = v := String.le_antisymm (String.not_lt.mp hvu) (String.not_lt.mp huv)
    rcases hu with rfl | rfl <;> rcases hv with rfl | rfl
    · exact Or.inr (Or.inl rfl)
    · exact Or.inl .parses
    · exact Or.inr (Or.inr .parses)
    · exact Or.inr (Or.inl rfl)
  · exact Or.inr (Or.inr (.stage h))

theorem IsFirst.unique {a b : Check} (ha : a.IsFirst w) (hb : b.IsFirst w) : a = b := by
  rcases before_or_eq_or_before a b with h | h | h
  · exact absurd (hb.2 a h) ha.1
  · exact h
  · exact absurd (ha.2 b h) hb.1

theorem PassedTo.succ (check : Check) (h : PassedTo w check.stage) (hk : check.stage < 6)
    (hp : check.Passes w) : PassedTo w (check.stage + 1) := by
  intro other ho
  rcases Nat.lt_succ_iff_lt_or_eq.mp ho with hlt | heq
  · exact h other hlt
  · rwa [eq_of_stage_eq heq hk]

theorem PassedTo.isFirst (check : Check) (h : PassedTo w check.stage) (hk : check.stage < 6)
    (hp : ¬ check.Passes w) : check.IsFirst w :=
  ⟨hp, fun other ho => h other (stage_lt_of_before ho hk)⟩

section Search

variable {α : Type} {found : Option α} (check : Check) (h : PassedTo w check.stage)
  (hk : check.stage < 6) (hiff : found = none ↔ check.Passes w)

include h hk hiff

/-- A search for what must not be there makes the next check: it is passed if nothing is found. -/
theorem PassedTo.of_not_found (hfound : ∀ a, found ≠ some a) : PassedTo w (check.stage + 1) :=
  h.succ check hk (hiff.mp (Option.eq_none_iff_forall_ne_some.mpr hfound))

theorem PassedTo.isFirst_of_found {a : α} (hfound : found = some a) : check.IsFirst w := by
  refine h.isFirst check hk fun hp => ?_
  rw [hiff.mpr hp] at hfound
  cases hfound

end Search

end Check

/-- A well-formed workflow passes every check. An edge enters a node that must be entered because
one enters every node that is reached but the start node. -/
theorem Definition.WellFormed.passes {w : Definition} (h : w.WellFormed) (check : Check) :
    check.Passes w := by
  cases check with
  | unique => exact h.unique
  | ends => exact h.ends
  | start => exact h.start
  | entered =>
    intro n hn hstart hinfo
    obtain ⟨s, hs, hst, hpath⟩ := h.joined n hn hinfo
    rcases Relation.ReflTransGen.cases_tail hpath with heq | ⟨u, -, e, he, -, ht⟩
    · have hns : n = s := List.inj_on_of_nodup_map h.unique hn hs heq
      exact absurd (hns ▸ hst) hstart
    · exact ⟨e, he, ht⟩
  | uncycled => exact h.uncycled
  | joined => exact h.joined
  | branches v => exact h.branches v
  | parses v => exact h.parses v

end Workflow
