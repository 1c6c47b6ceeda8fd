import Workflow.Proofs.Text.Search
import Workflow.Tool.JsonQuery

/-! What the tool selects by a path: where the steps lead that the path was written from. -/
namespace Workflow.Json

/-! ### Steps -/

/-- A step leads from a value to one of its own parts. -/
inductive Leads : Json → Step → Json → Prop where
  | member {fields : Fields} {name : String} {v : Json} (h : Fields.get? fields name = some v) :
      Leads (.obj fields) (.key name) v
  | item {items : List Json} {n : ℕ} (h : n < items.length) : Leads (.arr items) (.index n) items[n]

/-- A step does not apply to a value. -/
inductive Fails : Json → Step → Prop where
  | missing {fields : Fields} {name : String} (h : Fields.get? fields name = none) :
      Fails (.obj fields) (.key name)
  | beyond {items : List Json} {n : ℕ} (h : items.length ≤ n) : Fails (.arr items) (.index n)
  | noObject {v : Json} {name : String} (h : ∀ fields, v ≠ .obj fields) : Fails v (.key name)
  | noArray {v : Json} {n : ℕ} (h : ∀ items, v ≠ .arr items) : Fails v (.index n)

/-- Steps in turn select the value that they lead to, or null as soon as one does not apply. -/
inductive Selects : Json → List Step → Json → Prop where
  | here (v : Json) : Selects v [] v
  | onward {v u w : Json} {step : Step} {steps : List Step} (hfirst : Leads v step u)
      (hrest : Selects u steps w) : Selects v (step :: steps) w
  | nowhere {v : Json} {step : Step} (steps : List Step) (h : Fails v step) :
      Selects v (step :: steps) .null

theorem leads_iff {v u : Json} {step : Step} : Leads v step u ↔ step.from? v = some u := by
  constructor
  · rintro (h | h)
    · exact h
    · exact List.getElem?_eq_getElem h
  · intro h
    cases step with
    | key name =>
      cases v with
      | obj fields => exact .member h
      | null | bool | num | str | arr => cases h
    | index n =>
      cases v with
      | arr items =>
        obtain ⟨hlt, rfl⟩ := List.getElem?_eq_some_iff.mp h
        exact .item hlt
      | null | bool | num | str | obj => cases h

theorem fails_iff {v : Json} {step : Step} : Fails v step ↔ step.from? v = none := by
  constructor
  · intro h
    cases h with
    | missing h => exact h
    | beyond h => exact List.getElem?_eq_none h
    | noObject h =>
      cases v with
      | obj fields => exact absurd rfl (h fields)
      | null | bool | num | str | arr => rfl
    | noArray h =>
      cases v with
      | arr items => exact absurd rfl (h items)
      | null | bool | num | str | obj => rfl
  · intro h
    cases step with
    | key name =>
      cases v with
      | obj fields => exact .missing h
      | null | bool | num | str | arr => exact .noObject nofun
    | index n =>
      cases v with
      | arr items => exact .beyond (List.getElem?_eq_none_iff.mp h)
      | null | bool | num | str | obj => exact .noArray nofun

theorem selects_iff {v w : Json} {steps : List Step} :
    Selects v steps w ↔ Json.ofOption (walk? v steps) = w := by
  induction steps generalizing v with
  | nil =>
    constructor
    · rintro ⟨⟩
      rfl
    · rintro rfl
      exact .here v
  | cons step steps ih =>
    cases hstep : step.from? v with
    | some u =>
      have hwalk : walk? v (step :: steps) = walk? u steps := by
        rw [walk?, List.foldlM_cons, hstep]
        rfl
      rw [hwalk, ← ih]
      constructor
      · intro h
        cases h with
        | onward hfirst hrest =>
          cases hstep.symm.trans (leads_iff.mp hfirst)
          exact hrest
        | nowhere _ h => cases hstep.symm.trans (fails_iff.mp h)
      · exact .onward (leads_iff.mpr hstep)
    | none =>
      have hwalk : walk? v (step :: steps) = none := by
        rw [walk?, List.foldlM_cons, hstep]
        rfl
      rw [hwalk]
      constructor
      · intro h
        cases h with
        | onward hfirst hrest => cases hstep.symm.trans (leads_iff.mp hfirst)
        | nowhere _ h => rfl
      · rintro rfl
        exact .nowhere steps (fails_iff.mpr hstep)

/-! ### Paths -/

/-- A key that can be written in a path. -/
abbrev PathKey := {key : String // key ≠ "" ∧ '.' ∉ key.toList ∧ '[' ∉ key.toList}

/-- A segment of a path: a key, indexes or both. -/
structure PathSegment where
  key : Option PathKey
  indexes : List ℕ
  present : key = none → indexes ≠ []

namespace PathSegment

def steps (segment : PathSegment) : List Step :=
  (segment.key.toList.map fun key => .key key.1) ++ segment.indexes.map .index

/-- An index up to its closing bracket. -/
def closed (n : ℕ) : List Char := (toString n).toList ++ [']']

def keyText (segment : PathSegment) : List Char := segment.key.elim [] fun key => key.1.toList

def text (segment : PathSegment) : List Char :=
  segment.keyText ++ segment.indexes.flatMap fun n => '[' :: closed n

end PathSegment

/-- The path of some segments. -/
def pathText (segments : List PathSegment) : String :=
  String.ofList (['.'].intercalate (segments.map PathSegment.text))

namespace PathSegment

theorem not_mem_closed {c : Char} (hdigit : c.isDigit = false) (hclosing : c ≠ ']') (n : ℕ) :
    c ∉ closed n := by
  intro hc
  rcases List.mem_append.mp hc with hnumber | hlast
  · rw [Text.isDigit_of_mem_toString hnumber] at hdigit
    cases hdigit
  · exact hclosing (List.mem_singleton.mp hlast)

theorem indexText?_closed (n : ℕ) : indexText? (closed n) = some (toString n).toList := by
  rw [indexText?, closed, List.reverse_append]
  exact congrArg some (List.reverse_reverse _)

theorem filterMap_indexText? (indexes : List ℕ) :
    (indexes.map closed).filterMap indexText? = indexes.map fun n => (toString n).toList := by
  rw [List.filterMap_map, ← List.filterMap_eq_map]
  exact List.filterMap_congr fun n _ => indexText?_closed n

/-- The indexes behind a key are found again. -/
theorem splitAt_indexes (indexes : List ℕ) :
    (Text.splitAt '[' (indexes.flatMap fun n => '[' :: closed n)).filterMap indexText? =
      indexes.map fun n => (toString n).toList := by
  have hparts : Text.splitAt '[' (indexes.flatMap fun n => '[' :: closed n) =
      [] :: indexes.map closed := by
    have hclosed : ∀ part ∈ indexes.map closed, '[' ∉ part := by
      intro part hpart
      obtain ⟨n, -, rfl⟩ := List.mem_map.mp hpart
      exact not_mem_closed (by decide) (by decide) n
    rw [← Text.splitAt_joined List.not_mem_nil hclosed, List.flatMap_map]
    rfl
  rw [hparts, List.filterMap_cons_none rfl, filterMap_indexText?]

theorem not_mem_keyText {c : Char} (h : ∀ key : PathKey, c ∉ key.1.toList) (segment : PathSegment) :
    c ∉ segment.keyText := by
  unfold keyText
  cases segment.key with
  | none => exact List.not_mem_nil
  | some key => exact h key

theorem takeWhile_text (segment : PathSegment) :
    segment.text.takeWhile (· != '[') = segment.keyText := by
  have hkey : '[' ∉ segment.keyText := segment.not_mem_keyText fun key => key.2.2.2
  rw [text]
  cases segment.indexes with
  | nil => rw [List.flatMap_nil, List.append_nil, Text.takeWhile_of_not_mem hkey]
  | cons n indexes => rw [List.flatMap_cons, List.cons_append, Text.takeWhile_append_cons hkey]

theorem keySteps_keyText (segment : PathSegment) :
    (if segment.keyText.isEmpty then [] else [some (Step.key (String.ofList segment.keyText))]) =
      (segment.key.toList.map fun key => Step.key key.1).map some := by
  unfold keyText
  cases segment.key with
  | none => rfl
  | some key =>
    have hne : key.1.toList.isEmpty = false := by simpa using key.2.1
    simp [hne]

/-- The steps of a segment are read back from its text. -/
theorem segmentSteps_text (segment : PathSegment) :
    segmentSteps segment.text = segment.steps.map some := by
  have hindexes : segment.text.drop segment.keyText.length =
      segment.indexes.flatMap fun n => '[' :: closed n := List.drop_left
  have hread : (segment.indexes.map fun n => (toString n).toList).map
      (fun i => (Text.index? i).map Step.index) = (segment.indexes.map Step.index).map some := by
    rw [List.map_map, List.map_map]
    refine List.map_congr_left fun n _ => ?_
    rw [Function.comp_apply, Text.index?_toString]
    rfl
  simp only [segmentSteps, takeWhile_text, hindexes, splitAt_indexes, hread, keySteps_keyText]
  rw [steps, List.map_append]

theorem text_ne_nil (segment : PathSegment) : segment.text ≠ [] := by
  intro hnil
  obtain ⟨hkey, hindexes⟩ := List.append_eq_nil_iff.mp hnil
  unfold keyText at hkey
  cases hopt : segment.key with
  | none =>
    obtain ⟨n, more, hmore⟩ := List.exists_cons_of_ne_nil (segment.present hopt)
    simp [hmore] at hindexes
  | some key =>
    rw [hopt] at hkey
    exact key.2.1 (String.toList_eq_nil_iff.mp hkey)

theorem dot_not_mem_text (segment : PathSegment) : '.' ∉ segment.text := by
  intro hdot
  rcases List.mem_append.mp hdot with hkey | hindexes
  · exact segment.not_mem_keyText (fun key => key.2.2.1) hkey
  · obtain ⟨n, -, hn⟩ := List.mem_flatMap.mp hindexes
    rcases List.mem_cons.mp hn with hbracket | hclosed
    · exact absurd hbracket (by decide)
    · exact not_mem_closed (by decide) (by decide) n hclosed

end PathSegment

example : pathText [⟨some ⟨"items", by decide⟩, [1, 20], nofun⟩, ⟨none, [3], by decide⟩] =
    "items[1][20].[3]" := by decide +kernel

/-- The steps of a path are read back from its text. -/
theorem pathSteps_pathText (segments : List PathSegment) :
    pathSteps (pathText segments).toList = (segments.flatMap PathSegment.steps).map some := by
  have hparts : (Text.splitAt '.' (pathText segments).toList).filter (fun s => !s.isEmpty) =
      segments.map PathSegment.text := by
    have hkept : (segments.map PathSegment.text).filter (fun s => !s.isEmpty) =
        segments.map PathSegment.text := by
      refine List.filter_eq_self.mpr fun part hpart => ?_
      obtain ⟨segment, -, rfl⟩ := List.mem_map.mp hpart
      simp [segment.text_ne_nil]
    have hdots : ∀ part ∈ segments.map PathSegment.text, '.' ∉ part := by
      intro part hpart
      obtain ⟨segment, -, rfl⟩ := List.mem_map.mp hpart
      exact segment.dot_not_mem_text
    rw [pathText, String.toList_ofList]
    cases segments with
    | nil => rfl
    | cons segment segments =>
      obtain ⟨hfirst, hmore⟩ := List.forall_mem_cons.mp hdots
      rw [List.map_cons, Text.intercalate_cons, Text.splitAt_joined hfirst hmore]
      exact hkept
  rw [pathSteps, hparts, List.flatMap_map, List.map_flatMap]
  exact List.flatMap_congr fun segment _ => segment.segmentSteps_text

/-- By a path the value is selected that the steps of its segments lead to: keys to the members of
objects and indexes to the items of arrays. It is null as soon as a step does not apply. -/
theorem query_selects (v : Json) (segments : List PathSegment) (w : Json) :
    v.query (pathText segments) = w ↔ Selects v (segments.flatMap PathSegment.steps) w := by
  have hsteps : ((segments.flatMap PathSegment.steps).map some).mapM id =
      some (segments.flatMap PathSegment.steps) := by
    rw [List.mapM_map]
    exact List.mapM_pure.trans (congrArg some (List.map_id _))
  rw [query, pathSteps_pathText, hsteps, selects_iff]
  rfl

end Workflow.Json
