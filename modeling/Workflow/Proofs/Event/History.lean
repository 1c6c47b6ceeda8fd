import Workflow.Event.Basic
import Mathlib.Tactic.Common

/-! What a history tells: its events one after the other, and those about one node. -/
namespace Workflow

/-- A part of the output of the node. -/
def Happening.IsPart (v : String) (what : Happening) : Prop := ∃ data, what = .nodeOutput v data

/-- The events of a node that has started and not ended: its start, and parts of its output. -/
def Underway (v : String) (events : List Happening) : Prop :=
  ∃ type name parts, events = .nodeStart v type name :: parts ∧ ∀ p ∈ parts, p.IsPart v

/-- The events of a node that has ended: what came while it was underway, and then its end. -/
def Ended (v : String) (events : List Happening) : Prop :=
  ∃ before last, events = before ++ [last] ∧ Underway v before ∧ last.ends? = some v

theorem Underway.snoc {v : String} {events : List Happening} (h : Underway v events)
    {what : Happening} (hw : what.IsPart v) : Underway v (events ++ [what]) := by
  obtain ⟨type, name, parts, rfl, hparts⟩ := h
  refine ⟨type, name, parts ++ [what], rfl, fun p hp => ?_⟩
  rcases List.mem_append.mp hp with hp | hp
  · exact hparts p hp
  · exact List.mem_singleton.mp hp ▸ hw

theorem Underway.filter_ends {v : String} {events : List Happening} (h : Underway v events) :
    events.filter (fun what => what.ends? == some v) = [] := by
  obtain ⟨type, name, parts, rfl, hparts⟩ := h
  rw [List.filter_eq_nil_iff, List.forall_mem_cons]
  refine ⟨Bool.false_ne_true, fun p hp => ?_⟩
  obtain ⟨data, rfl⟩ := hparts p hp
  exact Bool.false_ne_true

/-- The node that the event starts. -/
def Happening.starts? : Happening → Option String
  | .nodeStart id _ _ => some id
  | _ => none

theorem Happening.node?_of_starts? {what : Happening} {v : String} (h : what.starts? = some v) :
    what.node? = some v := by
  cases what <;> simp_all [Happening.starts?, Happening.node?]

theorem Happening.eq_nodeStart {what : Happening} {v : String} (h : what.starts? = some v) :
    ∃ type name, what = .nodeStart v type name := by
  cases what with
  | nodeStart id type name => exact ⟨type, name, by rw [Option.some.inj h]⟩
  | _ => cases h

/-- The node that must not have ended before the event. -/
def Happening.within? : Happening → Option String
  | .nodeOutput id _ => some id
  | .nodeEnd id _ _ => some id
  | .nodeError id _ => some id
  | _ => none

theorem Happening.within?_of_ends? {what : Happening} {v : String} (h : what.ends? = some v) :
    what.within? = some v := by
  cases what <;> simp_all [Happening.ends?, Happening.within?]

theorem Happening.node?_of_ends? {what : Happening} {v : String} (h : what.ends? = some v) :
    what.node? = some v := by
  cases what <;> simp_all [Happening.ends?, Happening.node?]

namespace History

/-- The events, without their numbers. -/
def whats (h : History) : List Happening := h.entries.map (·.what)

/-- The events about a node. -/
def about (h : History) (v : String) : List Happening :=
  h.whats.filter fun what => what.node? == some v

/-- Every event is numbered by its place. -/
def Numbered (h : History) : Prop := ∀ (i : ℕ) (e : Entry), h.entries[i]? = some e → e.seq = i

theorem Numbered.publish {h : History} (hn : h.Numbered) (what : Happening) :
    (h.publish what).Numbered := by
  unfold History.publish
  split
  · intro i e (he : (h.entries ++ [⟨h.entries.length, what⟩])[i]? = some e)
    rcases Nat.lt_trichotomy i h.entries.length with hlt | rfl | hgt
    · refine hn i e ?_
      rwa [List.getElem?_append_left hlt] at he
    · rw [List.getElem?_concat_length] at he
      cases he
      rfl
    · rw [List.getElem?_eq_none] at he
      · cases he
      · rw [List.length_append]
        exact hgt
  · exact hn

theorem entries_publish (h : History) (what : Happening) :
    (h.publish what).entries =
      if h.admits what then h.entries ++ [⟨h.entries.length, what⟩] else h.entries := by
  unfold History.publish append
  split <;> rfl

theorem whats_publish (h : History) (what : Happening) :
    (h.publish what).whats = if h.admits what then h.whats ++ [what] else h.whats := by
  rw [whats, entries_publish]
  split <;> simp [whats]

/-- Publishing adds the event at the end, or nothing. -/
theorem whats_publish_cases (h : History) (what : Happening) :
    (h.publish what).whats = h.whats ∨ (h.publish what).whats = h.whats ++ [what] := by
  rw [whats_publish]
  split
  · exact Or.inr rfl
  · exact Or.inl rfl

theorem about_publish (h : History) (what : Happening) (v : String) :
    (h.publish what).about v =
      if h.admits what ∧ what.node? = some v then h.about v ++ [what] else h.about v := by
  rw [about, whats_publish]
  by_cases ha : h.admits what = true <;> by_cases hv : what.node? = some v <;>
    simp [ha, hv, about, List.filter_append]

/-- An event that is let in is about its own node only. -/
theorem about_publish_of_admits {h : History} {what : Happening} {id : String}
    (ha : h.admits what = true) (hn : what.node? = some id) (v : String) :
    (h.publish what).about v = if v = id then h.about v ++ [what] else h.about v := by
  rw [about_publish, hn]
  by_cases hv : v = id
  · subst hv
    rw [if_pos ⟨ha, rfl⟩, if_pos rfl]
  · rw [if_neg (fun hx => hv (Option.some.inj hx.2).symm), if_neg hv]

theorem mem_about {h : History} {v : String} {what : Happening} :
    what ∈ h.about v ↔ what ∈ h.whats ∧ what.node? = some v := by
  simp [about]

theorem sealedNodes_publish {h : History} {what : Happening} (ha : h.admits what = true) :
    (h.publish what).sealedNodes = match what.ends? with
      | some id => id :: h.sealedNodes
      | none => h.sealedNodes := by
  rw [History.publish, if_pos ha]
  rfl

theorem closed_publish {h : History} {what : Happening} (ha : h.admits what = true) :
    (h.publish what).closed = what.endsRun := by
  rw [History.publish, if_pos ha]
  rfl

theorem publish_of_not_admits {h : History} {what : Happening} (ha : ¬ h.admits what = true) :
    h.publish what = h := if_neg ha

theorem admits_eq_true_iff {h : History} {what : Happening} : h.admits what = true ↔
    h.closed = false ∧ ∀ v, what.within? = some v → v ∉ h.sealedNodes := by
  cases what <;> simp [admits, Happening.within?]

theorem admits_within {h : History} {what : Happening} {v : String} (hw : what.within? = some v) :
    h.admits what = true ↔ h.closed = false ∧ v ∉ h.sealedNodes := by
  rw [admits_eq_true_iff]
  simp [hw]

/-- A part of an output is let in as long as neither its node nor the run has ended. -/
theorem admits_part {h : History} {v : String} {data : Json} :
    h.admits (.nodeOutput v data) = true ↔ h.closed = false ∧ v ∉ h.sealedNodes :=
  admits_within rfl

/-- The end of a node is let in as long as neither the node nor the run has ended. -/
theorem admits_end {h : History} {what : Happening} {v : String} (hw : what.ends? = some v) :
    h.admits what = true ↔ h.closed = false ∧ v ∉ h.sealedNodes :=
  admits_within (Happening.within?_of_ends? hw)

end History
end Workflow
