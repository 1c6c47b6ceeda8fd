import Workflow.Event.Bus
import Workflow.Proofs.Event.History

/-! Which events a bus lets in: all but those that come after the end of the run, or after the end
of the node that they belong to. -/
namespace Workflow

/-- The event comes too late after others. -/
def Happening.Late (earlier : List Happening) (what : Happening) : Prop :=
  (∃ e ∈ earlier, e.endsRun = true) ∨
    ∃ v, what.within? = some v ∧ ∃ e ∈ earlier, e.ends? = some v

namespace History

/-- The events tell all that a history knows. -/
structure Lawful (h : History) : Prop where
  numbered : h.Numbered
  sealed_iff : ∀ v, v ∈ h.sealedNodes ↔ ∃ what ∈ h.whats, what.ends? = some v
  closed_iff : h.closed = true ↔ ∃ what ∈ h.whats, what.endsRun = true
  last : h.closed = true → ∃ before last, h.entries = before ++ [last] ∧ last.what.endsRun = true

theorem lawful_empty : Lawful {} where
  numbered := by simp [Numbered]
  sealed_iff := by simp [whats]
  closed_iff := by simp [whats]
  last h := by cases h

theorem not_closed_of_admits {h : History} {what : Happening} (ha : h.admits what = true) :
    h.closed = false := by
  simp only [admits, Bool.and_eq_true, Bool.not_eq_true'] at ha
  exact ha.1

theorem exists_whats_publish {h : History} {what : Happening} (ha : h.admits what = true)
    (P : Happening → Prop) :
    (∃ e ∈ (h.publish what).whats, P e) ↔ (∃ e ∈ h.whats, P e) ∨ P what := by
  rw [whats_publish, if_pos ha]
  simp [or_and_right, exists_or]

theorem Lawful.publish {h : History} (hl : h.Lawful) (what : Happening) :
    (h.publish what).Lawful := by
  by_cases ha : h.admits what = true
  · have hopen : ¬ ∃ e ∈ h.whats, e.endsRun = true := by
      rw [← hl.closed_iff, not_closed_of_admits ha]
      exact Bool.false_ne_true
    refine ⟨hl.numbered.publish what, fun v => ?_, ?_, fun hc => ?_⟩
    · rw [exists_whats_publish ha, ← hl.sealed_iff, sealedNodes_publish ha]
      cases he : what.ends? with
      | none => simp
      | some u => simp [or_comm, eq_comm]
    · rw [exists_whats_publish ha, closed_publish ha]
      simp [hopen]
    · rw [closed_publish ha] at hc
      exact ⟨h.entries, _, by rw [entries_publish, if_pos ha], hc⟩
  · rwa [publish_of_not_admits ha]

theorem closed_publish_iff (h : History) (what : Happening) :
    (h.publish what).closed = true ↔ h.closed = true ∨ what.endsRun = true := by
  by_cases ha : h.admits what = true
  · rw [closed_publish ha, not_closed_of_admits ha]
    simp
  · rw [publish_of_not_admits ha]
    refine ⟨Or.inl, fun hc => hc.elim id fun hw => ?_⟩
    by_contra hopen
    -- What ends the run belongs to no node, so only a closed history refuses it.
    refine ha (admits_eq_true_iff.mpr ⟨Bool.eq_false_iff.mpr hopen, ?_⟩)
    cases what <;> simp_all [Happening.endsRun, Happening.within?]

/-- An event is let in just if it does not come too late. -/
theorem Lawful.admits_iff {h : History} (hl : h.Lawful) (what : Happening) :
    h.admits what = true ↔ ¬ what.Late h.whats := by
  simp only [admits_eq_true_iff, Happening.Late, not_or, not_exists, not_and, ← hl.closed_iff,
    ← hl.sealed_iff, Bool.not_eq_true]

end History

namespace Bus

theorem gather_history (b : Bus) : b.gather.history = b.history := by
  unfold gather
  split
  · split <;> rfl
  · rfl

theorem deliver_history (b : Bus) : b.deliver.history = b.history := by
  unfold deliver
  split
  · exact gather_history b
  · rfl

theorem publish_history (b : Bus) (what : Happening) :
    (b.publish what).1.history = b.history.publish what := by
  unfold publish History.publish
  split
  · exact deliver_history _
  · rfl

theorem publish_verdict (b : Bus) (what : Happening) :
    (b.publish what).2 = b.history.admits what := by
  unfold publish
  split
  · rename_i h
    exact h.symm
  · rename_i h
    exact (Bool.eq_false_iff.mpr h).symm

/-- A refused event leaves no trace. -/
theorem publish_of_refused {b : Bus} {what : Happening} (h : (b.publish what).2 = false) :
    (b.publish what).1 = b := by
  rw [publish_verdict] at h
  rw [publish, if_neg (Bool.not_eq_true _ ▸ h)]

/-- The bus after events have been published on it one after the other. -/
def after (b : Bus) (calls : List Happening) : Bus :=
  calls.foldl (fun b what => (b.publish what).1) b

/-- The answers to events that are published one after the other. -/
def verdicts (b : Bus) : List Happening → List Bool
  | [] => []
  | what :: calls => (b.publish what).2 :: (b.publish what).1.verdicts calls

theorem after_cons (b : Bus) (what : Happening) (calls : List Happening) :
    b.after (what :: calls) = (b.publish what).1.after calls := rfl

theorem after_append (b : Bus) (calls later : List Happening) :
    b.after (calls ++ later) = (b.after calls).after later := List.foldl_append

theorem after_lawful {b : Bus} (hb : b.history.Lawful) (calls : List Happening) :
    (b.after calls).history.Lawful := by
  induction calls generalizing b with
  | nil => exact hb
  | cons what calls ih => exact ih (publish_history b what ▸ hb.publish what)

/-- The first event that ends the run is let in, whatever came before it. -/
theorem after_closed_iff (b : Bus) (calls : List Happening) :
    (b.after calls).history.closed = true ↔
      b.history.closed = true ∨ ∃ e ∈ calls, e.endsRun = true := by
  induction calls generalizing b with
  | nil => simp [after]
  | cons what calls ih =>
    rw [after_cons, ih, publish_history, History.closed_publish_iff, or_assoc]
    simp only [List.mem_cons, exists_eq_or_imp]

/-- A bus appends an event under the number of its place, or refuses it: just if it comes after the
end of the run, or belongs to a node of which an end was let in before. What is refused changes
neither the history nor any later answer. -/
theorem publish_law (calls later : List Happening) (what : Happening) :
    (after {} calls).history.Numbered ∧
    (((after {} calls).publish what).2 = true ↔
      ((after {} calls).publish what).1.history.entries =
        (after {} calls).history.entries ++ [⟨(after {} calls).history.entries.length, what⟩]) ∧
    (((after {} calls).publish what).2 = false ↔ (∃ e ∈ calls, e.endsRun = true) ∨
      ∃ v, what.within? = some v ∧ ∃ e ∈ (after {} calls).history.whats, e.ends? = some v) ∧
    (((after {} calls).publish what).2 = false →
      (after {} (calls ++ what :: later)).history = (after {} (calls ++ later)).history ∧
      ((after {} calls).publish what).1.verdicts later = (after {} calls).verdicts later) := by
  have hl : (after {} calls).history.Lawful := after_lawful History.lawful_empty calls
  refine ⟨hl.numbered, ?_, ?_, fun hr => ?_⟩
  · rw [publish_verdict, publish_history, History.entries_publish]
    split <;> simp_all
  · rw [publish_verdict, ← Bool.not_eq_true, hl.admits_iff, not_not, Happening.Late,
      ← hl.closed_iff,
      after_closed_iff]
    simp
  · have hsame := publish_of_refused hr
    rw [after_append, after_append, after_cons, hsame]
    exact ⟨rfl, rfl⟩

/-- An output that comes after the end of its node is refused, and the node goes on to count as
ended for what comes later. -/
theorem publish_law_of_late_output :
    (after {} [.nodeEnd "a" .null 0]).publish (.nodeOutput "a" .null) =
      (after {} [.nodeEnd "a" .null 0], false) ∧
    (after {}
      [.nodeEnd "a" .null 0, .nodeOutput "a" .null, .nodeError "a" ⟨.timeout, ""⟩]).history =
      (after {} [.nodeEnd "a" .null 0, .nodeError "a" ⟨.timeout, ""⟩]).history ∧
    (after {} [.nodeEnd "a" .null 0]).verdicts [.nodeError "a" ⟨.timeout, ""⟩] = [false] := by
  have h := publish_law [.nodeEnd "a" .null 0] [.nodeError "a" ⟨.timeout, ""⟩]
    (.nodeOutput "a" .null)
  exact ⟨by decide, (h.2.2.2 (by decide)).1, by decide⟩

end Bus
end Workflow
