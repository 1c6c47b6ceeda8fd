import Workflow.Proofs.Json.Fields
import Workflow.Proofs.Run.Step
import Mathlib.Data.List.Perm.Basic
import Mathlib.Data.List.Nodup

/-! The run state as the results that were merged into it. The last result that writes a key wins,
so orders of the results that agree on those writing one key lead to the same state. -/
namespace Workflow

/-- The values that the results have written. -/
def merged (results : List (String × Except NodeFault Outcome)) : Fields :=
  results.foldl (fun state x => state.merge (patch x.2)) []

/-- Whether a result writes the key. -/
def writes (key : String) (x : String × Except NodeFault Outcome) : Bool :=
  (Fields.written (patch x.2) key).isSome

variable {results others : List (String × Except NodeFault Outcome)} {key : String}

theorem merged_concat (results : List (String × Except NodeFault Outcome))
    (x : String × Except NodeFault Outcome) :
    merged (results ++ [x]) = (merged results).merge (patch x.2) := by
  simp [merged]

theorem merged_sorted (results : List (String × Except NodeFault Outcome)) :
    (merged results).Sorted := by
  induction results using List.reverseRecOn with
  | nil => exact List.Pairwise.nil
  | append_singleton results x ih =>
    rw [merged_concat]
    exact ih.merge _

/-- Only the results that write a key matter for its value. -/
theorem get?_merged_filter (results : List (String × Except NodeFault Outcome)) (key : String) :
    (merged results).get? key = (merged (results.filter (writes key))).get? key := by
  induction results using List.reverseRecOn with
  | nil => rfl
  | append_singleton results x ih =>
    rw [List.filter_append, merged_concat, Fields.get?_merge, ih]
    cases hx : writes key x with
    | true =>
      rw [List.filter_cons_of_pos hx, List.filter_nil, merged_concat, Fields.get?_merge]
    | false =>
      rw [List.filter_cons_of_neg (by simp [hx]), List.filter_nil, List.append_nil]
      have hnone : Fields.written (patch x.2) key = none :=
        Option.not_isSome_iff_eq_none.mp (by simpa [writes] using hx)
      rw [hnone, Option.none_or]

/-- Results in an order that respects `R`: a later one never comes before an earlier one. -/
def Respects (R : String → String → Prop)
    (results : List (String × Except NodeFault Outcome)) : Prop :=
  results.Pairwise fun x y => ¬ R y.1 x.1

/-- The results that write a key stand in the order of `R` if any two of them are comparable. -/
theorem Respects.writers {R : String → String → Prop} (h : Respects R results)
    (hnodup : (results.map (·.1)).Nodup)
    (hcomp : ∀ x ∈ results, ∀ y ∈ results, writes key x → writes key y → x.1 ≠ y.1 →
      R x.1 y.1 ∨ R y.1 x.1) :
    (results.filter (writes key)).Pairwise fun x y => R x.1 y.1 := by
  have hne : results.Pairwise fun x y => x.1 ≠ y.1 := List.pairwise_map.mp hnodup
  refine ((h.and hne).filter _).imp_of_mem ?_
  rintro x y hx hy ⟨hnot, hxy⟩
  obtain ⟨hx, hwx⟩ := List.mem_filter.mp hx
  obtain ⟨hy, hwy⟩ := List.mem_filter.mp hy
  exact (hcomp x hx y hy hwx hwy hxy).resolve_right hnot

/-- Two orders of results give a key the same value if the same results write it, and any two that
do are comparable in a relation that both orders respect. -/
theorem get?_merged_congr {R : String → String → Prop} (hasymm : ∀ u v, R u v → ¬ R v u)
    (hresults : (results.map (·.1)).Nodup) (hothers : (others.map (·.1)).Nodup)
    (hr : Respects R results) (ho : Respects R others)
    (hmem : ∀ x, writes key x → (x ∈ results ↔ x ∈ others))
    (hcomp : ∀ x ∈ results, ∀ y ∈ results, writes key x → writes key y → x.1 ≠ y.1 →
      R x.1 y.1 ∨ R y.1 x.1) :
    (merged results).get? key = (merged others).get? key := by
  have hcomp' : ∀ x ∈ others, ∀ y ∈ others, writes key x → writes key y → x.1 ≠ y.1 →
      R x.1 y.1 ∨ R y.1 x.1 := fun x hx y hy hwx hwy =>
    hcomp x ((hmem x hwx).mpr hx) y ((hmem y hwy).mpr hy) hwx hwy
  have hperm : (results.filter (writes key)).Perm (others.filter (writes key)) := by
    refine (List.perm_ext_iff_of_nodup ((List.Nodup.of_map _ hresults).filter _)
      ((List.Nodup.of_map _ hothers).filter _)).mpr fun x => ?_
    rw [List.mem_filter, List.mem_filter]
    exact ⟨fun ⟨hx, hw⟩ => ⟨(hmem x hw).mp hx, hw⟩, fun ⟨hx, hw⟩ => ⟨(hmem x hw).mpr hx, hw⟩⟩
  have heq : results.filter (writes key) = others.filter (writes key) :=
    hperm.eq_of_pairwise (fun x y _ _ hxy hyx => absurd hyx (hasymm _ _ hxy))
      (hr.writers hresults hcomp) (ho.writers hothers hcomp')
  rw [get?_merged_filter results, get?_merged_filter others, heq]

/-- What a node gets to see of the input and the state of a run. -/
def Node.view (node : Node) (input state : Fields) : Fields :=
  if node.type = .start then input
  else if node.usageFields.isEmpty then state
  else state.restrict node.usageFields

/-- A node that is no start node sees what the state has for the keys that it reads. -/
theorem Node.view_congr {node : Node} {input : Fields}
    (h : ∀ key, node.type ≠ .start → node.usageFields = [] ∨ key ∈ node.usageFields →
      (merged results).get? key = (merged others).get? key) :
    node.view input (merged results) = node.view input (merged others) := by
  unfold Node.view
  split
  · rfl
  · rename_i ht
    split
    · rename_i hu
      exact (merged_sorted _).ext (merged_sorted _) fun key =>
        h key ht (Or.inl (List.isEmpty_iff.mp hu))
    · refine ((merged_sorted _).restrict _).ext ((merged_sorted _).restrict _) fun key => ?_
      rw [Fields.get?_restrict, Fields.get?_restrict]
      split
      · exact h key ht (Or.inr ‹_›)
      · rfl

end Workflow
