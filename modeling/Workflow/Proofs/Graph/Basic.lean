import Workflow.Graph.Basic
import Mathlib.Data.List.Nodup

/-! Nodes of a graph by their ids, and arcs by their places. -/
namespace Workflow

theorem mem_indicesFrom {α : Type} {p : α → Bool} {k i : ℕ} {as : List α} :
    i ∈ indicesFrom p k as ↔ k ≤ i ∧ ∃ a, as[i - k]? = some a ∧ p a := by
  induction as generalizing k with
  | nil => simp [indicesFrom]
  | cons a as ih =>
    have hstep : i ∈ indicesFrom p (k + 1) as ↔
        k < i ∧ ∃ b, (a :: as)[i - k]? = some b ∧ p b := by
      rw [ih]
      constructor
      · rintro ⟨hk, b, hb, hp⟩
        refine ⟨hk, b, ?_, hp⟩
        rwa [show i - k = (i - (k + 1)) + 1 by omega, List.getElem?_cons_succ]
      · rintro ⟨hk, b, hb, hp⟩
        refine ⟨hk, b, ?_, hp⟩
        rwa [show i - k = (i - (k + 1)) + 1 by omega, List.getElem?_cons_succ] at hb
    by_cases hik : i = k
    · subst hik
      rw [indicesFrom]
      split <;> simp_all
    · have hlt : k ≤ i ↔ k < i := by omega
      rw [indicesFrom, hlt]
      split <;> simp [hstep, hik]

theorem indicesFrom_ascending {α : Type} (p : α → Bool) (k : ℕ) (as : List α) :
    (indicesFrom p k as).Pairwise (· < ·) := by
  induction as generalizing k with
  | nil => exact List.Pairwise.nil
  | cons a as ih =>
    rw [indicesFrom]
    split
    · exact List.pairwise_cons.mpr ⟨fun i hi => (mem_indicesFrom.mp hi).1, ih (k + 1)⟩
    · exact ih (k + 1)

theorem indicesFrom_nodup {α : Type} (p : α → Bool) (k : ℕ) (as : List α) :
    (indicesFrom p k as).Nodup := (indicesFrom_ascending p k as).imp Nat.ne_of_lt

theorem length_indicesFrom {α : Type} (p : α → Bool) (k : ℕ) (as : List α) :
    (indicesFrom p k as).length = as.countP p := by
  induction as generalizing k with
  | nil => rfl
  | cons a as ih =>
    rw [indicesFrom, List.countP_cons]
    split <;> simp [ih]

namespace Graph

/-- The ids of the executable nodes. -/
def ids (g : Graph) : List String := g.nodes.map (·.id)

theorem mem_outgoing {g : Graph} {id : String} {i : ℕ} :
    i ∈ g.outgoing id ↔ ∃ a, g.arcs[i]? = some a ∧ a.source = id := by
  simp [outgoing, mem_indicesFrom]

theorem mem_incoming {g : Graph} {id : String} {i : ℕ} :
    i ∈ g.incoming id ↔ ∃ a, g.arcs[i]? = some a ∧ a.target = id := by
  simp [incoming, mem_indicesFrom]

theorem mem_outgoing_iff_source {g : Graph} {id : String} {i : Fin g.arcs.length} :
    (i : ℕ) ∈ g.outgoing id ↔ (g.arcs.get i).source = id := by simp [mem_outgoing]

theorem mem_incoming_iff_target {g : Graph} {id : String} {i : Fin g.arcs.length} :
    (i : ℕ) ∈ g.incoming id ↔ (g.arcs.get i).target = id := by simp [mem_incoming]

theorem inDegree_eq_countP (g : Graph) (id : String) :
    g.inDegree id = g.arcs.countP (·.target == id) := length_indicesFrom _ 0 g.arcs

theorem outgoing_nodup (g : Graph) (id : String) : (g.outgoing id).Nodup :=
  indicesFrom_nodup _ 0 g.arcs

theorem node?_id {g : Graph} {id : String} {n : Node} (h : g.node? id = some n) :
    n.id = id := by
  simpa using List.find?_some h

theorem node?_mem {g : Graph} {id : String} {n : Node} (h : g.node? id = some n) :
    n ∈ g.nodes := List.mem_of_find?_eq_some h

theorem exists_node? {g : Graph} {id : String} (h : id ∈ g.ids) :
    ∃ n, g.node? id = some n := by
  obtain ⟨n, hn, rfl⟩ := List.mem_map.mp h
  exact Option.isSome_iff_exists.mp (List.find?_isSome.mpr ⟨n, hn, by simp⟩)

end Graph
end Workflow
