import Workflow.Definition
import Workflow.Proofs.Node.Written

/-! Workflows in texts: a workflow is read back from its text, in whatever order the members of its
parts are written. -/
namespace Workflow

open Json

/-! ### Edges -/

namespace Edge

def members (edge : Edge) : Fields :=
  [("id", .str edge.id), ("source", .str edge.source), ("target", .str edge.target)]
    ++ optionalField "sourceHandle" .str edge.sourceHandle
    ++ optionalField "targetHandle" .str edge.targetHandle

theorem members_nodup (edge : Edge) : (edge.members.map (·.1)).Nodup := by
  unfold members
  cases edge.sourceHandle <;> cases edge.targetHandle <;> simp [optionalField]

theorem toJson_written (edge : Edge) : ∃ fields : Fields, fields.Perm edge.members ∧
    edge.toJson = .obj fields := ⟨_, Fields.ofList_perm edge.members_nodup, rfl⟩

/-- The draft of the edge when the members of the given keys have been read. -/
def drafted (edge : Edge) (keys : List String) : Draft where
  id := if "id" ∈ keys then some edge.id else none
  source := if "source" ∈ keys then some edge.source else none
  target := if "target" ∈ keys then some edge.target else none
  sourceHandle := if "sourceHandle" ∈ keys then some edge.sourceHandle else none
  targetHandle := if "targetHandle" ∈ keys then some edge.targetHandle else none

variable {edge : Edge}

theorem fills {depth : ℕ} : ∀ kv ∈ edge.members,
    Fills slots edge.drafted kv.1 (.text depth kv.2) := by
  intro kv hkv
  simp only [members, List.mem_append, List.mem_cons, List.not_mem_nil, or_false] at hkv
  rcases hkv with ((rfl | rfl | rfl) | hkv) | hkv
  · exact fills_of (reads_text rfl) rfl fun keys hkeys => by simp [drafted, hkeys]
  · exact fills_of (reads_text rfl) rfl fun keys hkeys => by simp [drafted, hkeys]
  · exact fills_of (reads_text rfl) rfl fun keys hkeys => by simp [drafted, hkeys]
  · cases hs : edge.sourceHandle with
    | none => simp [hs, optionalField] at hkv
    | some handle =>
      obtain rfl : kv = ("sourceHandle", .str handle) := by simpa [hs, optionalField] using hkv
      have hread : Reads readText handle (.text depth (.str handle)) := reads_text rfl
      exact fills_of (hread.some (j := .str handle) rfl Json.noConfusion) rfl
        fun keys hkeys => by simp [drafted, hkeys, hs]
  · cases ht : edge.targetHandle with
    | none => simp [ht, optionalField] at hkv
    | some handle =>
      obtain rfl : kv = ("targetHandle", .str handle) := by simpa [ht, optionalField] using hkv
      have hread : Reads readText handle (.text depth (.str handle)) := reads_text rfl
      exact fills_of (hread.some (j := .str handle) rfl Json.noConfusion) rfl
        fun keys hkeys => by simp [drafted, hkeys, ht]

/-- An edge is read from its members in any order. -/
theorem reads {depth : ℕ} {fields : Fields} (hfields : fields.Perm edge.members) :
    Reads read edge (.text (depth + 1) (.obj fields)) := by
  have hkeys := hfields.map (·.1)
  have hrecord : Reads (readRecord "struct Edge" slots (edge.drafted []))
      (edge.drafted (fields.map (·.1)).reverse) (.text (depth + 1) (.obj fields)) :=
    reads_record _ rfl (Nat.succ_ne_zero depth) (hkeys.nodup_iff.mpr edge.members_nodup)
      fun kv hkv => fills kv (hfields.mem_iff.mp hkv)
  have hmem : ∀ key ∈ edge.members.map (·.1), key ∈ (fields.map (·.1)).reverse := fun key hkey =>
    List.mem_reverse.mpr (hkeys.mem_iff.mpr hkey)
  have hid := hmem "id" (by simp [members])
  have hsource := hmem "source" (by simp [members])
  have htarget := hmem "target" (by simp [members])
  have hsourceHandle : (if "sourceHandle" ∈ (fields.map (·.1)).reverse then some edge.sourceHandle
      else none).getD none = edge.sourceHandle :=
    getD_optional fun handle hhandle => hmem _ (by simp [members, optionalField, hhandle])
  have htargetHandle : (if "targetHandle" ∈ (fields.map (·.1)).reverse then some edge.targetHandle
      else none).getD none = edge.targetHandle :=
    getD_optional fun handle hhandle => hmem _ (by simp [members, optionalField, hhandle])
  refine hrecord.andThen ?_
  simp only [drafted, if_pos hid, if_pos hsource, if_pos htarget, hsourceHandle, htargetHandle,
    required, bind, Except.bind, pure, Except.pure, Option.getD_some]

end Edge

/-! ### Workflows -/

namespace Definition

/-- The members of a workflow, for objects that stand for its nodes and its edges. -/
def membersOf (d : Definition) (nodes edges : List Json) : Fields :=
  [("id", .str d.id), ("name", nullable .str d.name), ("nodes", .arr nodes), ("edges", .arr edges)]

/-- A value that shows the workflow: it has the members of the workflow, and the objects for its
nodes and its edges have theirs, in any order. -/
def Written (d : Definition) (j : Json) : Prop :=
  ∃ nodes edges : List Fields, ∃ fields : Fields, j = .obj fields ∧
    List.Forall₂ (fun node fields => fields.Perm node.members) d.nodes nodes ∧
    List.Forall₂ (fun edge fields => fields.Perm edge.members) d.edges edges ∧
    fields.Perm (d.membersOf (nodes.map .obj) (edges.map .obj))

/-- The draft of the workflow when the members of the given keys have been read. -/
def drafted (d : Definition) (keys : List String) : Draft where
  id := if "id" ∈ keys then some d.id else none
  name := if "name" ∈ keys then some d.name else none
  nodes := if "nodes" ∈ keys then some d.nodes else none
  edges := if "edges" ∈ keys then some d.edges else none

/-- A workflow whose nodes nest no more levels than a text may, their numbers being as `good` and
`fine` say. -/
def Within (good : Binary → Prop) (fine : Single → Prop) (d : Definition) : Prop :=
  ∀ node ∈ d.nodes, node.Within good fine 124

/-- A workflow whose nodes nest no more levels than a text may, whatever its numbers are. -/
abbrev Fits : Definition → Prop := Within (fun _ => True) fun _ => True

/-- A workflow whose text can be read back. -/
abbrev Legible : Definition → Prop := Within (fun x => (Number.real x).ReadsBack) Single.ReadsBack

variable {d : Definition}

theorem exists_objects {α : Type} {encode : α → Json} {R : α → Fields → Prop}
    (h : ∀ a, ∃ fields, R a fields ∧ encode a = .obj fields) (as : List α) :
    ∃ objects : List Fields, List.Forall₂ R as objects ∧ as.map encode = objects.map .obj := by
  induction as with
  | nil => exact ⟨[], .nil, rfl⟩
  | cons a as ih =>
    obtain ⟨objects, hobjects, hmap⟩ := ih
    obtain ⟨fields, hfields, ha⟩ := h a
    exact ⟨fields :: objects, .cons hfields hobjects, by rw [List.map_cons, ha, hmap]; rfl⟩

theorem toJson_written (d : Definition) : d.Written d.toJson := by
  obtain ⟨nodes, hnodes, hnodesMap⟩ := exists_objects Node.toJson_written d.nodes
  obtain ⟨edges, hedges, hedgesMap⟩ := exists_objects Edge.toJson_written d.edges
  refine ⟨nodes, edges, _, rfl, hnodes, hedges, ?_⟩
  rw [← hnodesMap, ← hedgesMap]
  exact Fields.ofList_perm (by simp)

theorem Legible.reads (h : d.Legible) {j : Json} (hj : d.Written j) :
    Reads read d (.text 127 j) := by
  obtain ⟨nodes, edges, fields, rfl, hnodes, hedges, hfields⟩ := hj
  have hkeys := hfields.map (·.1)
  have hfills : ∀ kv ∈ d.membersOf (nodes.map .obj) (edges.map .obj),
      Fills slots d.drafted kv.1 (.text 126 kv.2) := by
    intro kv hkv
    simp only [membersOf, List.mem_cons, List.not_mem_nil, or_false] at hkv
    rcases hkv with rfl | rfl | rfl | rfl
    · exact fills_of (reads_text rfl) rfl fun keys hkeys => by simp [drafted, hkeys]
    · exact fills_of (Payload.reads_nullable_str rfl) rfl
        fun keys hkeys => by simp [drafted, hkeys]
    · have hread : Reads (readList Node.read) d.nodes (.text 126 (.arr (nodes.map .obj))) := by
        refine reads_list rfl (Nat.succ_ne_zero _) (List.forall₂_map_right_iff.mpr ?_)
        exact ((List.forall₂_and_left _ _).mpr ⟨h, hnodes⟩).imp fun node fields hnode =>
          Node.Legible.reads hnode.1 hnode.2
      exact fills_of hread rfl fun keys hkeys => by simp [drafted, hkeys]
    · have hread : Reads (readList Edge.read) d.edges (.text 126 (.arr (edges.map .obj))) := by
        refine reads_list rfl (Nat.succ_ne_zero _) (List.forall₂_map_right_iff.mpr ?_)
        exact hedges.imp fun edge fields hedge => Edge.reads hedge
      exact fills_of hread rfl fun keys hkeys => by simp [drafted, hkeys]
  have hrecord : Reads (readRecord "struct Workflow" slots (d.drafted []))
      (d.drafted (fields.map (·.1)).reverse) (.text 127 (.obj fields)) :=
    reads_record _ rfl (Nat.succ_ne_zero _) (hkeys.nodup_iff.mpr (by simp [membersOf]))
      fun kv hkv => hfills kv (hfields.mem_iff.mp hkv)
  have hmem : ∀ key ∈ ["id", "name", "nodes", "edges"], key ∈ (fields.map (·.1)).reverse :=
    fun key hkey => List.mem_reverse.mpr (hkeys.mem_iff.mpr hkey)
  have hid := hmem "id" (by decide)
  have hname := hmem "name" (by decide)
  have hnodesKey := hmem "nodes" (by decide)
  have hedgesKey := hmem "edges" (by decide)
  refine hrecord.andThen ?_
  simp only [drafted, if_pos hid, if_pos hname, if_pos hnodesKey, if_pos hedgesKey, required, bind,
    Except.bind, pure, Except.pure, Option.getD_some]

end Definition
end Workflow
