import Workflow.Proofs.Graph.Listing

/-! The order in which the nodes of a graph are put. Every arc leads forward in it, and
of all orders with that property it is the lowest, since a node is placed as soon as no
lower one can be. -/
namespace Workflow.Graph

/-- The nodes, each one once, so that the source of every arc comes before its target. -/
structure Topological (arcs : List Arc) (ids order : List String) : Prop where
  nodup : order.Nodup
  mem_iff : ∀ v, v ∈ order ↔ v ∈ ids
  forward : ∀ a ∈ arcs, order.idxOf a.source < order.idxOf a.target

/-- Whoever comes next is entered by arcs from those before it only. -/
theorem Topological.source_mem {arcs : List Arc} {ids before after : List String} {v : String}
    (h : Topological arcs ids (before ++ v :: after)) {a : Arc} (ha : a ∈ arcs)
    (hv : a.target = v) : a.source ∈ before := by
  have hfresh : v ∉ before := fun hmem =>
    List.disjoint_of_nodup_append h.nodup hmem List.mem_cons_self
  have hlt := h.forward a ha
  rw [hv, List.idxOf_append_of_notMem hfresh, List.idxOf_cons_self, Nat.add_zero] at hlt
  by_contra hno
  rw [List.idxOf_append_of_notMem hno] at hlt
  omega

/-- The one list of ids is at most the other one, as words are in a dictionary. -/
def LexLe (xs ys : List String) : Prop := xs = ys ∨ List.Lex (· < ·) xs ys

theorem LexLe.nil (ys : List String) : LexLe [] ys := by
  cases ys with
  | nil => exact Or.inl rfl
  | cons y ys => exact Or.inr .nil

theorem LexLe.cons {xs ys : List String} (x : String) (h : LexLe xs ys) :
    LexLe (x :: xs) (x :: ys) := by
  obtain rfl | h := h
  · exact Or.inl rfl
  · exact Or.inr (.cons h)

/-! ### Increasing lists -/

theorem mem_insertSorted {u v : String} {ids : List String} :
    u ∈ insertSorted v ids ↔ u = v ∨ u ∈ ids := by
  induction ids with
  | nil => simp [insertSorted]
  | cons x ids ih =>
    rw [insertSorted]
    split
    · exact List.mem_cons
    · rw [List.mem_cons, ih, List.mem_cons]
      exact or_left_comm

theorem insertSorted_increasing {v : String} {ids : List String} (h : ids.Pairwise (· < ·))
    (hv : v ∉ ids) : (insertSorted v ids).Pairwise (· < ·) := by
  induction ids with
  | nil => exact List.pairwise_singleton _ _
  | cons x ids ih =>
    obtain ⟨hx, hids⟩ := List.pairwise_cons.mp h
    obtain ⟨hne, hv⟩ := not_or.mp (mt List.mem_cons.mpr hv)
    rw [insertSorted]
    split
    · rename_i hlt
      refine List.pairwise_cons.mpr ⟨List.forall_mem_cons.mpr ⟨hlt, fun u hu => ?_⟩, h⟩
      exact String.lt_trans hlt (hx u hu)
    · rename_i hlt
      refine List.pairwise_cons.mpr ⟨fun u hu => ?_, ih hids hv⟩
      rcases mem_insertSorted.mp hu with rfl | hu
      · by_contra hge
        exact hne (String.le_antisymm (String.not_lt.mp hge) (String.not_lt.mp hlt))
      · exact hx u hu

theorem lookup_map_of_mem {ids : List String} (f : String → ℕ) {v : String} (hv : v ∈ ids) :
    (ids.map fun u => (u, f u)).lookup v = some (f v) := by
  induction ids with
  | nil => cases hv
  | cons u ids ih =>
    rw [List.map_cons, List.lookup_cons]
    by_cases huv : v = u
    · rw [huv]
      simp
    · rw [beq_false_of_ne huv]
      exact ih ((List.mem_cons.mp hv).resolve_left huv)

namespace Placing

/-! ### Taking arcs away -/

/-- The numbers count the arcs that are left, and the nodes that wait for none of them are ready, in
increasing order, unless they are gone. -/
structure Counts (ids : List String) (left : List Arc) (gone : List String) (p : Placing) :
    Prop where
  degrees_eq : p.degrees = ids.map fun v => (v, left.countP (·.target == v))
  ready_increasing : p.ready.Pairwise (· < ·)
  mem_ready_iff : ∀ v, v ∈ p.ready ↔ v ∈ ids ∧ v ∉ gone ∧ ∀ a ∈ left, a.target ≠ v
  gone_free : ∀ a ∈ left, a.target ∉ gone

theorem countP_target_eq_zero_iff {left : List Arc} {v : String} :
    left.countP (·.target == v) = 0 ↔ ∀ a ∈ left, a.target ≠ v := by simp [List.countP_eq_zero]

namespace Counts

variable {ids gone : List String} {left : List Arc} {p : Placing}

theorem lookup_eq (h : Counts ids left gone p) {v : String} (hv : v ∈ ids) :
    p.degrees.lookup v = some (left.countP (·.target == v)) := by
  rw [h.degrees_eq, lookup_map_of_mem _ hv]

theorem perm (h : Counts ids left gone p) {more : List Arc} (hperm : left.Perm more) :
    Counts ids more gone p where
  degrees_eq := by
    rw [h.degrees_eq]
    exact List.map_congr_left fun v _ => congrArg (Prod.mk v) (hperm.countP_eq _)
  ready_increasing := h.ready_increasing
  mem_ready_iff v := by simp only [h.mem_ready_iff, hperm.mem_iff]
  gone_free a ha := h.gone_free a (hperm.mem_iff.mpr ha)

/-- The target of an arc gets ready when the arc was the last one to it. -/
theorem release {a : Arc} (h : Counts ids (a :: left) gone p) (ha : a.target ∈ ids) :
    Counts ids left gone (p.release a.target) := by
  have hlast : p.degrees.lookup a.target = some 1 ↔ ∀ b ∈ left, b.target ≠ a.target := by
    rw [h.lookup_eq ha, List.countP_cons, if_pos (beq_self_eq_true _), Option.some_inj,
      Nat.add_eq_right, countP_target_eq_zero_iff]
  have hwaits : a.target ∉ p.ready := fun hmem =>
    ((h.mem_ready_iff _).mp hmem).2.2 a List.mem_cons_self rfl
  have hfree := h.gone_free a List.mem_cons_self
  have hready : ∀ v ≠ a.target, (v ∈ p.ready ↔ v ∈ ids ∧ v ∉ gone ∧ ∀ b ∈ left, b.target ≠ v) := by
    intro v hv
    rw [h.mem_ready_iff, List.forall_mem_cons]
    exact and_congr_right fun _ => and_congr_right fun _ => and_iff_right hv.symm
  rw [release_eq]
  refine ⟨?_, ?_, fun v => ?_, fun b hb => h.gone_free b (List.mem_cons_of_mem a hb)⟩
  · show lower a.target p.degrees = _
    rw [h.degrees_eq, lower, List.map_map]
    refine List.map_congr_left fun v _ => ?_
    by_cases hv : v = a.target
    · simp [hv]
    · simp [hv, Ne.symm hv]
  · show (ite _ _ _ : List String).Pairwise _
    split
    · exact insertSorted_increasing h.ready_increasing hwaits
    · exact h.ready_increasing
  · show v ∈ (ite _ _ _ : List String) ↔ _
    by_cases hv : v = a.target
    · subst hv
      split
      · rename_i hone
        exact ⟨fun _ => ⟨ha, hfree, hlast.mp hone⟩, fun _ => mem_insertSorted.mpr (Or.inl rfl)⟩
      · rename_i hmore
        exact ⟨fun hmem => absurd hmem hwaits, fun hall => absurd (hlast.mpr hall.2.2) hmore⟩
    · rw [← hready v hv]
      split
      · exact mem_insertSorted.trans (or_iff_right hv)
      · rfl

theorem releases {out : List Arc} (h : Counts ids (out ++ left) gone p)
    (hout : ∀ a ∈ out, a.target ∈ ids) :
    Counts ids left gone (out.foldl (fun p a => p.release a.target) p) := by
  induction out generalizing p with
  | nil => exact h
  | cons a out ih =>
    obtain ⟨ha, hout⟩ := List.forall_mem_cons.mp hout
    exact ih (h.release ha) hout

end Counts

theorem foldl_release_placed (out : List Arc) (p : Placing) :
    (out.foldl (fun p a => p.release a.target) p).placed = p.placed := by
  induction out generalizing p with
  | nil => rfl
  | cons a out ih => rw [List.foldl_cons, ih, release_eq]

theorem steps_of_ready_eq_nil {arcs : List Arc} {p : Placing} (h : p.ready = []) (n : ℕ) :
    p.steps arcs n = p := by
  induction n with
  | zero => rfl
  | succ n ih => rw [steps, step, h, ih]

/-! ### Placing a node -/

/-- The arcs whose sources are not placed. -/
def pendingArcs (arcs : List Arc) (placed : List String) : List Arc :=
  arcs.filter fun a => !placed.contains a.source

/-- What holds before a node is placed and after it. -/
structure Sound (arcs : List Arc) (ids : List String) (p : Placing) : Prop where
  counts : Counts ids (pendingArcs arcs p.placed) p.placed p
  nodup : p.placed.Nodup
  subset : p.placed ⊆ ids
  forward : ∀ a ∈ arcs, a.target ∈ p.placed → p.placed.idxOf a.source < p.placed.idxOf a.target

variable {arcs : List Arc} {ids : List String} {p : Placing}

theorem mem_pendingArcs {placed : List String} {a : Arc} :
    a ∈ pendingArcs arcs placed ↔ a ∈ arcs ∧ a.source ∉ placed := by simp [pendingArcs]

/-- Placing a node leaves the arcs that neither the nodes before it nor it itself are sources of. -/
theorem pendingArcs_perm {placed : List String} {v : String} (hv : v ∉ placed) :
    (pendingArcs arcs placed).Perm
      (arcs.filter (·.source == v) ++ pendingArcs arcs (placed ++ [v])) := by
  have hout : (pendingArcs arcs placed).filter (·.source == v) = arcs.filter (·.source == v) := by
    rw [pendingArcs, List.filter_filter]
    refine List.filter_congr fun a _ => ?_
    by_cases hav : a.source = v
    · simp [hav, hv]
    · simp [hav]
  have hrest : (pendingArcs arcs placed).filter (fun a => !(a.source == v)) =
      pendingArcs arcs (placed ++ [v]) := by
    rw [pendingArcs, List.filter_filter]
    refine List.filter_congr fun a _ => ?_
    by_cases hav : a.source = v <;> simp [hav]
  rw [← hout, ← hrest]
  exact (List.filter_append_perm _ _).symm

theorem sound_initial (hids : ids.Pairwise (· < ·)) : Sound arcs ids (initial arcs ids) where
  counts := by
    have hall : pendingArcs arcs (initial arcs ids).placed = arcs := by simp [pendingArcs, initial]
    rw [hall]
    refine ⟨?_, ?_, fun v => ?_, fun a _ => List.not_mem_nil⟩
    · simp only [initial, List.countP_eq_length_filter]
    · simp only [initial, List.filter_map, List.map_map]
      exact List.pairwise_map.mpr (hids.sublist List.filter_sublist)
    · simp only [initial, List.filter_map, List.map_map, ← countP_target_eq_zero_iff,
        List.countP_eq_length_filter]
      simp
  nodup := List.nodup_nil
  subset := List.nil_subset ids
  forward _ _ h := absurd h List.not_mem_nil

namespace Sound

section Head

variable {v : String} {ready : List String}

/-- The node that is placed next is one that no arc from an unplaced node enters. -/
theorem head (h : Sound arcs ids p) (hready : p.ready = v :: ready) :
    v ∈ ids ∧ v ∉ p.placed ∧ ∀ a ∈ arcs, a.target = v → a.source ∈ p.placed := by
  obtain ⟨hv, hfresh, hfree⟩ := (h.counts.mem_ready_iff v).mp (hready ▸ List.mem_cons_self)
  refine ⟨hv, hfresh, fun a ha hav => ?_⟩
  by_contra hno
  exact hfree a (mem_pendingArcs.mpr ⟨ha, hno⟩) hav

/-- It is the lowest of those nodes. -/
theorem head_lowest (h : Sound arcs ids p) (hready : p.ready = v :: ready) {u : String}
    (hu : u ∈ ids) (hfresh : u ∉ p.placed)
    (hfree : ∀ a ∈ arcs, a.target = u → a.source ∈ p.placed) :
    ¬ u < v := by
  have hmem : u ∈ p.ready := by
    refine (h.counts.mem_ready_iff u).mpr ⟨hu, hfresh, fun a ha hau => ?_⟩
    obtain ⟨ha, hsource⟩ := mem_pendingArcs.mp ha
    exact hsource (hfree a ha hau)
  have hincreasing := h.counts.ready_increasing
  rw [hready] at hmem hincreasing
  rcases List.mem_cons.mp hmem with rfl | hmem
  · exact String.lt_irrefl _
  · exact String.lt_asymm (List.rel_of_pairwise_cons hincreasing hmem)

/-- When a node is taken out of those that are ready, it is gone. -/
theorem counts_head (h : Sound arcs ids p) (hready : p.ready = v :: ready) :
    Counts ids (arcs.filter (·.source == v) ++ pendingArcs arcs (p.placed ++ [v]))
      (p.placed ++ [v]) { p with ready } := by
  obtain ⟨-, hfresh, hfree⟩ := (h.counts.mem_ready_iff v).mp (hready ▸ List.mem_cons_self)
  have hincreasing := h.counts.ready_increasing
  rw [hready, List.pairwise_cons] at hincreasing
  suffices hleft : Counts ids (pendingArcs arcs p.placed) (p.placed ++ [v]) { p with ready } from
    hleft.perm (pendingArcs_perm hfresh)
  refine ⟨h.counts.degrees_eq, hincreasing.2, fun u => ?_, fun a ha hgone => ?_⟩
  · show u ∈ ready ↔ _
    have hu := h.counts.mem_ready_iff u
    rw [hready, List.mem_cons] at hu
    rw [List.mem_append, List.mem_singleton, not_or]
    constructor
    · intro hmem
      obtain ⟨hids, hplaced, hleft⟩ := hu.mp (Or.inr hmem)
      exact ⟨hids, ⟨hplaced, fun heq => String.lt_irrefl v (heq ▸ hincreasing.1 u hmem)⟩, hleft⟩
    · rintro ⟨hids, ⟨hplaced, hne⟩, hleft⟩
      exact (hu.mpr ⟨hids, hplaced, hleft⟩).resolve_left hne
  · rcases List.mem_append.mp hgone with hgone | hgone
    · exact h.counts.gone_free a ha hgone
    · exact hfree a ha (List.mem_singleton.mp hgone)

theorem step_placed (hready : p.ready = v :: ready) :
    (p.step arcs).placed = p.placed ++ [v] := by
  simp [Placing.step, hready, foldl_release_placed]

end Head

theorem step (h : Sound arcs ids p) (htargets : ∀ a ∈ arcs, a.target ∈ ids) :
    Sound arcs ids (p.step arcs) := by
  cases hready : p.ready with
  | nil =>
    rw [Placing.step, hready]
    exact h
  | cons v ready =>
    obtain ⟨hv, hfresh, hsources⟩ := h.head hready
    have hplaced : (p.step arcs).placed = p.placed ++ [v] := step_placed hready
    have hcounts := (h.counts_head hready).releases fun a ha =>
      htargets a (List.mem_of_mem_filter ha)
    refine ⟨?_, ?_, ?_, ?_⟩
    · rw [hplaced]
      simp only [Placing.step, hready]
      exact ⟨hcounts.degrees_eq, hcounts.ready_increasing, hcounts.mem_ready_iff, hcounts.gone_free⟩
    · rw [hplaced]
      exact h.nodup.append (List.nodup_singleton v) (List.disjoint_singleton.mpr hfresh)
    · rw [hplaced]
      exact List.append_subset.mpr ⟨h.subset, List.cons_subset.mpr ⟨hv, List.nil_subset ids⟩⟩
    · rw [hplaced]
      intro a ha hmem
      rcases List.mem_append.mp hmem with hmem | hmem
      · have hlt := h.forward a ha hmem
        have hsource : a.source ∈ p.placed :=
          List.idxOf_lt_length_iff.mp (hlt.trans (List.idxOf_lt_length_of_mem hmem))
        rwa [List.idxOf_append_of_mem hsource, List.idxOf_append_of_mem hmem]
      · rw [List.mem_singleton] at hmem
        have hsource := hsources a ha hmem
        rw [List.idxOf_append_of_mem hsource, hmem, List.idxOf_append_of_notMem hfresh]
        exact Nat.lt_add_right _ (List.idxOf_lt_length_of_mem hsource)

theorem steps (h : Sound arcs ids p) (htargets : ∀ a ∈ arcs, a.target ∈ ids) (n : ℕ) :
    Sound arcs ids (p.steps arcs n) := by
  induction n generalizing p with
  | zero => exact h
  | succ n ih => exact ih (h.step htargets)

/-- Without cycles some node is ready as long as any is to be placed. -/
theorem exists_ready (h : Sound arcs ids p) (hsources : ∀ a ∈ arcs, a.source ∈ ids)
    (hacyclic : Acyclic arcs) {v : String} (hv : v ∈ ids) (hfresh : v ∉ p.placed) :
    p.ready ≠ [] := by
  obtain ⟨u, ⟨hu, hunplaced⟩, hfirst⟩ := hacyclic.wellFounded.has_min
    {v | v ∈ ids ∧ v ∉ p.placed} ⟨v, hv, hfresh⟩
  refine List.ne_nil_of_mem ((h.counts.mem_ready_iff u).mpr ⟨hu, hunplaced, fun a ha hau => ?_⟩)
  obtain ⟨ha, hsource⟩ := mem_pendingArcs.mp ha
  exact hfirst a.source ⟨hsources a ha, hsource⟩ (.single ⟨a, ha, rfl, hau⟩)

/-- As many more steps as nodes are missing place all of them. -/
theorem subset_steps (h : Sound arcs ids p) (hsources : ∀ a ∈ arcs, a.source ∈ ids)
    (htargets : ∀ a ∈ arcs, a.target ∈ ids) (hacyclic : Acyclic arcs) (n : ℕ)
    (hn : ids.length ≤ p.placed.length + n) : ids ⊆ (p.steps arcs n).placed := by
  induction n generalizing p with
  | zero => exact ((h.nodup.subperm h.subset).perm_of_length_le hn).symm.subset
  | succ n ih =>
    cases hready : p.ready with
    | nil =>
      rw [steps_of_ready_eq_nil hready]
      exact fun v hv => by_contra fun hfresh => h.exists_ready hsources hacyclic hv hfresh hready
    | cons v ready =>
      refine ih (h.step htargets) ?_
      rw [step_placed hready, List.length_append, List.length_singleton]
      omega

/-- What is placed from now on is at most what any other order goes on with. -/
theorem le_of_topological (h : Sound arcs ids p) (htargets : ∀ a ∈ arcs, a.target ∈ ids) (n : ℕ) :
    ∃ rest, (p.steps arcs n).placed = p.placed ++ rest ∧
      ∀ order, Topological arcs ids (p.placed ++ order) → LexLe rest order := by
  induction n generalizing p with
  | zero => exact ⟨[], (List.append_nil _).symm, fun order _ => .nil order⟩
  | succ n ih =>
    obtain ⟨rest, hrest, hle⟩ := ih (h.step htargets)
    cases hready : p.ready with
    | nil =>
      rw [Placing.step, hready] at hle hrest
      exact ⟨rest, by rw [Placing.steps, Placing.step, hready, hrest], hle⟩
    | cons v ready =>
      obtain ⟨hv, hfresh, -⟩ := h.head hready
      rw [step_placed hready] at hle hrest
      refine ⟨v :: rest, by rw [Placing.steps, hrest, List.append_assoc]; rfl,
        fun order horder => ?_⟩
      cases order with
      | nil => exact absurd (by simpa using (horder.mem_iff v).mpr hv) hfresh
      | cons u order =>
        have hu : u ∈ ids := (horder.mem_iff u).mp (by simp)
        have hunplaced : u ∉ p.placed := fun hmem =>
          List.disjoint_of_nodup_append horder.nodup hmem List.mem_cons_self
        have huv : ¬ u < v := h.head_lowest hready hu hunplaced fun a ha hau =>
          horder.source_mem ha hau
        by_cases hlt : v < u
        · exact Or.inr (.rel hlt)
        · obtain rfl := String.le_antisymm (String.not_lt.mp huv) (String.not_lt.mp hlt)
          refine .cons v (hle order ?_)
          rwa [List.append_assoc]

end Sound

/-- While nodes are put into order, the arcs that leave a node are taken away one by one as it is
placed. In the placing the next one leads to the target. -/
inductive Takes (arcs : List Arc) (ids : List String) : Placing → String → Prop
  | next (n : ℕ) {v : String} {ready : List String} {before after : List Arc} {a : Arc} :
    ((initial arcs ids).steps arcs n).ready = v :: ready →
    arcs.filter (·.source == v) = before ++ a :: after →
    Takes arcs ids (before.foldl (fun p a => p.release a.target)
      { (initial arcs ids).steps arcs n with ready }) a.target

/-- The number at the target counts the arc that is taken away. -/
theorem Takes.lookup_pos (hids : ids.Pairwise (· < ·)) (htargets : ∀ a ∈ arcs, a.target ∈ ids)
    {target : String} (h : Takes arcs ids p target) :
    ∃ d, p.degrees.lookup target = some d ∧ 0 < d := by
  cases h with
  | next n hready hout =>
    rename_i before after a
    have hmem : ∀ b ∈ before ++ a :: after, b.target ∈ ids := fun b hb =>
      htargets b (List.mem_of_mem_filter (hout ▸ hb))
    have hcounts := ((sound_initial hids).steps htargets n).counts_head hready
    rw [hout, List.append_assoc] at hcounts
    have hnext := hcounts.releases fun b hb => hmem b (List.mem_append_left _ hb)
    refine ⟨_, hnext.lookup_eq (hmem a (by simp)), List.countP_pos_iff.mpr ⟨a, ?_, ?_⟩⟩
    · exact List.mem_cons_self
    · exact beq_self_eq_true _

end Placing

theorem compile_ids_increasing {w : Definition} {g : Graph} (h : compile w = .ok g) :
    g.ids.Pairwise (· < ·) := by
  have hunique := (wellFormed_of_compile h).unique
  obtain ⟨start, conditions, -, rfl, -⟩ := compile_eq_ok h
  exact List.pairwise_map.mpr ((sortNodes_increasing hunique).sublist List.filter_sublist)

/-- Compiling puts the nodes into the lowest topological order. When the nodes are placed none is
left that is ready, and no number of arcs is lowered that is zero. -/
theorem compile_topoOrder {w : Definition} {g : Graph} (h : compile w = .ok g) :
    Topological g.arcs g.ids g.topoOrder ∧
    (∀ order, Topological g.arcs g.ids order → LexLe g.topoOrder order) ∧
    g.topoOrder = topologicalOrder g.arcs g.ids ∧
    ((Placing.initial g.arcs g.ids).steps g.arcs g.ids.length).ready = [] ∧
    ∀ p target, Placing.Takes g.arcs g.ids p target →
      ∃ d, p.degrees.lookup target = some d ∧ 0 < d := by
  have hg := compile_valid h
  have hids := compile_ids_increasing h
  have horder : g.topoOrder = topologicalOrder g.arcs g.ids := by
    obtain ⟨start, conditions, -, rfl, -⟩ := compile_eq_ok h
    rfl
  have hinitial : Placing.Sound g.arcs g.ids _ := Placing.sound_initial hids
  have hsound := hinitial.steps hg.target_mem g.ids.length
  have hall := hinitial.subset_steps hg.source_mem hg.target_mem hg.acyclic g.ids.length
    (Nat.le_add_left _ _)
  obtain ⟨rest, hrest, hle⟩ := hinitial.le_of_topological hg.target_mem g.ids.length
  have hplaced : topologicalOrder g.arcs g.ids = rest := hrest
  refine ⟨?_, fun order ho => ?_, horder, ?_,
    fun p target => Placing.Takes.lookup_pos hids hg.target_mem⟩
  · rw [horder]
    exact ⟨hsound.nodup, fun v => ⟨fun hv => hsound.subset hv, fun hv => hall hv⟩,
      fun a ha => hsound.forward a ha (hall (hg.target_mem a ha))⟩
  · rw [horder, hplaced]
    exact hle order ho
  · rw [List.eq_nil_iff_forall_not_mem]
    intro v hv
    obtain ⟨hmem, hfresh, -⟩ := (hsound.counts.mem_ready_iff v).mp hv
    exact hfresh (hall hmem)

/-- Two edges lead from the start node to one of the two nodes behind it. -/
def doubledWorkflow : Definition where
  id := "doubled"
  nodes := [.ofPayload "s" (.start []), .ofPayload "b" (.tool "b" .null),
    .ofPayload "a" (.tool "a" .null), .ofPayload "e" .finish]
  edges := [.between "s" "b", .between "s" "a", .between "s" "a", .between "b" "e",
    .between "a" "e"]

def doubled : Graph where
  workflowId := "doubled"
  start := "s"
  nodes := [.ofPayload "a" (.tool "a" .null), .ofPayload "b" (.tool "b" .null),
    .ofPayload "e" .finish, .ofPayload "s" (.start [])]
  arcs := [⟨"s->b", "s", "b", none⟩, ⟨"s->a", "s", "a", none⟩, ⟨"s->a", "s", "a", none⟩,
    ⟨"b->e", "b", "e", none⟩, ⟨"a->e", "a", "e", none⟩]
  standalone := []
  conditions := []
  topoOrder := ["s", "a", "b", "e"]

/-- The nodes in the middle could be the other way round. The second one of the two edges is taken
away when one arc is left. -/
theorem compile_topoOrder_of_doubled :
    compile doubledWorkflow = .ok doubled ∧
    Topological doubled.arcs doubled.ids ["s", "a", "b", "e"] ∧
    Topological doubled.arcs doubled.ids ["s", "b", "a", "e"] ∧
    LexLe ["s", "a", "b", "e"] ["s", "b", "a", "e"] ∧
    ∃ p, Placing.Takes doubled.arcs doubled.ids p "a" ∧ p.degrees.lookup "a" = some 1 ∧
      ∃ d, p.degrees.lookup "a" = some d ∧ 0 < d := by
  have hcompiled : compile doubledWorkflow = .ok doubled := by decide +kernel
  obtain ⟨htopological, hle, -, -, hpos⟩ := compile_topoOrder hcompiled
  have hother : Topological doubled.arcs doubled.ids ["s", "b", "a", "e"] := by
    refine ⟨by decide, fun v => ?_, by decide⟩
    simp [ids, doubled, Node.ofPayload]
    tauto
  have hout : doubled.arcs.filter (·.source == "s") =
      [⟨"s->b", "s", "b", none⟩, ⟨"s->a", "s", "a", none⟩] ++ ⟨"s->a", "s", "a", none⟩ :: [] := rfl
  have hready : ((Placing.initial doubled.arcs doubled.ids).steps doubled.arcs 0).ready = ["s"] :=
    rfl
  have htakes := Placing.Takes.next 0 hready hout
  exact ⟨hcompiled, htopological, hother, hle _ hother, _, htakes, by decide, hpos _ _ htakes⟩

end Workflow.Graph
