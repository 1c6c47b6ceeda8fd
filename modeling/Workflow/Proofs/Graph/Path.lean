import Workflow.Graph.Order
import Mathlib.Data.Fintype.EquivFin
import Mathlib.Data.Fintype.Sets
import Mathlib.Data.List.Nodup
import Mathlib.Data.List.Perm.Subperm
import Mathlib.Logic.Relation
import Mathlib.Order.WellFounded

/-! Paths in lists of arcs. The nodes that `reachable` lists are the ends of the paths from its
start, and a list of arcs in which `findCycle` finds nothing has no path back to where it began. -/
namespace Workflow.Graph

/-- Some arc leads from the first node to the second. -/
def Leads (arcs : List Arc) (u v : String) : Prop := ∃ a ∈ arcs, a.source = u ∧ a.target = v

/-- A path of at least one arc. -/
abbrev Path (arcs : List Arc) : String → String → Prop := Relation.TransGen (Leads arcs)

def Acyclic (arcs : List Arc) : Prop := ∀ v, ¬ Path arcs v v

/-- No arc leads out of the nodes. -/
def Closed (arcs : List Arc) (seen : List String) : Prop :=
  ∀ a ∈ arcs, a.source ∈ seen → a.target ∈ seen

theorem Leads.of_mem {arcs : List Arc} {a : Arc} (ha : a ∈ arcs) :
    Leads arcs a.source a.target := ⟨a, ha, rfl, rfl⟩

theorem Leads.mono {arcs brcs : List Arc} (h : arcs ⊆ brcs) {u v : String}
    (hl : Leads arcs u v) : Leads brcs u v := by
  obtain ⟨a, ha, hs, ht⟩ := hl
  exact ⟨a, h ha, hs, ht⟩

theorem Path.mono {arcs brcs : List Arc} (h : arcs ⊆ brcs) {u v : String}
    (hp : Path arcs u v) : Path brcs u v :=
  Relation.TransGen.mono (fun _ _ hl => Leads.mono h hl) u v hp

theorem Acyclic.mono {arcs brcs : List Arc} (h : arcs ⊆ brcs) (hb : Acyclic brcs) :
    Acyclic arcs := fun v hp => hb v (hp.mono h)

/-! ### Reachability -/

theorem spread_append (arcs : List Arc) (seen : List String) :
    ∃ added, spread arcs seen = seen ++ added := by
  unfold spread
  induction arcs generalizing seen with
  | nil => exact ⟨[], by simp⟩
  | cons a arcs ih =>
    rw [List.foldl_cons]
    split
    · obtain ⟨added, h⟩ := ih (seen ++ [a.target])
      exact ⟨a.target :: added, by rw [h]; simp⟩
    · exact ih seen

theorem subset_spread (arcs : List Arc) (seen : List String) : seen ⊆ spread arcs seen := by
  obtain ⟨added, h⟩ := spread_append arcs seen
  rw [h]
  exact List.subset_append_left seen added

theorem nodup_spread (arcs : List Arc) {seen : List String} (hs : seen.Nodup) :
    (spread arcs seen).Nodup := by
  unfold spread
  induction arcs generalizing seen with
  | nil => exact hs
  | cons a arcs ih =>
    rw [List.foldl_cons]
    split
    · rename_i h
      simp only [Bool.and_eq_true, Bool.not_eq_true', List.contains_eq_mem,
        decide_eq_true_eq, decide_eq_false_iff_not] at h
      exact ih (List.nodup_append.mpr ⟨hs, List.nodup_singleton _, by grind⟩)
    · exact ih hs

/-- What every arc passes on is passed on by spreading. -/
theorem spread_induction {arcs : List Arc} {seen : List String} {P : String → Prop}
    (hs : ∀ v ∈ seen, P v) (ha : ∀ a ∈ arcs, P a.source → P a.target) :
    ∀ v ∈ spread arcs seen, P v := by
  unfold spread
  induction arcs generalizing seen with
  | nil => exact hs
  | cons a arcs ih =>
    rw [List.foldl_cons]
    refine ih ?_ (fun b hb => ha b (List.mem_cons_of_mem a hb))
    intro v hv
    split at hv
    · rename_i h
      have hsource : P a.source := hs _ (by simpa using And.left (by simpa using h))
      rcases List.mem_append.mp hv with hv | hv
      · exact hs v hv
      · rw [List.mem_singleton.mp hv]
        exact ha a List.mem_cons_self hsource
    · exact hs v hv

/-- A round that adds nothing shows that no arc leads out. -/
theorem closed_of_spread_eq {arcs : List Arc} {seen : List String}
    (h : spread arcs seen = seen) : Closed arcs seen := by
  induction arcs generalizing seen with
  | nil => intro a ha; cases ha
  | cons a arcs ih =>
    unfold spread at h
    rw [List.foldl_cons] at h
    split at h
    · obtain ⟨added, hadded⟩ := spread_append arcs (seen ++ [a.target])
      have hl := congrArg List.length (hadded.symm.trans h)
      simp at hl
    · rename_i hno
      have hrest : Closed arcs seen := ih h
      intro b hb hsource
      rcases List.mem_cons.mp hb with rfl | hb
      · by_contra ht
        exact hno (by simp [hsource, ht])
      · exact hrest b hb hsource

theorem Closed.spread_eq {arcs : List Arc} {seen : List String} (h : Closed arcs seen) :
    spread arcs seen = seen := by
  induction arcs with
  | nil => rfl
  | cons a arcs ih =>
    have hrest : spread arcs seen = seen := ih fun b hb => h b (List.mem_cons_of_mem a hb)
    unfold spread at hrest ⊢
    rw [List.foldl_cons, if_neg, hrest]
    have ha := h a List.mem_cons_self
    simpa using ha

theorem Closed.spreadTimes_eq {arcs : List Arc} {seen : List String} (h : Closed arcs seen)
    (n : ℕ) : spreadTimes arcs n seen = seen := by
  induction n with
  | zero => rfl
  | succ n ih => rw [spreadTimes, h.spread_eq, ih]

/-- Every round adds a node until no arc leads out. -/
theorem spreadTimes_closed_or_length (arcs : List Arc) (n : ℕ) (seen : List String) :
    Closed arcs (spreadTimes arcs n seen) ∨
      seen.length + n ≤ (spreadTimes arcs n seen).length := by
  induction n generalizing seen with
  | zero => exact Or.inr (Nat.le_refl _)
  | succ n ih =>
    rw [spreadTimes]
    obtain ⟨added, h⟩ := spread_append arcs seen
    rcases added with _ | ⟨first, rest⟩
    · have hc : Closed arcs seen := closed_of_spread_eq (by simpa using h)
      rw [hc.spread_eq, hc.spreadTimes_eq]
      exact Or.inl hc
    · refine (ih (spread arcs seen)).imp_right fun hl => ?_
      rw [h] at hl ⊢
      simp only [List.length_append, List.length_cons] at hl
      omega

theorem nodup_spreadTimes (arcs : List Arc) (n : ℕ) {seen : List String} (hs : seen.Nodup) :
    (spreadTimes arcs n seen).Nodup := by
  induction n generalizing seen with
  | zero => exact hs
  | succ n ih => exact ih (nodup_spread arcs hs)

theorem spreadTimes_induction {arcs : List Arc} {seen : List String} {P : String → Prop}
    (n : ℕ) (hs : ∀ v ∈ seen, P v) (ha : ∀ a ∈ arcs, P a.source → P a.target) :
    ∀ v ∈ spreadTimes arcs n seen, P v := by
  induction n generalizing seen with
  | zero => exact hs
  | succ n ih => exact ih (spread_induction hs ha)

theorem subset_spreadTimes (arcs : List Arc) (n : ℕ) (seen : List String) :
    seen ⊆ spreadTimes arcs n seen := by
  induction n generalizing seen with
  | zero => exact List.Subset.refl seen
  | succ n ih => exact List.Subset.trans (subset_spread arcs seen) (ih (spread arcs seen))

/-- As many rounds as there are arcs are enough. -/
theorem reachable_closed (arcs : List Arc) (start : String) :
    Closed arcs (reachable arcs start) := by
  rcases spreadTimes_closed_or_length arcs arcs.length [start] with h | hl
  · exact h
  -- If every round added a node, then all targets are there.
  have hsub : reachable arcs start ⊆ start :: arcs.map (·.target) := by
    intro v hv
    refine spreadTimes_induction arcs.length (P := (· ∈ start :: arcs.map (·.target)))
      (by simp) (fun a ha _ => ?_) v hv
    exact List.mem_cons_of_mem _ (List.mem_map_of_mem ha)
  have hnodup : (reachable arcs start).Nodup :=
    nodup_spreadTimes arcs arcs.length (List.nodup_singleton start)
  have hperm : (reachable arcs start).Perm (start :: arcs.map (·.target)) := by
    refine (hnodup.subperm hsub).perm_of_length_le ?_
    simpa [reachable, Nat.add_comm] using hl
  intro a ha _
  exact hperm.mem_iff.mpr (List.mem_cons_of_mem _ (List.mem_map_of_mem ha))

/-- The nodes listed as reachable are those that a path from the start leads to. -/
theorem mem_reachable_iff (arcs : List Arc) (start v : String) :
    v ∈ reachable arcs start ↔ Relation.ReflTransGen (Leads arcs) start v := by
  constructor
  · intro hv
    refine spreadTimes_induction arcs.length (P := Relation.ReflTransGen (Leads arcs) start)
      ?_ (fun a ha hp => hp.tail (Leads.of_mem ha)) v hv
    simp [Relation.ReflTransGen.refl]
  · intro hp
    induction hp with
    | refl => exact subset_spreadTimes arcs _ _ List.mem_cons_self
    | tail _ hl ih =>
      obtain ⟨a, ha, rfl, rfl⟩ := hl
      exact reachable_closed arcs start a ha ih

/-! ### Cycles -/

/-- A node stays when its neighbours on both sides stay. -/
theorem mem_peel_of_neighbours {arcs : List Arc} {remaining : List String} {a b : Arc}
    (ha : a ∈ arcs) (hb : b ∈ arcs) (hab : a.target = b.source)
    (hv : b.source ∈ remaining) (hs : a.source ∈ remaining) (ht : b.target ∈ remaining) :
    b.source ∈ peel arcs remaining := by
  unfold peel
  simp only [List.mem_filter, List.any_eq_true, Bool.and_eq_true, beq_iff_eq]
  refine ⟨hv, ⟨a, ⟨ha, ?_⟩, hab⟩, ⟨b, ⟨hb, ?_⟩, rfl⟩⟩
  · simp [Arc.within, hs, hab, hv]
  · simp [Arc.within, ht, hv]

/-- Nodes on cycles are never left out. -/
theorem mem_peelTimes_of_cycle {arcs : List Arc} (n : ℕ) {remaining : List String}
    (h : ∀ v, Path arcs v v → v ∈ remaining) {v : String} (hv : Path arcs v v) :
    v ∈ peelTimes arcs n remaining := by
  induction n generalizing remaining with
  | zero => exact h v hv
  | succ n ih =>
    refine ih fun u hu => ?_
    -- The neighbours of `u` on its cycle are on a cycle themselves.
    obtain ⟨x, ⟨b, hb, rfl, rfl⟩, hback⟩ := Relation.TransGen.head'_iff.mp hu
    obtain ⟨y, hfront, ⟨a, ha, rfl, hat⟩⟩ := Relation.TransGen.tail'_iff.mp hu
    have hx : Path arcs b.target b.target := Relation.TransGen.tail' hback (Leads.of_mem hb)
    have hy : Path arcs a.source a.source := Relation.TransGen.head' ⟨a, ha, rfl, hat⟩ hfront
    exact mem_peel_of_neighbours ha hb hat (h _ hu) (h _ hy) (h _ hx)

/-- When no cycle is found among nodes with all ends of the arcs, there is none. -/
theorem acyclic_of_findCycle {arcs : List Arc} {ids : List String}
    (hids : ∀ a ∈ arcs, a.source ∈ ids) (h : findCycle arcs ids = none) : Acyclic arcs := by
  intro v hv
  have hmem : ∀ u, Path arcs u u → u ∈ ids := by
    intro u hu
    obtain ⟨_, ⟨a, ha, rfl, _⟩, _⟩ := Relation.TransGen.head'_iff.mp hu
    exact hids a ha
  have hstay := mem_peelTimes_of_cycle ids.length hmem hv
  rw [List.head?_eq_none_iff.mp h] at hstay
  cases hstay

/-- Without cycles one can argue along paths, from what leads to a node to the node. -/
theorem Acyclic.wellFounded {arcs : List Arc} (h : Acyclic arcs) : WellFounded (Path arcs) := by
  -- Only sources lead to anything, and there are finitely many of them.
  let below (u v : {v // v ∈ arcs.map (·.source)}) : Prop := Path arcs u.1 v.1
  have : IsTrans _ below := ⟨fun _ _ _ hab hbc => Relation.TransGen.trans hab hbc⟩
  have : Std.Irrefl below := ⟨fun v hv => h v.1 hv⟩
  have hwf : WellFounded below := Finite.wellFounded_of_trans_of_irrefl below
  have hsource : ∀ {u v}, Path arcs u v → u ∈ arcs.map (·.source) := by
    intro u v hp
    obtain ⟨_, ⟨a, ha, rfl, _⟩, _⟩ := Relation.TransGen.head'_iff.mp hp
    exact List.mem_map_of_mem ha
  have hacc : ∀ v : {v // v ∈ arcs.map (·.source)}, Acc (Path arcs) v.1 := by
    intro v
    induction v using hwf.induction with
    | _ v ih => exact Acc.intro v.1 fun u hp => ih ⟨u, hsource hp⟩ hp
  exact ⟨fun v => Acc.intro v fun u hp => hacc ⟨u, hsource hp⟩⟩

/-- Without cycles a round leaves out some node as long as any node remains. -/
theorem Acyclic.length_peel_lt {arcs : List Arc} (h : Acyclic arcs) {remaining : List String}
    (hne : remaining ≠ []) : (peel arcs remaining).length < remaining.length := by
  obtain ⟨v, hv, hfirst⟩ := h.wellFounded.has_min {v | v ∈ remaining}
    (List.exists_mem_of_ne_nil remaining hne)
  refine List.length_filter_lt_length_iff_exists.mpr ⟨v, hv, fun hkeep => ?_⟩
  -- An arc that enters `v` would come from a node before it.
  simp only [Bool.and_eq_true, List.any_eq_true, List.mem_filter, beq_iff_eq] at hkeep
  obtain ⟨⟨a, ⟨ha, hwithin⟩, rfl⟩, -⟩ := hkeep
  have hsource : a.source ∈ remaining := (by simpa [Arc.within] using hwithin : _ ∧ _).1
  exact hfirst a.source hsource (.single (Leads.of_mem ha))

/-- Without cycles as many rounds as there are nodes leave out all of them. -/
theorem Acyclic.peelTimes_eq_nil {arcs : List Arc} (h : Acyclic arcs) {n : ℕ}
    {remaining : List String} (hn : remaining.length ≤ n) : peelTimes arcs n remaining = [] := by
  induction n generalizing remaining with
  | zero => exact List.length_eq_zero_iff.mp (Nat.le_zero.mp hn)
  | succ n ih =>
    refine ih ?_
    rcases eq_or_ne remaining [] with rfl | hne
    · exact Nat.zero_le n
    · exact Nat.le_of_lt_succ (Nat.lt_of_lt_of_le (h.length_peel_lt hne) hn)

/-- Among nodes with all sources of the arcs, a cycle is found just if there is one. -/
theorem findCycle_eq_none_iff {arcs : List Arc} {ids : List String}
    (hids : ∀ a ∈ arcs, a.source ∈ ids) : findCycle arcs ids = none ↔ Acyclic arcs := by
  refine ⟨acyclic_of_findCycle hids, fun h => ?_⟩
  rw [findCycle, h.peelTimes_eq_nil (Nat.le_refl _), List.head?_nil]

end Workflow.Graph
