import Workflow.Proofs.Run.Pruning
import Workflow.Proofs.Run.Telling

/-! What becomes of the nodes: while a run waits, and when it has drained, every node has started,
is pruned, or is blocked behind a node in flight. A run that drains has started just the nodes that
its results lead to. -/
namespace Workflow.Course

variable {allowed : Invocation → Except NodeFault Outcome → Prop} {g : Graph} {input : Fields}
  {c : Course} {v : String}

/-- An arc leads to the node from one that is in flight, or blocked itself. -/
inductive Blocked (g : Graph) (c : Course) : String → Prop
  | waiting {a : Arc} (ha : a ∈ g.arcs) (hf : a.source ∈ c.run.inFlight) : Blocked g c a.target
  | behind {a : Arc} (ha : a ∈ g.arcs) (hb : Blocked g c a.source) : Blocked g c a.target

/-- The least set with the start node and the targets of the arcs that are taken from it. -/
inductive Live (g : Graph) (c : Course) : String → Prop
  | start : Live g c g.start
  | along {a : Arc} (ha : a ∈ g.arcs) (hs : Live g c a.source) (ht : c.Took a) :
    Live g c a.target

inductive Fate where
  | started
  | pruned
  | blocked

/-- What has become of a node. A pruned node never starts, and all arcs to it are skipped. -/
def Meets (allowed : Invocation → Except NodeFault Outcome → Prop) (g : Graph) (c : Course)
    (v : String) : Fate → Prop
  | .started => c.Started v
  | .pruned => (∀ d, Later allowed c d → ¬ d.Started v) ∧
    ∀ i a, g.arcs[i]? = some a → a.target = v → c.run.arcState i = .skipped
  | .blocked => Blocked g c v

/-- A pending arc leads to a blocked node, which is therefore not resolved. -/
theorem Blocked.pending (hg : g.Valid) (h : c.Sound allowed g input) (hb : Blocked g c v) :
    v ∉ c.run.resolved ∧
      ∃ i a, g.arcs[i]? = some a ∧ a.target = v ∧ c.run.arcState i = .pending := by
  have harc : ∀ i a, g.arcs[i]? = some a → c.run.arcState i = .pending →
      a.target ∉ c.run.resolved := by
    intro i a ha hp hres
    refine h.settling.entered i a ha hres (fun hs => ?_) hp
    exact hg.not_path_start
      (hs ▸ Relation.TransGen.single (Graph.Leads.of_mem (List.mem_of_getElem? ha)))
  induction hb with
  | @waiting a ha hf =>
    obtain ⟨i, hi⟩ := List.getElem?_of_mem ha
    have hp : c.run.arcState i = .pending := by
      refine (h.settling.pending_iff i a hi).mpr ⟨?_, ?_⟩
      · rintro ⟨result, hr, -⟩
        exact h.inFlight_fresh _ hf ⟨result, hr⟩
      · exact fun hpr => hpr.2.2 (h.inFlight_given _ hf)
    exact ⟨harc i a hi hp, i, a, hi, rfl, hp⟩
  | @behind a ha _ ih =>
    obtain ⟨i, hi⟩ := List.getElem?_of_mem ha
    have hp := h.settling.pending_of_unresolved hi ih.1
    exact ⟨harc i a hi hp, i, a, hi, rfl, hp⟩

/-- A run that waits or drains has nothing queued, and has taken in all results but those of the
nodes in flight. -/
theorem Sound.at_rest (h : c.Sound allowed g input) (hw : c.Waits ∨ c.Drains) :
    c.run.ready = [] ∧ ∀ v, c.Given v → c.Done g v ∨ v ∈ c.run.inFlight := by
  have hending : c.ending = none ∨ c.ending = some .drained := hw.imp And.left id
  refine ⟨?_, fun v hv => ?_⟩
  · rcases hw with hw | hd
    · exact (Run.next_eq_await.mp hw.2).2.1
    · exact (h.of_drains hd).1
  · by_cases hr : c.Returned v
    · obtain ⟨result, hr⟩ := hr
      refine Or.inl ⟨result, hr, ?_⟩
      by_contra hv
      obtain ⟨why, hwhy⟩ := Option.ne_none_iff_exists'.mp hv
      rcases hending with he | he <;> rw [h.verdict_ending v result why hr hwhy] at he
      · cases he
      · exact Graph.verdict_ne_drained (hwhy.trans he)
    · exact Or.inr (h.mem_inFlight hending v hv hr)

/-- A node that is not resolved is blocked when the run is at rest: something that leads to it has
not finished, and the first such node is in flight. -/
theorem Sound.blocked_of_unresolved (hg : g.Valid) (h : c.Sound allowed g input)
    (hw : c.Waits ∨ c.Drains) (hv : v ∈ g.ids) (hres : v ∉ c.run.resolved) : Blocked g c v := by
  obtain ⟨hready, hgiven⟩ := h.at_rest hw
  induction v using hg.acyclic.wellFounded.induction with
  | _ v ih =>
    have hpending : ∃ i a, g.arcs[i]? = some a ∧ a.target = v ∧ c.run.arcState i = .pending := by
      by_contra hno
      push Not at hno
      exact List.not_mem_nil (h.settling.complete v hv hres hno)
    obtain ⟨i, a, ha, rfl, hp⟩ := hpending
    have hmem := List.mem_of_getElem? ha
    obtain ⟨hdone, hnot⟩ := (h.settling.pending_iff i a ha).mp hp
    by_cases hs : a.source ∈ c.run.resolved
    · have hstarted : c.Given a.source := by
        by_contra hno
        exact hnot ⟨hs, hready ▸ List.not_mem_nil, hno⟩
      exact .waiting hmem ((hgiven _ hstarted).resolve_left hdone)
    · exact .behind hmem
        (ih _ (Relation.TransGen.single (Graph.Leads.of_mem hmem)) (hg.source_mem a hmem) hs)

theorem Sound.given_or_pruned (h : c.Sound allowed g input) (hw : c.Waits ∨ c.Drains)
    (hres : v ∈ c.run.resolved) : c.Given v ∨ c.Pruned v := by
  by_cases hv : c.Given v
  · exact Or.inl hv
  · exact Or.inr ⟨hres, (h.at_rest hw).1 ▸ List.not_mem_nil, hv⟩

theorem Sound.not_blocked (h : c.Sound allowed g input) (hd : c.Drains) : ¬ Blocked g c v := by
  intro hb
  induction hb with
  | waiting ha hf => exact List.not_mem_nil ((h.of_drains hd).2 ▸ hf)
  | behind ha _ ih => exact ih

/-- Whatever an arc that was taken leads to has started, once nothing is queued. -/
theorem Sound.given_of_took (hg : g.Valid) (h : c.Sound allowed g input) (hd : c.Drains) {a : Arc}
    (ha : a ∈ g.arcs) (ht : c.Took a) : c.Given a.target := by
  have hres : a.target ∈ c.run.resolved := by
    by_contra hres
    exact h.not_blocked hd (h.blocked_of_unresolved hg (Or.inr hd) (hg.target_mem a ha) hres)
  have hne : a.target ≠ g.start := fun hs =>
    hg.not_path_start (hs ▸ Relation.TransGen.single (Graph.Leads.of_mem ha))
  have hkept := (h.settling.kept_iff a.target hres hne).mpr ⟨a, ha, rfl, ht⟩
  rw [(h.at_rest (Or.inr hd)).1] at hkept
  exact hkept.resolve_left List.not_mem_nil

theorem Sound.given_iff_live (hg : g.Valid) (h : c.Sound allowed g input) (hd : c.Drains) :
    c.Given v ↔ Live g c v := by
  have hready := (h.at_rest (Or.inr hd)).1
  constructor
  · intro hv
    induction v using hg.acyclic.wellFounded.induction with
    | _ v ih =>
      by_cases hs : v = g.start
      · exact hs ▸ .start
      · obtain ⟨a, ha, rfl, ht⟩ :=
          (h.settling.kept_iff v (h.settling.started_resolved v hv) hs).mp (Or.inr hv)
        obtain ⟨outcome, hr, htakes⟩ := ht
        exact .along ha (ih _ (Relation.TransGen.single (Graph.Leads.of_mem ha))
          (h.given ⟨_, hr⟩)) ⟨outcome, hr, htakes⟩
  · intro hv
    induction hv with
    | start =>
      have hkept := h.settling.start_kept
      rw [hready] at hkept
      exact hkept.resolve_left List.not_mem_nil
    | along ha _ ht _ => exact h.given_of_took hg hd ha ht

/-- Live nodes are live in every drained run that agrees on the results. -/
theorem Live.given_of_agree {allowed' : Invocation → Except NodeFault Outcome → Prop}
    {input' : Fields} {d : Course} (hg : g.Valid) (h : d.Sound allowed' g input') (hd : d.Drains)
    (hagree : ∀ u r r', (u, r) ∈ c.results → (u, r') ∈ d.results → r = r') (hv : Live g c v) :
    d.Given v := by
  induction hv with
  | start => exact (h.given_iff_live hg hd).mpr .start
  | @along a ha _ ht ih =>
    obtain ⟨outcome, hr, htakes⟩ := ht
    have hdone := ((h.at_rest (Or.inr hd)).2 _ ih).resolve_right
      ((h.of_drains hd).2 ▸ List.not_mem_nil)
    obtain ⟨result, hr', -⟩ := hdone
    obtain rfl := hagree _ _ _ hr hr'
    exact h.given_of_took hg hd ha ⟨outcome, hr', htakes⟩

/-- Runs that drain with the same results have started the same nodes. -/
theorem given_iff_of_agree {allowed' : Invocation → Except NodeFault Outcome → Prop}
    {input' : Fields} {d : Course} (hg : g.Valid) (h : c.Sound allowed g input) (hc : c.Drains)
    (h' : d.Sound allowed' g input') (hd : d.Drains)
    (hagree : ∀ u r r', (u, r) ∈ c.results → (u, r') ∈ d.results → r = r') :
    c.Given v ↔ d.Given v := by
  constructor
  · intro hv
    exact ((h.given_iff_live hg hc).mp hv).given_of_agree hg h' hd hagree
  · intro hv
    exact ((h'.given_iff_live hg hd).mp hv).given_of_agree hg h hc
      fun u r r' hr hr' => (hagree u r' r hr' hr).symm

/-- A resolved node has started or is pruned, never both; one that is not resolved is blocked. -/
theorem Reached.unique_fate (hg : g.Valid) (hc : Reached allowed g input c)
    (hrest : c.Waits ∨ c.Drains) (hv : v ∈ g.ids) : ∃! fate, c.Meets allowed g v fate := by
  have h := Reached.sound hg hc
  have htold := Reached.told hg hc
  by_cases hres : v ∈ c.run.resolved
  · have hno : ¬ Blocked g c v := fun hb => (hb.pending hg h).1 hres
    rcases h.given_or_pruned hrest hres with hgiven | hpruned
    · have hs := htold.given_iff_started.mp hgiven
      refine ⟨.started, hs, fun fate hf => ?_⟩
      cases fate with
      | started => rfl
      | pruned => exact absurd hs (hf.1 c .refl)
      | blocked => exact absurd hf hno
    · refine ⟨.pruned, ⟨fun d hl hs => ?_, fun i a => hpruned.skipped h⟩, fun fate hf => ?_⟩
      · exact (hpruned.later hg h hl).2.2
          ((Reached.told hg (hc.trans hl)).given_iff_started.mpr hs)
      · cases fate with
        | started => exact absurd (htold.given_iff_started.mpr hf) hpruned.2.2
        | pruned => rfl
        | blocked => exact absurd hf hno
  · have hb := h.blocked_of_unresolved hg hrest hv hres
    refine ⟨.blocked, hb, fun fate hf => ?_⟩
    cases fate with
    | started =>
      exact absurd (h.settling.started_resolved v (htold.given_iff_started.mpr hf)) hres
    | pruned =>
      obtain ⟨-, i, a, ha, ht, hp⟩ := hb.pending hg h
      exact ArcState.noConfusion (hp.symm.trans (hf.2 i a ha ht))
    | blocked => rfl

/-- While a run waits, and when it has drained, every node has exactly one fate. In a drained run
no node is blocked, and the nodes that have started are just the live ones; so runs that drain with
the same results have started the same nodes. -/
theorem exactly_one_fate {w : Definition} (hw : Graph.compile w = .ok g)
    (hc : Reached allowed g input c) (hrest : c.Waits ∨ c.Drains) :
    (∀ v ∈ g.ids, ∃! fate, c.Meets allowed g v fate) ∧
    (c.Drains → (∀ v, ¬ c.Meets allowed g v .blocked) ∧ (∀ v, c.Started v ↔ Live g c v) ∧
      (∀ a ∈ g.arcs, c.Took a → c.Started a.target) ∧
      ∀ (allowed' : Invocation → Except NodeFault Outcome → Prop) (input' : Fields) (d : Course),
        Reached allowed' g input' d → d.Drains →
        (∀ u r r', (u, r) ∈ c.results → (u, r') ∈ d.results → r = r') →
        ∀ v, c.Started v ↔ d.Started v) := by
  have hg := Graph.compile_valid hw
  have h := Reached.sound hg hc
  have hstarted : ∀ v, c.Given v ↔ c.Started v := fun v => (Reached.told hg hc).given_iff_started
  refine ⟨fun v hv => hc.unique_fate hg hrest hv, fun hd => ⟨fun v => h.not_blocked hd,
    fun v => ?_, fun a ha ht => ?_, ?_⟩⟩
  · rw [← hstarted]
    exact h.given_iff_live hg hd
  · exact (hstarted _).mp (h.given_of_took hg hd ha ht)
  · intro allowed' input' d hcd hdd hagree v
    rw [← hstarted, ← (Reached.told hg hcd).given_iff_started]
    exact given_iff_of_agree hg h hd (Reached.sound hg hcd) hdd hagree

/-- In the fork the join is blocked while the branch that was taken is in flight, and in the end
all nodes have started but that on the other branch. -/
theorem exactly_one_fate_at_fork :
    (forkBranched.Waits ∧ ∀ v ∈ fork.ids, ∃! fate,
      forkBranched.Meets (fun _ _ => True) fork v fate) ∧
    (forkDrained.Drains ∧ ∀ v, forkDrained.Started v ↔ Live fork forkDrained v) :=
  have hwaits : forkBranched.Waits := ⟨rfl, by decide +kernel⟩
  have hdrains : forkDrained.Drains := rfl
  have hdrained := exactly_one_fate compile_forkWorkflow forkDrained_reached (Or.inr hdrains)
  ⟨⟨hwaits, (exactly_one_fate compile_forkWorkflow forkBranched_reached (Or.inl hwaits)).1⟩,
    hdrains, (hdrained.2 hdrains).2.1⟩

end Workflow.Course
