import Workflow.Proofs.Graph.Compiled
import Workflow.Proofs.Run.Course

/-! The bookkeeping of a run: who has been given an invocation, who has come back, who is in
flight, and why the run stops, in every reachable course. -/
namespace Workflow.Course

variable {allowed : Invocation → Except NodeFault Outcome → Prop} {g : Graph} {input : Fields}
  {c d : Course}

/-- How the records of a course fit together. -/
structure Sound (allowed : Invocation → Except NodeFault Outcome → Prop) (g : Graph)
    (input : Fields) (c : Course) : Prop where
  settling : Run.Settling g c.Given (c.Done g) c.Took [] c.run
  input_eq : c.run.input = input
  given_nodup : (c.given.map (·.node.id)).Nodup
  given_node : ∀ inv ∈ c.given, g.node? inv.node.id = some inv.node
  results_nodup : (c.results.map (·.1)).Nodup
  results_given : ∀ v result, (v, result) ∈ c.results →
    ∃ inv ∈ c.given, inv.node.id = v ∧ allowed inv result
  inFlight_nodup : c.run.inFlight.Nodup
  inFlight_given : ∀ v ∈ c.run.inFlight, c.Given v
  inFlight_fresh : ∀ v ∈ c.run.inFlight, ¬ c.Returned v
  /-- Before the run winds down, who has not come back is in flight. -/
  mem_inFlight : c.ending = none ∨ c.ending = some .drained →
    ∀ v, c.Given v → ¬ c.Returned v → v ∈ c.run.inFlight
  /-- A result that stops the run is the reason why it stops. -/
  verdict_ending : ∀ v result why, (v, result) ∈ c.results →
    g.verdict v result = some why → c.ending = some why
  ending_cases : ∀ why, c.ending = some why →
    why = .drained ∧ c.run.ready = [] ∧ c.run.inFlight = [] ∨
      why = .cancelled ∧ c.run.cancelled = true ∨
      ∃ v result, (v, result) ∈ c.results ∧ g.verdict v result = some why

theorem Sound.given (h : c.Sound allowed g input) {v : String} (hv : c.Returned v) :
    c.Given v := by
  obtain ⟨result, hr⟩ := hv
  obtain ⟨inv, hi, hid, -⟩ := h.results_given v result hr
  exact ⟨inv, hi, hid⟩

theorem Sound.result_unique (h : c.Sound allowed g input) {v : String}
    {r r' : Except NodeFault Outcome} (hr : (v, r) ∈ c.results) (hr' : (v, r') ∈ c.results) :
    r = r' :=
  (Prod.mk.inj (List.inj_on_of_nodup_map h.results_nodup hr hr' rfl)).2

theorem begin_sound (hg : g.Valid) : (begin g input).Sound allowed g input := by
  have hno : ∀ v, ¬ (begin g input).Given v := by
    rintro v ⟨inv, hi, -⟩
    cases hi
  have hstate : ∀ i a, g.arcs[i]? = some a → (begin g input).run.arcState i = .pending := by
    intro i a ha
    show (g.arcs.map fun _ => ArcState.pending).getD i .pending = .pending
    rw [List.getD_eq_getElem?_getD, List.getElem?_map, ha]
    rfl
  have hresolved : (begin g input).run.resolved = [g.start] := rfl
  have hready : (begin g input).run.ready = [g.start] := rfl
  have hnotTook : ∀ a, ¬ (begin g input).Took a := by
    rintro a ⟨o, ho, -⟩
    cases ho
  have hsettling : Run.Settling g (begin g input).Given ((begin g input).Done g)
      (begin g input).Took [] (begin g input).run := by
    refine ⟨rfl, ?_, ?_, ?_, ?_, ?_, ?_, ?_, ?_, ?_, ?_, ?_, ?_, ?_, ?_, ?_⟩
    · exact List.length_map _
    · rw [hresolved]
      exact List.forall_mem_singleton.mpr hg.start_mem
    · rw [hresolved]
      exact List.mem_singleton_self _
    · rw [hready]
      exact Or.inl (List.mem_singleton_self _)
    · rw [hready]
      exact List.nodup_singleton _
    · rw [hready, hresolved]
      exact fun v hv => hv
    · exact fun v _ => hno v
    · exact fun v hv => absurd hv (hno v)
    · rintro v ⟨result, hr, -⟩
      cases hr
    · exact fun a ha => absurd ha (hnotTook a)
    · intro i a ha
      refine iff_of_true (hstate i a ha) ⟨?_, ?_⟩
      · rintro ⟨result, hr, -⟩
        cases hr
      · rintro ⟨hres, hnot, -⟩
        rw [hresolved] at hres
        rw [hready] at hnot
        exact hnot hres
    · intro i a ha
      rw [hstate i a ha]
      exact iff_of_false ArcState.noConfusion (hnotTook a)
    · intro i a ha hres hne
      rw [hresolved, List.mem_singleton] at hres
      exact absurd hres hne
    · intro v hv hne
      rw [hresolved, List.mem_singleton] at hv
      exact absurd hv hne
    · intro v hv hres hp
      -- Every node but the start is entered by an arc, and all arcs are pending.
      rw [hresolved, List.mem_singleton] at hres
      rcases (Relation.reflTransGen_iff_eq_or_transGen.mp (hg.reached v hv)) with heq | hpath
      · exact absurd heq hres
      · obtain ⟨u, -, ⟨a, ha, -, ht⟩⟩ := Relation.TransGen.tail'_iff.mp hpath
        obtain ⟨i, hi⟩ := List.getElem?_of_mem ha
        exact absurd (hstate i a hi) (hp i a hi ht)
  refine ⟨hsettling, rfl, List.nodup_nil, ?_, List.nodup_nil, ?_, List.nodup_nil, ?_, ?_, ?_, ?_,
    ?_⟩
  · exact fun inv hi => absurd hi List.not_mem_nil
  · exact fun v result hr => absurd hr List.not_mem_nil
  · exact fun v hv => absurd hv List.not_mem_nil
  · exact fun v hv => absurd hv List.not_mem_nil
  · exact fun _ v hv => absurd hv (hno v)
  · exact fun v result why hr => absurd hr List.not_mem_nil
  · exact fun why hw => absurd hw (by simp [begin])

/-- Steps that leave the records alone keep them fitting together. -/
theorem Sound.congr (h : c.Sound allowed g input) {run : Run} (hgraph : run.graph = c.run.graph)
    (harcs : run.arcs = c.run.arcs) (hresolved : run.resolved = c.run.resolved)
    (hready : run.ready = c.run.ready) (hinput : run.input = c.run.input)
    (hflight : run.inFlight = c.run.inFlight)
    (hcancelled : c.run.cancelled = true → run.cancelled = true) :
    Sound allowed g input { c with run } := by
  have hsettling := h.settling.congr (fun _ => Iff.rfl) (fun _ => Iff.rfl)
    (fun _ => Iff.rfl) hgraph harcs hresolved hready
  refine { h with
    settling := hsettling
    input_eq := hinput.trans h.input_eq
    inFlight_nodup := hflight ▸ h.inFlight_nodup
    inFlight_given := fun v hv => h.inFlight_given v (hflight ▸ hv)
    inFlight_fresh := fun v hv => h.inFlight_fresh v (hflight ▸ hv)
    mem_inFlight := fun he v hv hr => hflight.symm ▸ h.mem_inFlight he v hv hr
    ending_cases := fun why hw => ?_ }
  rcases h.ending_cases why hw with ⟨hwhy, hq, hf⟩ | ⟨hwhy, hc⟩ | hv
  · exact Or.inl ⟨hwhy, hready.trans hq, hflight.trans hf⟩
  · exact Or.inr (Or.inl ⟨hwhy, hcancelled hc⟩)
  · exact Or.inr (Or.inr hv)

/-! ### Starting a node -/

/-- What a start does to the course, given that it is sound: the queued node is given its
invocation. -/
theorem Sound.dispatch_eq (h : c.Sound allowed g input) {id : String}
    (hn : c.run.next = .start id) :
    ∃ node ready, c.run.ready = id :: ready ∧ g.node? id = some node ∧ node.id = id ∧
      c.dispatch = { c with
        run := c.run.launch node, given := c.given ++ [c.run.invocation node] } := by
  obtain ⟨-, ready, hr⟩ := Run.next_eq_start.mp hn
  have hid : id ∈ c.run.ready := hr ▸ List.mem_cons_self
  obtain ⟨node, hnode⟩ := Graph.exists_node?
    (h.settling.resolved_mem id (h.settling.ready_resolved id hid))
  have hstart := Run.start_eq hr (h.settling.graph_eq.symm ▸ hnode)
  refine ⟨node, ready, hr, hnode, Graph.node?_id hnode, ?_⟩
  simp only [dispatch, hstart, Option.toList_some]

theorem given_append {inv : Invocation} {run : Run} {v : String} :
    Given { c with run, given := c.given ++ [inv] } v ↔ c.Given v ∨ v = inv.node.id := by
  simp only [Given, List.mem_append, List.mem_singleton]
  constructor
  · rintro ⟨i, hi | rfl, rfl⟩
    · exact Or.inl ⟨i, hi, rfl⟩
    · exact Or.inr rfl
  · rintro (⟨i, hi, rfl⟩ | rfl)
    · exact ⟨i, Or.inl hi, rfl⟩
    · exact ⟨inv, Or.inr rfl, rfl⟩

theorem Sound.dispatch (h : c.Sound allowed g input) {id : String} (he : c.ending = none)
    (hn : c.run.next = .start id) : c.dispatch.Sound allowed g input := by
  obtain ⟨node, ready, hr, hnode, hid, heq⟩ := h.dispatch_eq hn
  have hready : id ∈ c.run.ready := hr ▸ List.mem_cons_self
  have hfresh : ¬ c.Given id := h.settling.ready_fresh id hready
  have hgiven : ∀ v, c.dispatch.Given v ↔ c.Given v ∨ v = id := by
    intro v
    rw [heq, given_append]
    exact hid ▸ Iff.rfl
  have hflight : ∀ v, v ∈ c.dispatch.run.inFlight ↔ v = id ∨ v ∈ c.run.inFlight := by
    intro v
    rw [heq]
    exact hid ▸ Run.mem_insertId
  have hsettling : Run.Settling g c.dispatch.Given (c.dispatch.Done g) c.dispatch.Took []
      c.dispatch.run := by
    refine (h.settling.start hr).congr hgiven (fun _ => Iff.rfl) (fun _ => Iff.rfl) ?_ ?_ ?_ ?_
    · rw [heq]; rfl
    · rw [heq]; rfl
    · rw [heq]; rfl
    · rw [heq]
      show c.run.ready.tail = ready
      rw [hr, List.tail_cons]
  have hnot : ∀ v, c.dispatch.Returned v ↔ c.Returned v := fun _ => Iff.rfl
  refine {
    settling := hsettling
    input_eq := ?_
    given_nodup := ?_
    given_node := ?_
    results_nodup := h.results_nodup
    results_given := ?_
    inFlight_nodup := ?_
    inFlight_given := ?_
    inFlight_fresh := ?_
    mem_inFlight := ?_
    verdict_ending := h.verdict_ending
    ending_cases := ?_ }
  · rw [heq]
    exact h.input_eq
  · rw [heq]
    simp only [List.map_append, List.map_cons, List.map_nil]
    refine h.given_nodup.append (List.nodup_singleton _) (List.disjoint_singleton.mpr ?_)
    intro hmem
    obtain ⟨inv, hi, heid⟩ := List.mem_map.mp hmem
    exact hfresh ⟨inv, hi, heid.trans hid⟩
  · rw [heq]
    intro inv hi
    rcases List.mem_append.mp hi with hi | hi
    · exact h.given_node inv hi
    · obtain rfl := List.mem_singleton.mp hi
      show g.node? node.id = some node
      rw [hid, hnode]
  · rw [heq]
    intro v result hv
    obtain ⟨inv, hi, hrest⟩ := h.results_given v result hv
    exact ⟨inv, List.mem_append_left _ hi, hrest⟩
  · rw [heq]
    exact Run.insertId_nodup h.inFlight_nodup fun hm => hfresh (hid ▸ h.inFlight_given _ hm)
  · intro v hv
    rcases (hflight v).mp hv with rfl | hv
    · exact (hgiven v).mpr (Or.inr rfl)
    · exact (hgiven v).mpr (Or.inl (h.inFlight_given v hv))
  · intro v hv hret
    rcases (hflight v).mp hv with rfl | hv
    · exact hfresh (h.given ((hnot v).mp hret))
    · exact h.inFlight_fresh v hv ((hnot v).mp hret)
  · intro _ v hv hret
    rcases (hgiven v).mp hv with hv | rfl
    · exact (hflight v).mpr (Or.inr (h.mem_inFlight (Or.inl he) v hv hret))
    · exact (hflight v).mpr (Or.inl rfl)
  · intro why hw
    exact absurd (he.symm.trans hw) (by simp)

/-! ### Taking in a result -/

section Complete

variable {inv : Invocation} {result : Except NodeFault Outcome} {elapsed : ℕ}

theorem returned_complete {v : String} :
    (c.complete inv.node.id result elapsed).Returned v ↔ c.Returned v ∨ v = inv.node.id := by
  simp only [Returned, complete, List.mem_append, List.mem_singleton, Prod.mk.injEq]
  constructor
  · rintro ⟨r, hr | ⟨rfl, rfl⟩⟩
    · exact Or.inl ⟨r, hr⟩
    · exact Or.inr rfl
  · rintro (⟨r, hr⟩ | rfl)
    · exact ⟨r, Or.inl hr⟩
    · exact ⟨result, Or.inr ⟨rfl, rfl⟩⟩

theorem done_complete {v : String} :
    (c.complete inv.node.id result elapsed).Done g v ↔
      c.Done g v ∨ v = inv.node.id ∧ g.verdict inv.node.id result = none := by
  simp only [Done, complete, List.mem_append, List.mem_singleton, Prod.mk.injEq]
  constructor
  · rintro ⟨r, hr | ⟨rfl, rfl⟩, hv⟩
    · exact Or.inl ⟨r, hr, hv⟩
    · exact Or.inr ⟨rfl, hv⟩
  · rintro (⟨r, hr, hv⟩ | ⟨rfl, hv⟩)
    · exact ⟨r, Or.inl hr, hv⟩
    · exact ⟨result, Or.inr ⟨rfl, rfl⟩, hv⟩

theorem took_complete {a : Arc} :
    (c.complete inv.node.id result elapsed).Took a ↔
      c.Took a ∨ a.source = inv.node.id ∧ takes result a = true := by
  simp only [Took, complete, List.mem_append, List.mem_singleton, Prod.mk.injEq, takes_eq_true]
  constructor
  · rintro ⟨o, ho | ⟨hs, rfl⟩, ht⟩
    · exact Or.inl ⟨o, ho, ht⟩
    · exact Or.inr ⟨hs, o, rfl, ht⟩
  · rintro (⟨o, ho, ht⟩ | ⟨hs, o, rfl, ht⟩)
    · exact ⟨o, Or.inl ho, ht⟩
    · exact ⟨o, Or.inr ⟨hs, rfl⟩, ht⟩

/-- Settling after a result. A result that stops the run settles no arcs, but it takes none
either. -/
theorem Sound.complete_settling (hg : g.Valid) (h : c.Sound allowed g input)
    (hgiven : c.Given inv.node.id) (hnew : ¬ c.Returned inv.node.id) :
    Run.Settling g c.Given ((c.complete inv.node.id result elapsed).Done g)
      (c.complete inv.node.id result elapsed).Took []
      (c.run.complete inv.node.id result elapsed).1 := by
  have habsorb : Run.Settling g c.Given (c.Done g) c.Took []
      (c.run.absorb inv.node.id result elapsed) :=
    h.settling.congr (fun _ => Iff.rfl) (fun _ => Iff.rfl) (fun _ => Iff.rfl) rfl rfl rfl rfl
  have hdone : ¬ c.Done g inv.node.id := fun ⟨r, hr, _⟩ => hnew ⟨r, hr⟩
  rw [Run.complete_eq, h.settling.graph_eq]
  by_cases hv : g.verdict inv.node.id result = none
  · rw [if_pos hv]
    refine (habsorb.settleOutgoing hg.target_mem hgiven hdone (takes result)).congr
      (fun _ => Iff.rfl) (fun v => ?_) (fun a => took_complete) rfl rfl rfl rfl
    rw [done_complete, and_iff_left hv]
  · rw [if_neg hv]
    refine habsorb.congr (fun _ => Iff.rfl) (fun v => ?_) (fun a => ?_) rfl rfl rfl rfl
    · rw [done_complete]
      exact or_iff_left fun hd => hv hd.2
    · rw [took_complete]
      exact or_iff_left fun ht => hv (Graph.verdict_of_takes ht.2)

theorem Sound.complete (hg : g.Valid) (h : c.Sound allowed g input) (he : c.ending = none)
    (hi : inv ∈ c.given) (hf : inv.node.id ∈ c.run.inFlight) (ha : allowed inv result) :
    (c.complete inv.node.id result elapsed).Sound allowed g input := by
  have hgiven : c.Given inv.node.id := ⟨inv, hi, rfl⟩
  have hnew : ¬ c.Returned inv.node.id := h.inFlight_fresh _ hf
  obtain ⟨arcs, resolved, ready, hrun⟩ := Run.complete_fst_eq c.run inv.node.id result elapsed
  have hflight : (c.complete inv.node.id result elapsed).run.inFlight =
      c.run.inFlight.erase inv.node.id := congrArg Run.inFlight hrun
  have hending : (c.complete inv.node.id result elapsed).ending =
      g.verdict inv.node.id result := by
    show (c.run.complete inv.node.id result elapsed).2 = _
    rw [Run.complete_eq, h.settling.graph_eq]
  have hnoverdict : ∀ v r, (v, r) ∈ c.results → g.verdict v r = none := by
    intro v r hr
    by_contra hv
    obtain ⟨why, hw⟩ := Option.ne_none_iff_exists'.mp hv
    exact absurd (he.symm.trans (h.verdict_ending v r why hr hw)) (by simp)
  refine {
    settling := h.complete_settling hg hgiven hnew
    input_eq := (congrArg Run.input hrun).trans h.input_eq
    given_nodup := h.given_nodup
    given_node := h.given_node
    results_nodup := ?_
    results_given := ?_
    inFlight_nodup := hflight ▸ h.inFlight_nodup.erase _
    inFlight_given := ?_
    inFlight_fresh := ?_
    mem_inFlight := ?_
    verdict_ending := ?_
    ending_cases := ?_ }
  · show ((c.results ++ [(inv.node.id, result)]).map (·.1)).Nodup
    simp only [List.map_append, List.map_cons, List.map_nil]
    refine h.results_nodup.append (List.nodup_singleton _) (List.disjoint_singleton.mpr ?_)
    intro hmem
    obtain ⟨⟨v, r⟩, hr, rfl⟩ := List.mem_map.mp hmem
    exact hnew ⟨r, hr⟩
  · intro v r hr
    rcases List.mem_append.mp hr with hr | hr
    · exact h.results_given v r hr
    · cases List.mem_singleton.mp hr
      exact ⟨inv, hi, rfl, ha⟩
  · intro v hv
    exact h.inFlight_given v (List.mem_of_mem_erase (hflight ▸ hv))
  · intro v hv hret
    rw [hflight, h.inFlight_nodup.mem_erase_iff] at hv
    exact (returned_complete.mp hret).elim (h.inFlight_fresh v hv.2) hv.1
  · intro _ v hv hret
    rw [returned_complete, not_or] at hret
    rw [hflight, h.inFlight_nodup.mem_erase_iff]
    exact ⟨hret.2, h.mem_inFlight (Or.inl he) v hv hret.1⟩
  · intro v r why hr hw
    rcases List.mem_append.mp hr with hr | hr
    · exact absurd ((hnoverdict v r hr).symm.trans hw) (by simp)
    · cases List.mem_singleton.mp hr
      exact hending.trans hw
  · intro why hw
    refine Or.inr (Or.inr ⟨inv.node.id, result, ?_, hending.symm.trans hw⟩)
    exact List.mem_append_right _ (List.mem_singleton_self _)

end Complete

/-! ### Ending -/

theorem Sound.decide (h : c.Sound allowed g input) {why : Termination} (he : c.ending = none)
    (hn : c.run.next = .stop why) :
    Sound allowed g input { c with ending := some why } := by
  refine { h with
    settling := h.settling
    mem_inFlight := fun _ => h.mem_inFlight (Or.inl he)
    verdict_ending := ?_
    ending_cases := ?_ }
  · intro v r w hr hw
    exact absurd (he.symm.trans (h.verdict_ending v r w hr hw)) (by simp)
  · intro w hw
    obtain rfl := Option.some.inj hw
    rcases Run.next_eq_stop.mp hn with ⟨hc, rfl⟩ | ⟨-, hr, hf, rfl⟩
    · exact Or.inr (Or.inl ⟨rfl, hc⟩)
    · exact Or.inl ⟨rfl, hr, hf⟩

theorem Sound.of_drains (h : c.Sound allowed g input) (hd : c.Drains) :
    c.run.ready = [] ∧ c.run.inFlight = [] := by
  rcases h.ending_cases _ hd with ⟨-, hr, hf⟩ | ⟨hw, -⟩ | ⟨v, r, -, hv⟩
  · exact ⟨hr, hf⟩
  · cases hw
  · exact absurd hv Graph.verdict_ne_drained

theorem Sound.report (h : c.Sound allowed g input) {why : Termination} {id : String}
    {rest : List String} (he : c.ending = some why) (hf : c.run.inFlight = id :: rest) :
    Sound allowed g input { c with run := c.run.report id } := by
  have hdrained : why ≠ .drained := by
    rintro rfl
    have hnil := (h.of_drains he).2
    rw [hf] at hnil
    cases hnil
  have hflight : (c.run.report id).inFlight = c.run.inFlight.erase id := rfl
  refine { h with
    settling := h.settling.congr (fun _ => Iff.rfl) (fun _ => Iff.rfl)
      (fun _ => Iff.rfl) rfl rfl rfl rfl
    input_eq := h.input_eq
    inFlight_nodup := hflight ▸ h.inFlight_nodup.erase id
    inFlight_given := fun v hv => h.inFlight_given v (List.mem_of_mem_erase (hflight ▸ hv))
    inFlight_fresh := fun v hv => h.inFlight_fresh v (List.mem_of_mem_erase (hflight ▸ hv))
    mem_inFlight := ?_
    ending_cases := ?_ }
  · rintro (hnone | hsome)
    · exact absurd (he.symm.trans hnone) (by simp)
    · exact absurd (Option.some.inj (he.symm.trans hsome)) hdrained
  · rintro w hw
    obtain rfl := Option.some.inj (he.symm.trans hw)
    exact (h.ending_cases why he).imp_left fun hd => absurd hd.1 hdrained

/-! ### Courses -/

theorem Sound.step (hg : g.Valid) (h : c.Sound allowed g input) (hs : Step allowed c d) :
    d.Sound allowed g input := by
  cases hs with
  | dispatch he hn => exact h.dispatch he hn
  | complete elapsed he hn hi hf ha => exact h.complete hg he hi hf ha
  | decide he hn => exact h.decide he hn
  | report he hf => exact h.report he hf
  | close elapsed he hf ho => exact h.congr rfl rfl rfl rfl rfl rfl id
  | emit data hi => exact h.congr rfl rfl rfl rfl rfl rfl id
  | cancel => exact h.congr rfl rfl rfl rfl rfl rfl fun _ => rfl

theorem Sound.later (hg : g.Valid) (h : c.Sound allowed g input) (hl : Later allowed c d) :
    d.Sound allowed g input := by
  induction hl with
  | refl => exact h
  | tail _ hs ih => exact ih.step hg hs

theorem Reached.sound (hg : g.Valid) (h : Reached allowed g input c) :
    c.Sound allowed g input := (begin_sound hg).later hg h

end Workflow.Course
