import Workflow.Proofs.Event.History
import Workflow.Proofs.Run.Bookkeeping

/-! What the history of a run tells, in every reachable course: the events of each node follow one
another as they should, they agree with the records of the course, and the end of the run comes
last. -/
namespace Workflow.Course

variable {allowed : Invocation → Except NodeFault Outcome → Prop} {g : Graph} {input : Fields}
  {c d : Course}

/-- The events so far. -/
def whats (c : Course) : List Happening := c.run.history.whats

/-- The events about a node so far. -/
def about (c : Course) (v : String) : List Happening := c.run.history.about v

/-- The last events of a run that has turned out in some way. -/
def Farewell : Option RunOutcome → List Happening → Prop
  | none, last => last = []
  | some o, last => ∃ elapsed,
    last = [.workflowEnd o.status o.output (o.error.map (·.message)) elapsed]

/-- How the history fits the records of a course. -/
structure Told (g : Graph) (c : Course) : Prop where
  numbered : c.run.history.Numbered
  closed_iff : c.run.history.closed = true ↔ c.Finished
  ended : c.Finished → c.ending ≠ none ∧ c.run.inFlight = []
  /-- The start of the run comes first, and then events about nodes, until the run ends. -/
  framed : ∃ middle last, c.whats = .workflowStart g.workflowId :: (middle ++ last) ∧
    (∀ what ∈ middle, ∃ v, what.node? = some v) ∧ Farewell c.run.outcome last
  silent : ∀ v, ¬ c.Given v → c.about v = []
  underway : ∀ v ∈ c.run.inFlight, Underway v (c.about v)
  landed : ∀ v, c.Given v → v ∉ c.run.inFlight → Ended v (c.about v)
  sealed_iff : ∀ v, v ∈ c.run.history.sealedNodes ↔ c.Given v ∧ v ∉ c.run.inFlight
  /-- Every result is told of. -/
  told : ∀ v result, (v, result) ∈ c.results → ∃ elapsed, tidings v elapsed result ∈ c.whats

theorem begin_told : (begin g input).Told g := by
  have hno : ∀ v, ¬ (begin g input).Given v := by
    rintro v ⟨inv, hi, -⟩
    cases hi
  have hwhats : (begin g input).whats = [.workflowStart g.workflowId] := rfl
  refine ⟨?_, ?_, ?_, ?_, ?_, ?_, ?_, ?_, ?_⟩
  · exact History.Numbered.publish (fun i e he => by cases he) _
  · exact iff_of_false Bool.false_ne_true Bool.false_ne_true
  · exact fun hf => absurd hf Bool.false_ne_true
  · exact ⟨[], [], hwhats, fun what hw => absurd hw List.not_mem_nil, rfl⟩
  · intro v _
    rfl
  · exact fun v hv => absurd hv List.not_mem_nil
  · exact fun v hv => absurd hv (hno v)
  · exact fun v => iff_of_false List.not_mem_nil fun hv => hno v hv.1
  · exact fun v result hr => absurd hr List.not_mem_nil

namespace Told

theorem not_closed (h : c.Told g) (ho : ¬ c.Finished) : c.run.history.closed = false :=
  Bool.eq_false_iff.mpr fun hc => ho (h.closed_iff.mp hc)

theorem not_finished (h : c.Told g) (he : c.ending = none) : ¬ c.Finished :=
  fun hf => (h.ended hf).1 he

/-- An event about a node, let in before the run has ended, comes right after the others. -/
theorem framed_tell (h : c.Told g) (ho : ¬ c.Finished) {what : Happening} {v : String}
    (hv : what.node? = some v) (ha : c.run.history.admits what = true) {outcome : Option RunOutcome}
    (hout : outcome = c.run.outcome) :
    ∃ middle last, (c.run.history.publish what).whats =
      .workflowStart g.workflowId :: (middle ++ last) ∧
      (∀ what ∈ middle, ∃ v, what.node? = some v) ∧ Farewell outcome last := by
  obtain ⟨middle, last, heq, hmiddle, hlast⟩ := h.framed
  have hnone : c.run.outcome = none := by simpa [Finished] using ho
  rw [hnone] at hlast
  obtain rfl : last = [] := hlast
  refine ⟨middle ++ [what], [], ?_, ?_, ?_⟩
  · have hwhats : c.run.history.whats = _ := heq
    rw [History.whats_publish, if_pos ha, hwhats]
    simp
  · intro x hx
    rcases List.mem_append.mp hx with hx | hx
    · exact hmiddle x hx
    · exact ⟨v, List.mem_singleton.mp hx ▸ hv⟩
  · rw [hout, hnone]
    rfl

theorem told_publish (h : c.Told g) (what : Happening) {v : String}
    {result : Except NodeFault Outcome} (hr : (v, result) ∈ c.results) :
    ∃ elapsed, tidings v elapsed result ∈ (c.run.history.publish what).whats := by
  obtain ⟨elapsed, hmem⟩ := h.told v result hr
  refine ⟨elapsed, ?_⟩
  rw [History.whats_publish]
  split
  · exact List.mem_append_left _ hmem
  · exact hmem

theorem admits_start (h : c.Told g) (ho : ¬ c.Finished) (v : String) (type : NodeType)
    (name : String) : c.run.history.admits (.nodeStart v type name) = true := by
  simp [History.admits, h.not_closed ho]

/-- The end of a node in flight is let in. -/
theorem admits_end (h : c.Told g) (ho : ¬ c.Finished) {v : String} (hv : v ∈ c.run.inFlight)
    {what : Happening} (hw : what.ends? = some v) : c.run.history.admits what = true :=
  (History.admits_end hw).mpr ⟨h.not_closed ho, fun hx => ((h.sealed_iff v).mp hx).2 hv⟩

/-! ### Steps -/

/-- An event about a node in flight, or about one that starts, is told after what was told of the
node before. The node is then still underway, or it has ended. -/
theorem tell (h : c.Told g) (ho : ¬ c.Finished) {id : String} {what : Happening}
    (hnode : what.node? = some id) (ha : c.run.history.admits what = true)
    (hhist : d.run.history = c.run.history.publish what) (hout : d.run.outcome = c.run.outcome)
    (hother : ∀ v, v ≠ id → (d.Given v ↔ c.Given v) ∧ (v ∈ d.run.inFlight ↔ v ∈ c.run.inFlight))
    (hid : d.Given id) (hfresh : c.Given id → id ∈ c.run.inFlight)
    (hopen : id ∈ d.run.inFlight → what.ends? = none ∧ Underway id (c.about id ++ [what]))
    (hend : id ∉ d.run.inFlight → what.ends? = some id ∧ Underway id (c.about id))
    (hresults : ∀ v result, (v, result) ∈ d.results →
      (v, result) ∈ c.results ∨ ∃ elapsed, what = tidings v elapsed result) : d.Told g := by
  have hends : what.endsRun = false := by
    cases what <;> simp_all [Happening.node?, Happening.endsRun]
  have hfin : ¬ d.Finished := by rwa [Finished, hout]
  have habout : ∀ v, d.about v = if v = id then c.about v ++ [what] else c.about v := by
    intro v
    rw [about, hhist, History.about_publish_of_admits ha hnode]
    rfl
  refine {
    numbered := hhist ▸ h.numbered.publish what
    closed_iff := ?_
    ended := fun hf => absurd hf hfin
    framed := ?_
    silent := ?_
    underway := ?_
    landed := ?_
    sealed_iff := ?_
    told := ?_ }
  · rw [hhist, History.closed_publish ha, hends]
    exact iff_of_false Bool.false_ne_true hfin
  · rw [whats, hhist]
    exact h.framed_tell ho hnode ha hout
  · intro v hv
    have hne : v ≠ id := fun heq => hv (heq ▸ hid)
    rw [habout, if_neg hne]
    exact h.silent v fun hx => hv ((hother v hne).1.mpr hx)
  · intro v hv
    rw [habout]
    split
    · subst v
      exact (hopen hv).2
    · rename_i hne
      exact h.underway v ((hother v hne).2.mp hv)
  · intro v hv hf
    rw [habout]
    split
    · subst v
      exact ⟨c.about id, what, rfl, (hend hf).2, (hend hf).1⟩
    · rename_i hne
      exact h.landed v ((hother v hne).1.mp hv) fun hx => hf ((hother v hne).2.mpr hx)
  · intro v
    have hnot : id ∉ c.run.history.sealedNodes := fun hx =>
      ((h.sealed_iff id).mp hx).2 (hfresh ((h.sealed_iff id).mp hx).1)
    rw [hhist, History.sealedNodes_publish ha]
    by_cases hf : id ∈ d.run.inFlight
    · rw [(hopen hf).1]
      by_cases hv : v = id
      · subst hv
        exact iff_of_false hnot fun hx => hx.2 hf
      · rw [(hother v hv).1, (hother v hv).2]
        exact h.sealed_iff v
    · rw [(hend hf).1, List.mem_cons]
      by_cases hv : v = id
      · subst hv
        exact iff_of_true (Or.inl rfl) ⟨hid, hf⟩
      · rw [(hother v hv).1, (hother v hv).2, or_iff_right hv]
        exact h.sealed_iff v
  · intro v result hr
    rw [whats, hhist]
    rcases hresults v result hr with hr | ⟨elapsed, rfl⟩
    · exact h.told_publish what hr
    · refine ⟨elapsed, ?_⟩
      rw [History.whats_publish, if_pos ha]
      exact List.mem_append_right _ (List.mem_singleton_self _)

theorem dispatch (h : c.Told g) (hs : c.Sound allowed g input) {id : String}
    (he : c.ending = none) (hn : c.run.next = .start id) : c.dispatch.Told g := by
  obtain ⟨node, ready, hr, hnode, rfl, heq⟩ := hs.dispatch_eq hn
  have ho := h.not_finished he
  have hnew : ¬ c.Given node.id := hs.settling.ready_fresh _ (hr ▸ List.mem_cons_self)
  have ha := h.admits_start ho node.id node.type node.name
  have hgiven : ∀ v, c.dispatch.Given v ↔ c.Given v ∨ v = node.id := by
    intro v
    rw [heq, given_append]
    exact Iff.rfl
  have hflight : ∀ v, v ∈ c.dispatch.run.inFlight ↔ v = node.id ∨ v ∈ c.run.inFlight := by
    intro v
    rw [heq]
    exact Run.mem_insertId
  have hhist : c.dispatch.run.history =
      c.run.history.publish (.nodeStart node.id node.type node.name) := by rw [heq]; rfl
  refine h.tell ho rfl ha hhist (by rw [heq]; rfl) (fun v hv => ⟨?_, ?_⟩)
    ((hgiven _).mpr (Or.inr rfl)) (absurd · hnew) (fun _ => ⟨rfl, ?_⟩)
    (fun hf => absurd ((hflight _).mpr (Or.inl rfl)) hf) fun v result hx => Or.inl hx
  · rw [hgiven, or_iff_left hv]
  · rw [hflight, or_iff_right hv]
  · rw [h.silent _ hnew]
    exact ⟨node.type, node.name, [], rfl, fun p hp => absurd hp List.not_mem_nil⟩

/-- A node in flight ends, with its result or because the run winds down. -/
theorem conclude (h : c.Told g) (hs : c.Sound allowed g input) (ho : ¬ c.Finished) {id : String}
    (hid : id ∈ c.run.inFlight) {what : Happening} (hw : what.ends? = some id) {run : Run}
    {results : List (String × Except NodeFault Outcome)} {ending : Option Termination}
    (hhist : run.history = c.run.history.publish what)
    (hflight : run.inFlight = c.run.inFlight.erase id) (hout : run.outcome = c.run.outcome)
    (hresults : ∀ v result, (v, result) ∈ results →
      (v, result) ∈ c.results ∨ ∃ elapsed, what = tidings v elapsed result) :
    Told g ⟨run, c.given, results, ending⟩ := by
  have hmem : ∀ v, v ∈ run.inFlight ↔ v ≠ id ∧ v ∈ c.run.inFlight := by
    intro v
    rw [hflight]
    exact hs.inFlight_nodup.mem_erase_iff
  have ha := h.admits_end ho hid hw
  refine h.tell ho (Happening.node?_of_ends? hw) ha hhist hout (fun v hv => ⟨Iff.rfl, ?_⟩)
    (hs.inFlight_given id hid) (fun _ => hid) (fun hf => absurd rfl ((hmem id).mp hf).1)
    (fun _ => ⟨hw, h.underway id hid⟩) hresults
  show v ∈ run.inFlight ↔ _
  rw [hmem, and_iff_right hv]

/-- A part of an output is told between the start and the end of its node, or not at all. -/
theorem emit (h : c.Told g) {inv : Invocation} (hi : inv ∈ c.given) (data : Json) :
    Told g { c with run := c.run.emit inv.node.id data } := by
  by_cases ha : c.run.history.admits (.nodeOutput inv.node.id data) = true
  · obtain ⟨hclosed, hunsealed⟩ := History.admits_part.mp ha
    have ho : ¬ c.Finished := fun hf => Bool.noConfusion (hclosed.symm.trans (h.closed_iff.mpr hf))
    have hflight : inv.node.id ∈ c.run.inFlight := by
      by_contra hf
      exact hunsealed ((h.sealed_iff _).mpr ⟨⟨inv, hi, rfl⟩, hf⟩)
    have hhist : (c.run.emit inv.node.id data).history =
        c.run.history.publish (.nodeOutput inv.node.id data) := rfl
    exact h.tell ho rfl ha hhist rfl
      (fun v _ => ⟨Iff.rfl, Iff.rfl⟩) ⟨inv, hi, rfl⟩ (fun _ => hflight)
      (fun _ => ⟨rfl, (h.underway _ hflight).snoc ⟨data, rfl⟩⟩) (fun hf => absurd hflight hf)
      fun v result hr => Or.inl hr
  · have heq : c.run.emit inv.node.id data = c.run := by
      rw [Run.emit, Run.publish, History.publish_of_not_admits ha]
    rw [heq]
    exact h

/-- The end of the run is told once nothing is in flight. -/
theorem close (h : c.Told g) {why : Termination} {elapsed : ℕ} (he : c.ending = some why)
    (hf : c.run.inFlight = []) (ho : c.run.outcome = none) :
    Told g { c with run := c.run.close why elapsed } := by
  have hnot : ¬ c.Finished := by simp [Finished, ho]
  obtain ⟨what, hhist, hnode, hends, hlast, hrun⟩ : ∃ what,
      (c.run.close why elapsed).history = c.run.history.publish what ∧ what.node? = none ∧
      what.ends? = none ∧ Farewell (c.run.close why elapsed).outcome [what] ∧ what.endsRun = true :=
    ⟨_, rfl, rfl, rfl, ⟨elapsed, rfl⟩, rfl⟩
  have ha : c.run.history.admits what = true := by
    cases what <;> simp_all [History.admits, h.not_closed hnot, Happening.endsRun]
  have habout : ∀ v, (c.run.close why elapsed).history.about v = c.about v := by
    intro v
    rw [hhist, History.about_publish, hnode, if_neg (by simp)]
    rfl
  refine {
    numbered := hhist ▸ h.numbered.publish what
    closed_iff := ?_
    ended := fun _ => ⟨by simp [he], hf⟩
    framed := ?_
    silent := fun v hv => (habout v).trans (h.silent v hv)
    underway := fun v hv => Eq.subst (habout v).symm (h.underway v hv)
    landed := fun v hv hx => Eq.subst (habout v).symm (h.landed v hv hx)
    sealed_iff := ?_
    told := ?_ }
  · show (c.run.close why elapsed).history.closed = true ↔ _
    rw [hhist, History.closed_publish ha, hrun]
    exact iff_of_true rfl rfl
  · obtain ⟨middle, last, heq, hmiddle, hl⟩ := h.framed
    rw [ho] at hl
    obtain rfl : last = [] := hl
    refine ⟨middle, [what], ?_, hmiddle, hlast⟩
    have hwhats : c.run.history.whats = _ := heq
    show (c.run.close why elapsed).history.whats = _
    rw [hhist, History.whats_publish, if_pos ha, hwhats]
    simp
  · intro v
    show v ∈ (c.run.close why elapsed).history.sealedNodes ↔ _
    rw [hhist, History.sealedNodes_publish ha, hends]
    exact h.sealed_iff v
  · intro v result hr
    show ∃ elapsed', tidings v elapsed' result ∈ (c.run.close why elapsed).history.whats
    rw [hhist]
    exact h.told_publish what hr

theorem step (h : c.Told g) (hs : c.Sound allowed g input) (hstep : Step allowed c d) :
    d.Told g := by
  cases hstep with
  | dispatch he hn => exact h.dispatch hs he hn
  | @complete inv result elapsed he hn hi hf ha =>
    obtain ⟨arcs, resolved, ready, hrun⟩ := Run.complete_fst_eq c.run inv.node.id result elapsed
    refine h.conclude hs (h.not_finished he) hf (tidings_ends? _ elapsed result)
      (congrArg Run.history hrun) (congrArg Run.inFlight hrun)
      ((congrArg Run.outcome hrun).trans rfl) ?_
    intro v r hr
    rcases List.mem_append.mp hr with hr | hr
    · exact Or.inl hr
    · cases List.mem_singleton.mp hr
      exact Or.inr ⟨elapsed, rfl⟩
  | decide he hn =>
    exact { h with ended := fun hf => absurd hf (h.not_finished he) }
  | report he hf =>
    have ho : ¬ c.Finished := fun hfin => by simp [(h.ended hfin).2] at hf
    exact h.conclude hs ho (hf ▸ List.mem_cons_self) rfl rfl rfl rfl fun _ _ hr => Or.inl hr
  | close elapsed he hf ho => exact h.close he hf ho
  | emit data hi => exact h.emit hi data
  | cancel => exact { h with }

end Told

/-- A node whose start has been told. -/
def Started (c : Course) (v : String) : Prop := ∃ what ∈ c.whats, what.starts? = some v

/-- The nodes that were given their invocations are those whose starts were told. -/
theorem Told.given_iff_started (h : c.Told g) {v : String} : c.Given v ↔ c.Started v := by
  constructor
  · intro hv
    have hopen : ∃ events, Underway v events ∧ events ⊆ c.about v := by
      by_cases hf : v ∈ c.run.inFlight
      · exact ⟨_, h.underway v hf, List.Subset.refl _⟩
      · obtain ⟨before, last, heq, hopen, -⟩ := h.landed v hv hf
        exact ⟨before, hopen, heq ▸ List.subset_append_left _ _⟩
    obtain ⟨_, ⟨type, name, parts, rfl, -⟩, hsub⟩ := hopen
    exact ⟨_, (History.mem_about.mp (hsub List.mem_cons_self)).1, rfl⟩
  · rintro ⟨what, hmem, hstarts⟩
    by_contra hv
    have hin : what ∈ c.about v :=
      History.mem_about.mpr ⟨hmem, Happening.node?_of_starts? hstarts⟩
    rw [h.silent v hv] at hin
    cases hin

/-- The events that have ended the node. -/
def endings (c : Course) (v : String) : List Happening :=
  c.whats.filter fun what => what.ends? == some v

theorem mem_endings {v : String} {what : Happening} :
    what ∈ c.endings v ↔ what ∈ c.whats ∧ what.ends? = some v := by
  simp [endings]

theorem endings_eq_about (c : Course) (v : String) :
    c.endings v = (c.about v).filter fun what => what.ends? == some v := by
  rw [about, History.about, List.filter_filter]
  refine List.filter_congr fun what _ => ?_
  by_cases hw : what.ends? = some v
  · simp [hw, Happening.node?_of_ends? hw]
  · simp [hw]

/-- A node has not ended before it comes back or is reported. -/
theorem Told.endings_eq_nil (h : c.Told g) {v : String} (hv : ¬ c.Given v ∨ v ∈ c.run.inFlight) :
    c.endings v = [] := by
  rw [endings_eq_about]
  rcases hv with hv | hv
  · rw [h.silent v hv]
    rfl
  · exact (h.underway v hv).filter_ends

/-- Then it has ended once and for all. -/
theorem Told.endings_eq_singleton (h : c.Told g) {v : String} (hv : c.Given v)
    (hf : v ∉ c.run.inFlight) : ∃ last, c.endings v = [last] := by
  obtain ⟨before, last, heq, hbefore, hlast⟩ := h.landed v hv hf
  refine ⟨last, ?_⟩
  rw [endings_eq_about, heq, List.filter_append, hbefore.filter_ends]
  simp [hlast]

/-- No two events end the same node. -/
theorem Told.ending_unique (h : c.Told g) {v : String} {what what' : Happening}
    (hw : what ∈ c.endings v) (hw' : what' ∈ c.endings v) : what = what' := by
  by_cases hv : ¬ c.Given v ∨ v ∈ c.run.inFlight
  · rw [h.endings_eq_nil hv] at hw
    cases hw
  · rw [not_or, not_not] at hv
    obtain ⟨last, hlast⟩ := h.endings_eq_singleton hv.1 hv.2
    rw [hlast, List.mem_singleton] at hw hw'
    rw [hw, hw']

/-- The result of a node is all that its end tells of. -/
theorem Told.endings_of_result (ht : c.Told g) (h : c.Sound allowed g input) {v : String}
    {result : Except NodeFault Outcome} (hr : (v, result) ∈ c.results) :
    ∃ elapsed, c.endings v = [tidings v elapsed result] := by
  have hreturned : c.Returned v := ⟨result, hr⟩
  obtain ⟨elapsed, hmem⟩ := ht.told v result hr
  obtain ⟨last, hlast⟩ := ht.endings_eq_singleton (h.given hreturned)
    fun hf => h.inFlight_fresh v hf hreturned
  have hend := mem_endings.mpr ⟨hmem, tidings_ends? v elapsed result⟩
  rw [hlast, List.mem_singleton] at hend
  exact ⟨elapsed, hend ▸ hlast⟩

/-- The history of a finished run ends with how the run has turned out. -/
theorem Told.getLast?_whats (h : c.Told g) {o : RunOutcome} (ho : c.run.outcome = some o) :
    ∃ elapsed, c.whats.getLast? =
      some (.workflowEnd o.status o.output (o.error.map (·.message)) elapsed) := by
  obtain ⟨middle, last, heq, -, hlast⟩ := h.framed
  rw [ho] at hlast
  obtain ⟨elapsed, rfl⟩ := hlast
  refine ⟨elapsed, ?_⟩
  rw [heq, ← List.cons_append, List.getLast?_append]
  rfl

theorem Reached.told (hg : g.Valid) (h : Reached allowed g input c) : c.Told g := by
  induction h with
  | refl => exact begin_told
  | tail hl hs ih => exact ih.step (Reached.sound hg hl) hs

end Workflow.Course
