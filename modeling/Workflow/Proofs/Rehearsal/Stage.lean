import Workflow.Proofs.Rehearsal.Task

/-! Rehearsed runs are performances: whatever happens on a stage, it takes the run, and the work of
its nodes, only along the steps of a performance of its graph. -/
namespace Workflow
namespace Stage

open Performance (Performed)

variable {hired : Invocation → Work → Prop} {g : Graph} {input : Fields} {s s' : Stage}
  {p : Performance}

/-! ### The run -/

/-- A run that has a reason to stop ends its performance. -/
theorem Follows.stop (hg : g.Valid) (h : Follows hired g input s [] p) {why : Termination}
    (he : p.course.ending = some why) (ho : s.run.outcome = none) :
    Plays hired g input (s.advance (s.run.stop why s.clock)) := by
  have hdrained : why = .drained → p.course.run.inFlight = [] := fun hw =>
    (((h.performed.reached hg).sound hg).of_drains (he.trans (congrArg some hw))).2
  have hturns := p.course.turns_stop why s.clock he (h.run_eq.symm ▸ ho) hdrained
  have hstop : Follows hired g input { s with run := s.run.stop why s.clock } []
      { p with course := { p.course with run := p.course.run.stop why s.clock } } :=
    ⟨h.performed.turns hturns, h.hires_eq, by rw [h.run_eq],
      Fits.congr { h.fits with } rfl rfl rfl⟩
  refine ⟨_, hstop.advance, fun hn => ?_⟩
  rw [outcome_advance] at hn
  cases hn

theorem Fits.assign (h : s.Fits [] p) {t : Task} (hmatches : t.Matches p)
    (hfresh : ¬ p.course.Returned t.invocation.node.id) (hnew : t.invocation.node.id ∉ s.owed) :
    Fits { s with
      tasks := s.tasks ++ [t], queue := s.queue ++ [.task t.invocation.node.id] } [] p := by
  have howed : List.Perm (owed { s with
      tasks := s.tasks ++ [t], queue := s.queue ++ [.task t.invocation.node.id] })
      (t.invocation.node.id :: s.owed) := by
    show List.Perm (List.map _ (_ ++ [t]) ++ _) (_ :: (s.busy ++ _))
    rw [List.map_append, List.append_assoc]
    exact List.perm_middle
  refine ⟨fun v hv => ?_, fun v hv => ?_, ?_, fun id data hmem => ?_, h.alarmed,
    fun u hu hx => ?_, h.results⟩
  · rcases List.mem_cons.mp (howed.mem_iff.mp hv) with rfl | hv
    · exact ⟨t.invocation, hmatches.1, rfl⟩
    · exact h.owed_given v hv
  · rcases List.mem_cons.mp (howed.mem_iff.mp hv) with rfl | hv
    · exact hfresh
    · exact h.owed_fresh v hv
  · exact howed.nodup_iff.mpr (List.nodup_cons.mpr ⟨hnew, h.owed_nodup⟩)
  · rcases List.mem_append.mp hmem with hmem | hmem
    · exact h.queued id data hmem
    · cases List.mem_singleton.mp hmem
  · rcases List.mem_append.mp hu with hu | hu
    · exact h.tasks u hu hx
    · exact List.mem_singleton.mp hu ▸ hmatches

theorem Plays.dispatch (hg : g.Valid) (h : Plays hired g input s) (ho : s.run.outcome = none)
    {id : String} (hn : s.run.next = .start id) :
    ∃ run inv, s.run.start = (run, some inv) ∧ run.outcome = none ∧
      Plays hired g input { s.advance run with
        tasks := (s.advance run).tasks ++ [{ invocation := inv, rest := .never }]
        queue := (s.advance run).queue ++ [.task inv.node.id] } := by
  obtain ⟨p, hp, hending⟩ := h
  have he := hending ho
  have hkept := hp.performed.kept hg
  have hsound := hkept.reached.sound hg
  have hnext : p.course.run.next = .start id := hp.run_eq.symm ▸ hn
  have hperformed := hp.performed.dispatch id he hnext
  obtain ⟨node, ready, hr, hnode, rfl, heq⟩ := hsound.dispatch_eq hnext
  rw [heq] at hperformed
  rw [hp.run_eq] at hr hperformed
  have hstart : s.run.start = (s.run.launch node, some (s.run.invocation node)) :=
    Run.start_eq hr (hp.run_eq ▸ hsound.settling.graph_eq.symm ▸ hnode)
  have hnew : ¬ p.course.Given node.id :=
    hsound.settling.ready_fresh _ (hp.run_eq.symm ▸ hr ▸ List.mem_cons_self)
  have hjobs : p.jobs node.id = none := by
    by_contra hsome
    obtain ⟨job, hj⟩ := Option.ne_none_iff_exists'.mp hsome
    exact hnew (hkept.employs _ job hj).course_given
  have hgiven : ∀ v, Course.Given { p.course with
      run := s.run.launch node, given := p.course.given ++ [s.run.invocation node] } v ↔
        p.course.Given v ∨ v = node.id := fun v => Course.given_append
  have hlaunch : Follows hired g input { s with run := s.run.launch node } [] { p with
      course := { p.course with
        run := s.run.launch node, given := p.course.given ++ [s.run.invocation node] } } := by
    refine ⟨hperformed, hp.hires_eq, rfl,
      { hp.fits with owed_given := ?_, tasks := fun t ht hx => ?_ }⟩
    · exact fun v hv => (hgiven v).mpr (Or.inl (hp.fits.owed_given v hv))
    · exact (hp.fits.tasks t ht hx).imp_left (List.mem_append_left _)
  refine ⟨s.run.launch node, _, hstart, ho, _, hlaunch.advance.keep rfl rfl ?_, fun _ => he⟩
  refine hlaunch.advance.fits.assign (t := { invocation := s.run.invocation node, rest := .never })
    ⟨List.mem_append_right _ (List.mem_singleton_self _), hjobs⟩
    (fun hret => hnew (hsound.given hret)) ?_
  rw [owed, busy, (advance_owed _ _).1, (advance_owed _ _).2]
  exact fun hmem => hnew (hp.fits.owed_given _ hmem)

/-- The result that comes first is taken in. -/
theorem Follows.complete (hg : g.Valid) (h : Follows hired g input s [] p)
    (he : p.course.ending = none) (hn : s.run.next = .await) {id : String}
    {result : Except NodeFault Outcome} {elapsed : ℕ}
    {results : List (String × Except NodeFault Outcome × ℕ)}
    (hr : s.results = (id, result, elapsed) :: results) : ∃ q : Performance,
      q.course = p.course.complete id result elapsed ∧ Follows hired g input
        { s with results, run := (s.run.complete id result elapsed).1 } [] q := by
  have hsound := (h.performed.reached hg).sound hg
  have hnext : p.course.run.next = .await := h.run_eq.symm ▸ hn
  have howed : s.owed.Perm (id :: (s.busy ++ results.map (·.1))) := by
    rw [owed, hr]
    exact List.perm_middle
  have hmem : id ∈ s.owed := howed.mem_iff.mpr List.mem_cons_self
  have hfresh := h.fits.owed_fresh _ hmem
  have hflight := hsound.mem_inFlight (Or.inl he) id (h.fits.owed_given id hmem) hfresh
  obtain ⟨hnot, hnodup⟩ := List.nodup_cons.mp (howed.nodup_iff.mp h.fits.owed_nodup)
  have hrest : ∀ v ∈ s.busy ++ results.map (·.1), v ∈ s.owed := fun v hv =>
    howed.mem_iff.mpr (List.mem_cons_of_mem _ hv)
  have hreturned : ∀ v ∈ s.busy ++ results.map (·.1),
      ¬ (p.course.complete id result elapsed).Returned v := by
    rintro v hv ⟨r, hret⟩
    rcases List.mem_append.mp hret with hret | hret
    · exact h.fits.owed_fresh v (hrest v hv) ⟨r, hret⟩
    · cases List.mem_singleton.mp hret
      exact hnot hv
  have hfits : ∀ interrupted,
      Fits { s with results, run := (s.run.complete id result elapsed).1 } []
        ⟨p.course.complete id result elapsed, p.jobs, interrupted⟩ := fun _ => { h.fits with
    owed_given := fun v hv => h.fits.owed_given v (hrest v hv)
    owed_fresh := hreturned
    owed_nodup := hnodup
    results := fun v r e hm => h.fits.results v r e (hr ▸ List.mem_cons_of_mem _ hm) }
  have hrun : (p.course.complete id result elapsed).run = (s.run.complete id result elapsed).1 := by
    rw [← h.run_eq]
    rfl
  rcases h.fits.results id result elapsed (hr ▸ List.mem_cons_self) with
    ⟨job, hj, hdone⟩ | ⟨fault, rfl⟩
  · obtain rfl := h.performed.job_id hg hj
    have hfinish := h.performed.finish _ _ elapsed hj hdone he hnext hflight
    exact ⟨_, rfl, hfinish, h.hires_eq, hrun, hfits p.interrupted⟩
  · obtain ⟨inv, hi, rfl⟩ := h.fits.owed_given id hmem
    have hinterrupt := h.performed.tail (.interrupt fault elapsed hi he hnext hflight)
    exact ⟨_, rfl, hinterrupt, h.hires_eq, hrun, hfits _⟩

theorem Plays.takeRunTurn (hg : g.Valid) (h : Plays hired g input s) (ho : s.run.outcome = none)
    (fuel : ℕ) : Plays hired g input (s.takeRunTurn fuel) := by
  induction fuel generalizing s with
  | zero => exact h
  | succ fuel ih =>
    rw [Stage.takeRunTurn]
    split
    · rename_i why hn
      obtain ⟨p, hp, hending⟩ := h
      have hdecided : Follows hired g input s []
          { p with course := { p.course with ending := some why } } := by
        have hturn := Course.Turn.decide (hending ho) (hp.run_eq.symm ▸ hn)
        exact ⟨hp.performed.tail (.turn hturn), hp.hires_eq, hp.run_eq, hp.fits.congr rfl rfl rfl⟩
      exact hdecided.stop hg rfl ho
    · rename_i id hn
      obtain ⟨run, inv, hstart, hout, hplays⟩ := h.dispatch hg ho hn
      rw [hstart]
      exact ih hplays ((outcome_advance _ _).trans hout)
    · rename_i hn
      split
      · exact h.keep rfl rfl fun p hf => { hf with }
      · rename_i id result elapsed results hr
        obtain ⟨p, hp, hending⟩ := h
        obtain ⟨arcs, resolved, ready, hrun⟩ := Run.complete_fst_eq s.run id result elapsed
        have hout : (s.run.complete id result elapsed).1.outcome = none :=
          (congrArg Run.outcome hrun).trans ho
        obtain ⟨q, hcourse, hq⟩ := hp.complete hg (hending ho) hn hr
        have hwhy : q.course.ending = (s.run.complete id result elapsed).2 := by
          rw [hcourse, ← hp.run_eq]
          rfl
        have hcomplete := Follows.advance (s := { s with results }) hq
        dsimp only
        split
        · rename_i why hsome
          exact hcomplete.stop hg (hwhy.trans hsome) ((outcome_advance _ _).trans hout)
        · rename_i hnone
          exact ih ⟨_, hcomplete, fun _ => hwhy.trans hnone⟩ ((outcome_advance _ _).trans hout)

/-! ### Turns and alarms -/

theorem outcome_ring (s : Stage) (alarm : Alarm) :
    (s.ring alarm).run.outcome = s.run.outcome := by
  cases alarm with
  | turn t => rfl
  | cancel =>
    show s.cancel.run.outcome = s.run.outcome
    rw [run_cancel]
    rfl

theorem Follows.ring (h : Follows hired g input s [] p) {alarm : Alarm}
    (ha : ∀ id data, alarm = .turn (.errand id data) → p.Left id data) :
    Follows hired g input (s.ring alarm) []
      { p with course := { p.course with run := (s.ring alarm).run } } := by
  cases alarm with
  | turn t =>
    have hsame : { p with course := { p.course with run := (s.ring (.turn t)).run } } = p := by
      have hrun : (s.ring (.turn t)).run = p.course.run := h.run_eq.symm
      rw [hrun]
    rw [hsame]
    exact h.keep rfl rfl (h.fits.enqueue fun id data ht => ha id data (ht ▸ rfl))
  | cancel => exact h.cancel

/-- Time passes, and the alarms that are due ring. -/
theorem Plays.pass (h : Plays hired g input s) (hs : s.pass = some s') :
    Plays hired g input s' := by
  have hring : ∀ (due : List (ℕ × Alarm)) (s : Stage) (p : Performance),
      Follows hired g input s [] p → (s.run.outcome = none → p.course.ending = none) →
      (∀ time id data, (time, Alarm.turn (.errand id data)) ∈ due → p.Left id data) →
      Plays hired g input (due.foldl (fun s a => s.ring a.2) s) := by
    intro due
    induction due with
    | nil => exact fun s p hp he _ => ⟨p, hp, he⟩
    | cons a due ih =>
      intro s p hp he hdue
      refine ih _ _ (hp.ring fun id data ha => ?_)
        (fun ho => he ((outcome_ring s a.2).symm.trans ho))
        fun time id data hmem => hdue time id data (List.mem_cons_of_mem _ hmem)
      exact hdue a.1 id data (ha ▸ List.mem_cons_self)
  unfold Stage.pass at hs
  split at hs
  · cases hs
  · simp only [List.partition_eq_filter_filter] at hs
    obtain rfl := Option.some.inj hs
    obtain ⟨p, hp, he⟩ := h
    have halarms := hp.fits.alarmed
    refine hring _ _ p (hp.keep rfl rfl (hp.fits.keep rfl rfl hp.fits.queued ?_)) he ?_
    · exact fun time id data hmem => halarms time id data (List.mem_of_mem_filter hmem)
    · exact fun time id data hmem => halarms time id data (List.mem_of_mem_filter hmem)

/-- An errand that a node has left behind is done. -/
theorem Follows.errand (hg : g.Valid) (h : Follows hired g input s [] p) {id : String} {data : Json}
    (hl : p.Left id data) : Follows hired g input (s.advance (s.run.emit id data)) []
      { p with course := { p.course with run := (s.advance (s.run.emit id data)).run } } := by
  obtain ⟨job, hj, hleave⟩ := hl
  obtain rfl := h.performed.job_id hg hj
  have hvoice : Follows hired g input { s with run := s.run.emit job.id data } []
      { p with course := p.course.voice job.id data } :=
    ⟨h.performed.tail (.errand hj hleave), h.hires_eq, by rw [← h.run_eq]; rfl,
      Fits.congr { h.fits with } rfl rfl rfl⟩
  exact hvoice.advance

theorem Plays.play (hg : g.Valid) (h : Plays hired g input s) (fuel : ℕ) :
    Plays hired g input (s.play fuel) := by
  induction fuel generalizing s with
  | zero => exact h
  | succ fuel ih =>
    rw [Stage.play]
    split
    · exact h
    · rename_i hout
      have ho : s.run.outcome = none := by simpa using hout
      split
      · rename_i t queue hq
        refine ih ?_
        have htail : ∀ p, s.Fits [] p → Fits { s with queue } [] p := fun p hf =>
          hf.keep rfl rfl (fun id data hm => hf.queued id data (hq ▸ List.mem_cons_of_mem _ hm))
            hf.alarmed
        have hplays : Plays hired g input { s with queue } := h.keep rfl rfl htail
        cases t with
        | run => exact hplays.takeRunTurn hg ho _
        | task id => exact hplays.takeTaskTurn hg id
        | errand id data =>
          obtain ⟨p, hp, he⟩ := h
          have hleft : p.Left id data := hp.fits.queued id data (hq ▸ List.mem_cons_self)
          have hqueue : Follows hired g input { s with queue } [] p :=
            hp.keep rfl rfl (htail p hp.fits)
          exact ⟨_, hqueue.errand hg hleft, fun _ => he ho⟩
      · split
        · rename_i s' hpass
          exact ih (h.pass hpass)
        · exact h

/-! ### Rehearsals -/

/-- A run begins on a stage without tasks and errands; it may have been cancelled already. -/
theorem plays_begin (hhires : s.hires = hired)
    (hrun : s.run = Run.ofGraph g input ∨ s.run = (Run.ofGraph g input).cancel)
    (htasks : s.tasks = []) (hresults : s.results = []) (hqueue : s.queue = [])
    (halarms : ∀ time t, (time, .turn t) ∉ s.alarms) :
    Plays hired g input { s.advance s.run.begin with queue := [.run] } := by
  have howed : s.owed = [] := by rw [owed, busy, htasks, hresults]; rfl
  have hfits : ∀ p, s.Fits [] p := fun p => {
    owed_given := fun v hv => absurd (howed ▸ hv) List.not_mem_nil
    owed_fresh := fun v hv => absurd (howed ▸ hv) List.not_mem_nil
    owed_nodup := howed.symm ▸ List.nodup_nil
    queued := fun id data hm => absurd (hqueue ▸ hm) List.not_mem_nil
    alarmed := fun time id data hm => absurd hm (halarms time _)
    tasks := fun t ht => absurd (htasks ▸ ht) List.not_mem_nil
    results := fun id result elapsed hm => absurd (hresults ▸ hm) List.not_mem_nil }
  have hbegin : ∃ p, Follows hired g input { s with run := s.run.begin } [] p ∧
      p.course.ending = none := by
    rcases hrun with hrun | hrun <;> rw [hrun]
    · exact ⟨.begin g input, ⟨.refl, hhires, rfl, { hfits _ with }⟩, rfl⟩
    · exact ⟨_, ⟨Relation.ReflTransGen.refl.tail (.turn (.cancel _)), hhires, rfl,
        { hfits _ with }⟩, rfl⟩
  obtain ⟨p, hp, he⟩ := hbegin
  refine Plays.keep (s := s.advance s.run.begin) ⟨_, hp.advance, fun _ => he⟩ rfl rfl fun q hf => ?_
  exact hf.keep rfl rfl (fun id data hm => by cases List.mem_singleton.mp hm) hf.alarmed

/-- A rehearsed run is the run of a performance of its graph. -/
theorem rehearse_performed {w : Definition} (hw : Graph.compile w = .ok g) (input : Fields)
    (equipment : Equipment) (script : Script) (cancel : Option CancelTime) :
    ∃ p, Performed (Hires equipment (script.standIns.map (·.1))) g input p ∧
      p.course.run = (rehearse g input equipment script cancel).run := by
  have hplays : Plays (Hires equipment (script.standIns.map (·.1))) g input
      (rehearse g input equipment script cancel) := by
    refine Plays.play (Graph.compile_valid hw) ?_ patience
    rcases cancel with _ | (_ | ms | ⟨type, node⟩)
    · exact plays_begin rfl (Or.inl rfl) rfl rfl rfl fun _ _ hm => by cases hm
    · exact plays_begin rfl (Or.inr rfl) rfl rfl rfl fun _ _ hm => by cases hm
    · refine plays_begin rfl (Or.inl rfl) rfl rfl rfl fun time t hm => ?_
      cases List.mem_singleton.mp hm
    · exact plays_begin rfl (Or.inl rfl) rfl rfl rfl fun _ _ hm => by cases hm
  obtain ⟨p, hp, -⟩ := hplays
  exact ⟨p, hp.performed, hp.run_eq⟩

/-- A rehearsed run is the run of a course of its graph. -/
theorem rehearse_reached {w : Definition} (hw : Graph.compile w = .ok g) (equipment : Equipment)
    (script : Script) (cancel : Option CancelTime) :
    ∃ c, Course.Reached (fun _ _ => True) g input c ∧
      c.run = (rehearse g input equipment script cancel).run := by
  obtain ⟨p, hp, hrun⟩ := rehearse_performed hw input equipment script cancel
  exact ⟨p.course, hp.reached (Graph.compile_valid hw), hrun⟩

end Stage
end Workflow
