import Workflow.Proofs.Executor.Acts
import Workflow.Proofs.Run.Pruning
import Workflow.Proofs.Run.Telling

/-! Performances: runs together with the work that is done for their nodes. The run and the nodes
take their steps in any order; what a node publishes and comes back with is what its work makes of
the answers to its calls, unless the node is interrupted. -/
namespace Workflow

/-- The part of an output that the event carries, with its node. -/
def Happening.part? : Happening → Option (String × Json)
  | .nodeOutput id data => some (id, data)
  | _ => none

theorem Happening.part?_of_ends? {what : Happening} {v : String} (h : what.ends? = some v) :
    what.part? = none := by
  cases what with
  | nodeOutput id data => cases h
  | _ => rfl

namespace History

/-- The parts of outputs that were let in. -/
def parts (h : History) : List (String × Json) := h.whats.filterMap Happening.part?

theorem parts_publish (h : History) (what : Happening) : (h.publish what).parts =
    if h.admits what then h.parts ++ what.part?.toList else h.parts := by
  rw [parts, whats_publish]
  split
  · rw [List.filterMap_append]
    cases hw : what.part? <;> simp [parts, hw]
  · rfl

theorem parts_publish_of_none {what : Happening} (hw : what.part? = none) (h : History) :
    (h.publish what).parts = h.parts := by
  rw [parts_publish, hw]
  simp

end History

/-- The execution of a node so far. -/
structure Job where
  invocation : Invocation
  /-- The work that there was to do. -/
  work : Work
  acts : List Act := []
  /-- The work that is left. -/
  rest : Work

namespace Job

def id (job : Job) : String := job.invocation.node.id

/-- The job after a step of its work. -/
def advance (job : Job) (act : Option Act) (rest : Work) : Job where
  invocation := job.invocation
  work := job.work
  acts := job.acts ++ act.toList
  rest := rest

end Job

namespace Course

variable {allowed : Invocation → Except NodeFault Outcome → Prop} {g : Graph} {input : Fields}
  {c d : Course}

/-- The parts of the output of a node that were let in. -/
def outputs (c : Course) (v : String) : List Json :=
  (c.run.history.parts.filter (·.1 == v)).map (·.2)

/-- The run goes on by itself: no result is taken in, and no part of an output is published. -/
def Turn (c d : Course) : Prop :=
  Step (fun _ _ => False) c d ∧ d.run.history.parts = c.run.history.parts

/-- A node publishes a part of its output. -/
def voice (c : Course) (v : String) (data : Json) : Course := { c with run := c.run.emit v data }

theorem Step.mono {allowed' : Invocation → Except NodeFault Outcome → Prop}
    (h : ∀ inv result, allowed inv result → allowed' inv result) (hs : Step allowed c d) :
    Step allowed' c d := by
  cases hs with
  | dispatch he hn => exact .dispatch he hn
  | complete elapsed he hn hi hf ha => exact .complete elapsed he hn hi hf (h _ _ ha)
  | decide he hn => exact .decide he hn
  | report he hf => exact .report he hf
  | close elapsed he hf ho => exact .close elapsed he hf ho
  | emit data hi => exact .emit data hi
  | cancel => exact .cancel

theorem Turn.results (h : c.Turn d) : d.results = c.results := by
  cases h.1 with
  | complete elapsed he hn hi hf ha => exact ha.elim
  | _ => rfl

/-- No node starts twice. -/
theorem Step.inFlight_of_given (hs : Step allowed c d) (h : c.Sound allowed g input) {v : String}
    (hv : v ∈ d.run.inFlight) (hg : c.Given v) : v ∈ c.run.inFlight := by
  cases hs with
  | dispatch he hn =>
    obtain ⟨node, ready, hr, -, rfl, heq⟩ := h.dispatch_eq hn
    rw [heq] at hv
    refine (Run.mem_insertId.mp hv).resolve_left fun heq => ?_
    exact h.settling.ready_fresh _ (hr ▸ List.mem_cons_self) (heq ▸ hg)
  | @complete inv result elapsed he hn hi hf ha =>
    obtain ⟨arcs, resolved, ready, hrun⟩ := Run.complete_fst_eq c.run inv.node.id result elapsed
    have hflight : (c.complete inv.node.id result elapsed).run.inFlight =
        c.run.inFlight.erase inv.node.id := congrArg Run.inFlight hrun
    exact List.mem_of_mem_erase (hflight ▸ hv)
  | report he hf => exact List.mem_of_mem_erase hv
  | decide | close | emit | cancel => exact hv

theorem parts_complete (c : Course) (id : String) (result : Except NodeFault Outcome)
    (elapsed : ℕ) : (c.complete id result elapsed).run.history.parts = c.run.history.parts := by
  obtain ⟨arcs, resolved, ready, hrun⟩ := Run.complete_fst_eq c.run id result elapsed
  have hhist : (c.complete id result elapsed).run.history =
      c.run.history.publish (tidings id elapsed result) := congrArg Run.history hrun
  rw [hhist]
  exact History.parts_publish_of_none (Happening.part?_of_ends? (tidings_ends? id elapsed result)) _

theorem parts_dispatch (c : Course) :
    c.dispatch.run.history.parts = c.run.history.parts := by
  show c.run.start.1.history.parts = _
  unfold Run.start
  split
  · rfl
  · split
    · rfl
    · exact History.parts_publish_of_none rfl _

theorem Turn.dispatch {id : String} (he : c.ending = none) (hn : c.run.next = .start id) :
    c.Turn c.dispatch := ⟨.dispatch he hn, c.parts_dispatch⟩

theorem Turn.decide {why : Termination} (he : c.ending = none) (hn : c.run.next = .stop why) :
    c.Turn { c with ending := some why } := ⟨.decide he hn, rfl⟩

theorem Turn.cancel (c : Course) : c.Turn { c with run := c.run.cancel } := ⟨.cancel, rfl⟩

theorem Turn.report {why : Termination} {id : String} {rest : List String}
    (he : c.ending = some why) (hf : c.run.inFlight = id :: rest) :
    c.Turn { c with run := c.run.report id } :=
  ⟨.report he hf, History.parts_publish_of_none rfl _⟩

theorem Turn.close {why : Termination} (elapsed : ℕ) (he : c.ending = some why)
    (hf : c.run.inFlight = []) (ho : c.run.outcome = none) :
    c.Turn { c with run := c.run.close why elapsed } :=
  ⟨.close elapsed he hf ho, History.parts_publish_of_none rfl _⟩

/-- Stopping a run is reporting, one after the other, the nodes in flight, and closing it. -/
theorem turns_stop (c : Course) (why : Termination) (elapsed : ℕ) (he : c.ending = some why)
    (ho : c.run.outcome = none) (hd : why = .drained → c.run.inFlight = []) :
    Relation.ReflTransGen Turn c { c with run := c.run.stop why elapsed } := by
  have hreport : ∀ ids run, run.outcome = none → run.inFlight = ids →
      Relation.ReflTransGen Turn { c with run } { c with run := ids.foldl Run.report run } ∧
        (ids.foldl Run.report run).outcome = none := by
    intro ids
    induction ids with
    | nil => exact fun run ho hf => ⟨.refl, ho⟩
    | cons id ids ih =>
      intro run ho hf
      have hrest : (run.report id).inFlight = ids := by
        show run.inFlight.erase id = ids
        rw [hf, List.erase_cons_head]
      obtain ⟨hlater, hout⟩ := ih (run.report id) ho hrest
      exact ⟨.head (.report he hf) hlater, hout⟩
  by_cases hwhy : why = .drained
  · rw [Run.stop, if_pos hwhy]
    exact .single (.close elapsed he (hd hwhy) ho)
  · rw [Run.stop, if_neg hwhy]
    obtain ⟨hlater, hout⟩ := hreport c.run.inFlight c.run ho rfl
    exact hlater.tail (.close elapsed he (Run.windDown_inFlight c.run) hout)

theorem outputs_congr (h : d.run.history.parts = c.run.history.parts) : d.outputs = c.outputs := by
  unfold outputs
  rw [h]

/-- A part of an output is let in as long as its node is in flight. -/
theorem Told.admits_part_iff (ht : c.Told g) {v : String} (hv : c.Given v) (data : Json) :
    c.run.history.admits (.nodeOutput v data) = true ↔ v ∈ c.run.inFlight := by
  rw [History.admits_part, ht.sealed_iff, not_and, not_not]
  refine ⟨fun h => h.2 hv, fun hf => ⟨ht.not_closed fun hfin => ?_, fun _ => hf⟩⟩
  rw [(ht.ended hfin).2] at hf
  cases hf

theorem outputs_voice (ht : c.Told g) {v : String} (hv : c.Given v) (data : Json) (w : String) :
    (c.voice v data).outputs w =
      if w = v ∧ v ∈ c.run.inFlight then c.outputs w ++ [data] else c.outputs w := by
  have hparts : (c.voice v data).run.history.parts =
      if v ∈ c.run.inFlight then c.run.history.parts ++ [(v, data)]
      else c.run.history.parts := by
    simp only [← ht.admits_part_iff hv data]
    exact History.parts_publish _ (.nodeOutput v data)
  rw [outputs, hparts]
  by_cases hf : v ∈ c.run.inFlight <;> by_cases hw : w = v
  · simp [hf, hw, outputs]
  · simp [hf, hw, outputs, Ne.symm hw]
  · simp [hf, outputs]
  · simp [hf, outputs]

end Course

/-- The work that there is to do for an invocation with the given equipment. -/
def Equipment.workOf (e : Equipment) (inv : Invocation) : Work :=
  match e.executor? inv.node.type with
  | some executor => executor inv
  | none => .unequipped inv.node.type

/-- A node publishes the part of its output that an act consists of, if it consists of one. -/
def Run.hear (r : Run) (v : String) (act : Option Act) : Run :=
  match act.bind Act.part? with
  | some data => r.emit v data
  | none => r

/-- A run with the executions of its nodes. -/
structure Performance where
  course : Course
  /-- The executions that have begun. -/
  jobs : String → Option Job
  /-- The nodes whose results come from outside: they were cancelled, out of time, or got lost. -/
  interrupted : List String

namespace Performance

def begin (g : Graph) (input : Fields) : Performance := ⟨.begin g input, fun _ => none, []⟩

/-- The performance with another state of one job. -/
def put (p : Performance) (job : Job) : Performance :=
  { p with jobs := Function.update p.jobs job.id (some job) }

def hear (p : Performance) (v : String) (act : Option Act) : Performance :=
  { p with course := { p.course with run := p.course.run.hear v act } }

/-- The node has come back by itself with the result. -/
def CameBack (p : Performance) (v : String) (result : Except NodeFault Outcome) : Prop :=
  (v, result) ∈ p.course.results ∧ v ∉ p.interrupted

/-- The steps of a performance. The work that there is to do for an invocation is a parameter. -/
inductive Step (works : Invocation → Work → Prop) : Performance → Performance → Prop
  | turn {p : Performance} {d : Course} (h : p.course.Turn d) :
    Step works p { p with course := d }
  /-- An execution begins. -/
  | take {p : Performance} {inv : Invocation} {work : Work} (hi : inv ∈ p.course.given)
    (hw : works inv work) (hj : p.jobs inv.node.id = none) :
    Step works p (p.put { invocation := inv, work, rest := work })
  | act {p : Performance} {job : Job} {act : Option Act} {rest : Work}
    (hj : p.jobs job.id = some job) (hs : job.rest.Step act rest) :
    Step works p ((p.hear job.id act).put (job.advance act rest))
  /-- An errand that a node has left behind is done. -/
  | errand {p : Performance} {job : Job} {data : Json} (hj : p.jobs job.id = some job)
    (hl : .leave data ∈ job.acts) :
    Step works p { p with course := p.course.voice job.id data }
  /-- The result of an execution is taken in. -/
  | finish {p : Performance} {job : Job} {result : Except NodeFault Outcome} (elapsed : ℕ)
    (hj : p.jobs job.id = some job) (hr : job.rest = .done result) (he : p.course.ending = none)
    (hn : p.course.run.next = .await) (hf : job.id ∈ p.course.run.inFlight) :
    Step works p { p with course := p.course.complete job.id result elapsed }
  | interrupt {p : Performance} {inv : Invocation} (fault : NodeFault) (elapsed : ℕ)
    (hi : inv ∈ p.course.given) (he : p.course.ending = none) (hn : p.course.run.next = .await)
    (hf : inv.node.id ∈ p.course.run.inFlight) :
    Step works p { p with
      course := p.course.complete inv.node.id (.error fault) elapsed
      interrupted := inv.node.id :: p.interrupted }

/-- The performances of a graph on an input. -/
def Performed (works : Invocation → Work → Prop) (g : Graph) (input : Fields) :
    Performance → Prop := Relation.ReflTransGen (Step works) (begin g input)

/-- How a job fits the records of the run. -/
structure Employs (works : Invocation → Work → Prop) (p : Performance) (v : String) (job : Job) :
    Prop where
  id_eq : job.id = v
  given : job.invocation ∈ p.course.given
  hired : works job.invocation job.work
  runs : job.work.Runs job.acts job.rest

/-- A node that leaves no errands behind is heard as it speaks while it is in flight, and comes back
with what its work has come to. -/
structure Speaks (p : Performance) (v : String) (job : Job) : Prop where
  outputs_prefix : p.course.outputs v <+: Act.parts job.acts
  underway : v ∈ p.course.run.inFlight → p.course.outputs v = Act.parts job.acts
  back : ∀ result, p.CameBack v result →
    job.rest = .done result ∧ p.course.outputs v = Act.parts job.acts

/-- What holds of every performance. -/
structure Kept (works : Invocation → Work → Prop) (g : Graph) (input : Fields) (p : Performance) :
    Prop where
  reached : p.course.Reached (fun _ _ => True) g input
  employs : ∀ v job, p.jobs v = some job → p.Employs works v job
  idle : ∀ v, p.jobs v = none → p.course.outputs v = [] ∧ ∀ result, ¬ p.CameBack v result
  speaks : ∀ v job, p.jobs v = some job → Act.Tidy job.acts → p.Speaks v job

variable {works : Invocation → Work → Prop} {g : Graph} {input : Fields} {p q : Performance}

theorem begin_kept : (begin g input).Kept works g input where
  reached := .refl
  employs := fun v job hj => by cases hj
  idle := fun v _ => ⟨rfl, fun result hr => List.not_mem_nil hr.1⟩
  speaks := fun v job hj => by cases hj

theorem put_jobs (p : Performance) (job : Job) (v : String) :
    (p.put job).jobs v = if v = job.id then some job else p.jobs v :=
  Function.update_apply p.jobs job.id (some job) v

theorem put_jobs_self (p : Performance) (job : Job) : (p.put job).jobs job.id = some job :=
  (p.put_jobs job job.id).trans (if_pos rfl)

/-! ### Steps of the run -/

/-- A step of the run that publishes no part of an output, and takes in a result only of a node that
has come to it or is interrupted. -/
theorem Kept.of_course (h : p.Kept works g input) (hg : g.Valid) {d : Course}
    {interrupted : List String} (hstep : Course.Step (fun _ _ => True) p.course d)
    (houtputs : d.outputs = p.course.outputs)
    (hback : ∀ v result, CameBack ⟨d, p.jobs, interrupted⟩ v result → p.CameBack v result ∨
      v ∈ p.course.run.inFlight ∧ ∃ job, p.jobs v = some job ∧ job.rest = .done result) :
    Kept works g input ⟨d, p.jobs, interrupted⟩ where
  reached := h.reached.tail hstep
  employs v job hj := { h.employs v job hj with
    given := hstep.records.1.subset (h.employs v job hj).given }
  idle v hj := by
    obtain ⟨hnil, hnone⟩ := h.idle v hj
    refine ⟨(congrFun houtputs v).trans hnil, fun result hr => ?_⟩
    rcases hback v result hr with hr | ⟨-, job, hjob, -⟩
    · exact hnone result hr
    · cases hj.symm.trans hjob
  speaks v job hj ht := by
    obtain ⟨hinitial, hflight, hold⟩ := h.speaks v job hj ht
    have hsame := congrFun houtputs v
    refine ⟨hsame ▸ hinitial, fun hv => hsame.trans (hflight ?_), fun result hr => ?_⟩
    · have hemploys := h.employs v job hj
      exact hstep.inFlight_of_given (h.reached.sound hg) hv ⟨_, hemploys.given, hemploys.id_eq⟩
    · rw [hsame]
      rcases hback v result hr with hr | ⟨hv, job', hjob, hdone⟩
      · exact hold result hr
      · cases hj.symm.trans hjob
        exact ⟨hdone, hflight hv⟩

theorem Kept.turn (h : p.Kept works g input) (hg : g.Valid) {d : Course} (ht : p.course.Turn d) :
    Kept works g input { p with course := d } := by
  refine h.of_course hg (ht.1.mono fun _ _ hf => hf.elim) (Course.outputs_congr ht.2) ?_
  rintro v result ⟨hr, hv⟩
  exact Or.inl ⟨ht.results ▸ hr, hv⟩

theorem Kept.finish (h : p.Kept works g input) (hg : g.Valid) {job : Job}
    {result : Except NodeFault Outcome} (elapsed : ℕ) (hj : p.jobs job.id = some job)
    (hr : job.rest = .done result) (he : p.course.ending = none)
    (hn : p.course.run.next = .await) (hf : job.id ∈ p.course.run.inFlight) :
    Kept works g input { p with course := p.course.complete job.id result elapsed } := by
  refine h.of_course hg (.complete elapsed he hn (h.employs _ _ hj).given hf trivial)
    (Course.outputs_congr (Course.parts_complete _ _ _ _)) ?_
  rintro v result' ⟨hmem, hv⟩
  rcases List.mem_append.mp hmem with hmem | hmem
  · exact Or.inl ⟨hmem, hv⟩
  · cases List.mem_singleton.mp hmem
    exact Or.inr ⟨hf, job, hj, hr⟩

theorem Kept.interrupt (h : p.Kept works g input) (hg : g.Valid) {inv : Invocation}
    (fault : NodeFault) (elapsed : ℕ) (hi : inv ∈ p.course.given) (he : p.course.ending = none)
    (hn : p.course.run.next = .await) (hf : inv.node.id ∈ p.course.run.inFlight) :
    Kept works g input { p with
      course := p.course.complete inv.node.id (.error fault) elapsed
      interrupted := inv.node.id :: p.interrupted } := by
  refine h.of_course hg (.complete elapsed he hn hi hf trivial)
    (Course.outputs_congr (Course.parts_complete _ _ _ _)) ?_
  rintro v result ⟨hmem, hv⟩
  rw [List.mem_cons, not_or] at hv
  rcases List.mem_append.mp hmem with hmem | hmem
  · exact Or.inl ⟨hmem, hv.2⟩
  · exact absurd (congrArg Prod.fst (List.mem_singleton.mp hmem)) hv.1

/-! ### Steps of nodes -/

theorem Employs.course_given {v : String} {job : Job} (h : p.Employs works v job) :
    p.course.Given v := ⟨job.invocation, h.given, h.id_eq⟩

/-- A step of one node, which changes its job and what has been heard of it. -/
theorem Kept.of_job (h : p.Kept works g input) {run : Run} {job : Job}
    (hreached : Course.Reached (fun _ _ => True) g input { p.course with run })
    (hflight : run.inFlight = p.course.run.inFlight)
    (houtputs : ∀ v, v ≠ job.id → Course.outputs { p.course with run } v = p.course.outputs v)
    (hemploys : p.Employs works job.id job)
    (hspeaks : Act.Tidy job.acts →
      Speaks { p with course := { p.course with run } } job.id job) :
    (put { p with course := { p.course with run } } job).Kept works g input := by
  refine ⟨hreached, fun v job' hj => ?_, fun v hj => ?_, fun v job' hj ht => ?_⟩
  · rw [put_jobs] at hj
    split at hj
    · cases hj
      subst v
      exact { hemploys with }
    · exact { h.employs v job' hj with }
  · rw [put_jobs] at hj
    split at hj
    · cases hj
    · rename_i hv
      exact ⟨(houtputs v hv).trans (h.idle v hj).1, (h.idle v hj).2⟩
  · rw [put_jobs] at hj
    split at hj
    · cases hj
      subst v
      exact { hspeaks ht with }
    · rename_i hv
      obtain ⟨hinitial, hheard, hback⟩ := h.speaks v job' hj ht
      have hsame := houtputs v hv
      refine ⟨?_, fun hf => ?_, fun result hr => ⟨(hback result hr).1, ?_⟩⟩
      · exact hsame.symm ▸ hinitial
      · exact hsame.trans (hheard (hflight ▸ hf))
      · exact hsame.trans (hback result hr).2

theorem Kept.take (h : p.Kept works g input) {inv : Invocation} {work : Work}
    (hi : inv ∈ p.course.given) (hw : works inv work) (hj : p.jobs inv.node.id = none) :
    (p.put { invocation := inv, work, rest := work }).Kept works g input := by
  obtain ⟨hnil, hnone⟩ := h.idle _ hj
  refine h.of_job h.reached rfl (fun _ _ => rfl) ⟨rfl, hi, hw, .refl⟩ fun _ => ?_
  exact ⟨hnil ▸ List.prefix_rfl, fun _ => hnil, fun result hr => absurd hr (hnone result)⟩

theorem Kept.errand (h : p.Kept works g input) (hg : g.Valid) {job : Job} {data : Json}
    (hj : p.jobs job.id = some job) (hl : .leave data ∈ job.acts) :
    Kept works g input { p with course := p.course.voice job.id data } := by
  have hemploys := h.employs _ _ hj
  have hself : put { p with course := p.course.voice job.id data } job =
      { p with course := p.course.voice job.id data } := by
    rw [put, ← hj, Function.update_eq_self]
  rw [← hself]
  refine h.of_job (h.reached.tail (.emit data hemploys.given)) rfl (fun v hv => ?_) hemploys
    fun ht => absurd hl (ht data)
  rw [← Course.voice, Course.outputs_voice (h.reached.told hg) hemploys.course_given,
    if_neg fun hx => hv hx.1]

/-- A part of the output that a step publishes is added to what has been heard of a node, as long as
it is in flight. -/
theorem Kept.act (h : p.Kept works g input) (hg : g.Valid) {job : Job} {act : Option Act}
    {rest : Work} (hj : p.jobs job.id = some job) (hs : job.rest.Step act rest) :
    ((p.hear job.id act).put (job.advance act rest)).Kept works g input := by
  have hemploys := h.employs _ _ hj
  have hnow : p.Employs works job.id (job.advance act rest) :=
    ⟨rfl, hemploys.given, hemploys.hired, hemploys.runs.tail hs⟩
  have htold := h.reached.told hg
  have htidy : Act.Tidy (job.advance act rest).acts → p.Speaks job.id job := fun ht =>
    h.speaks _ _ hj fun data hd => ht data (List.mem_append_left _ hd)
  -- Work that takes a step has not come to a result.
  have hback : ∀ result, p.Speaks job.id job → ¬ p.CameBack job.id result := fun result hsp hr =>
    Work.Step.not_done ((hsp.back result hr).1 ▸ hs)
  have hacts : Act.parts (job.advance act rest).acts =
      Act.parts job.acts ++ (act.bind Act.part?).toList := by
    rw [Job.advance, Act.parts_append]
    rcases act with _ | (_ | _ | _ | _ | _ | _) <;> rfl
  unfold hear Run.hear
  cases hd : act.bind Act.part? with
  | none =>
    rw [hd, Option.toList_none, List.append_nil] at hacts
    refine h.of_job h.reached rfl (fun _ _ => rfl) hnow fun ht => ?_
    have hsp := htidy ht
    exact ⟨hacts ▸ hsp.outputs_prefix, fun hf => (hsp.underway hf).trans hacts.symm,
      fun result hr => absurd hr (hback result hsp)⟩
  | some data =>
    rw [hd] at hacts
    have houtputs := Course.outputs_voice htold hemploys.course_given data
    refine h.of_job (h.reached.tail (.emit data hemploys.given)) rfl (fun v hv => ?_) hnow
      fun ht => ?_
    · exact (houtputs v).trans (if_neg fun hx => hv hx.1)
    · have hsp := htidy ht
      have hself := houtputs job.id
      refine ⟨?_, fun hf => ?_, fun result hr => absurd hr (hback result hsp)⟩
      · show Course.outputs (p.course.voice job.id data) job.id <+: _
        rw [hself, hacts]
        split
        · rename_i hf
          rw [hsp.underway hf.2]
          exact List.prefix_rfl
        · exact hsp.outputs_prefix.trans (List.prefix_append _ _)
      · show Course.outputs (p.course.voice job.id data) job.id = _
        rw [hself, hacts, if_pos ⟨rfl, hf⟩, hsp.underway hf]
        rfl

theorem Kept.step (h : p.Kept works g input) (hg : g.Valid) (hs : Step works p q) :
    q.Kept works g input := by
  cases hs with
  | turn ht => exact h.turn hg ht
  | take hi hw hj => exact h.take hi hw hj
  | act hj hs => exact h.act hg hj hs
  | errand hj hl => exact h.errand hg hj hl
  | finish elapsed hj hr he hn hf => exact h.finish hg elapsed hj hr he hn hf
  | interrupt fault elapsed hi he hn hf => exact h.interrupt hg fault elapsed hi he hn hf

theorem Performed.kept (hg : g.Valid) (h : Performed works g input p) :
    p.Kept works g input := by
  induction h with
  | refl => exact begin_kept
  | tail _ hs ih => exact ih.step hg hs

theorem Performed.turns (h : Performed works g input p) {d : Course}
    (hd : Relation.ReflTransGen Course.Turn p.course d) :
    Performed works g input { p with course := d } := by
  induction hd with
  | refl => exact h
  | tail _ ht ih => exact ih.tail (.turn ht)

theorem Performed.dispatch (h : Performed works g input p) (id : String)
    (he : p.course.ending = none) (hn : p.course.run.next = .start id) :
    Performed works g input { p with course := p.course.dispatch } :=
  h.tail (.turn (.dispatch he hn))

theorem Performed.take (h : Performed works g input p) (inv : Invocation) (work : Work)
    (hi : inv ∈ p.course.given) (hw : works inv work) (hj : p.jobs inv.node.id = none) :
    Performed works g input (p.put { invocation := inv, work, rest := work }) :=
  h.tail (.take hi hw hj)

theorem Performed.act (h : Performed works g input p) (job : Job) {act : Option Act} {rest : Work}
    (hj : p.jobs job.id = some job) (hs : job.rest.Step act rest) :
    Performed works g input ((p.hear job.id act).put (job.advance act rest)) :=
  h.tail (.act hj hs)

theorem Performed.finish (h : Performed works g input p) (job : Job)
    (result : Except NodeFault Outcome) (elapsed : ℕ) (hj : p.jobs job.id = some job)
    (hr : job.rest = .done result) (he : p.course.ending = none)
    (hn : p.course.run.next = .await) (hf : job.id ∈ p.course.run.inFlight) :
    Performed works g input { p with course := p.course.complete job.id result elapsed } :=
  h.tail (.finish elapsed hj hr he hn hf)

theorem Performed.job_id (hg : g.Valid) (h : Performed works g input p) {v : String} {job : Job}
    (hj : p.jobs v = some job) : job.id = v := ((h.kept hg).employs v job hj).id_eq

theorem Performed.reached (hg : g.Valid) (h : Performed works g input p) :
    p.course.Reached (fun _ _ => True) g input := (h.kept hg).reached

end Performance
end Workflow
