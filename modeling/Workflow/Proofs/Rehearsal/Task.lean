import Workflow.Proofs.Run.Performance
import Workflow.Rehearsal.Stage

/-! What is being played on a stage: how the tasks, results and errands that it keeps fit the
records of a performance, and how they go on fitting while the nodes are worked at. -/
namespace Workflow

namespace Performance

/-- The node has left an errand behind. -/
def Left (p : Performance) (id : String) (data : Json) : Prop :=
  ∃ job, p.jobs id = some job ∧ .leave data ∈ job.acts

/-- The node has come to the result, or the result is a failure, which may come from outside. -/
def Owns (p : Performance) (id : String) (result : Except NodeFault Outcome) : Prop :=
  (∃ job, p.jobs id = some job ∧ job.rest = .done result) ∨ ∃ fault, result = .error fault

end Performance

/-- The task stands where the job of its node does. -/
def Task.Matches (t : Task) (p : Performance) : Prop :=
  t.invocation ∈ p.course.given ∧
    if t.startedAt.isNone then p.jobs t.invocation.node.id = none
    else ∃ job, p.jobs t.invocation.node.id = some job ∧ job.invocation = t.invocation ∧
      job.rest = t.rest

namespace Stage

open Performance (Performed)

/-- The work that there is to do with some equipment, when there may be stand-ins for the executors
of some types. -/
def Hires (equipment : Equipment) (types : List NodeType) (inv : Invocation) (work : Work) : Prop :=
  work = equipment.workOf inv ∨ inv.node.type ∈ types ∧ ∃ standIn : StandIn, work = standIn.work

def hires (s : Stage) : Invocation → Work → Prop :=
  Hires s.equipment (s.script.standIns.map (·.1))

def busy (s : Stage) : List String := s.tasks.map (·.invocation.node.id)

/-- The nodes whose results the run has still to take in. -/
def owed (s : Stage) : List String := s.busy ++ s.results.map (·.1)

/-- What a stage keeps beside the run fits the records of a performance: who is owed a result has
started and not come back, and the jobs are as tasks, results and errands tell. The task of a node
that is being worked at is left out. -/
structure Fits (s : Stage) (away : List String) (p : Performance) : Prop where
  owed_given : ∀ v ∈ s.owed, p.course.Given v
  owed_fresh : ∀ v ∈ s.owed, ¬ p.course.Returned v
  owed_nodup : s.owed.Nodup
  queued : ∀ id data, Turn.errand id data ∈ s.queue → p.Left id data
  alarmed : ∀ time id data, (time, Alarm.turn (.errand id data)) ∈ s.alarms → p.Left id data
  tasks : ∀ t ∈ s.tasks, t.invocation.node.id ∉ away → t.Matches p
  results : ∀ id result elapsed, (id, result, elapsed) ∈ s.results → p.Owns id result

/-- The stage plays a performance. -/
structure Follows (hired : Invocation → Work → Prop) (g : Graph) (input : Fields) (s : Stage)
    (away : List String) (p : Performance) : Prop where
  performed : Performed hired g input p
  hires_eq : s.hires = hired
  run_eq : p.course.run = s.run
  fits : s.Fits away p

/-- The stage plays some performance, which is not about to end unless it has ended. -/
def Plays (hired : Invocation → Work → Prop) (g : Graph) (input : Fields) (s : Stage) : Prop :=
  ∃ p, Follows hired g input s [] p ∧ (s.run.outcome = none → p.course.ending = none)

/-- The same, while the node of an invocation is being worked at, and this is left to do. -/
def Works (hired : Invocation → Work → Prop) (g : Graph) (input : Fields) (s : Stage)
    (inv : Invocation) (rest : Work) : Prop :=
  inv.node.id ∈ s.busy ∧ ∃ p, Follows hired g input s [inv.node.id] p ∧
    (s.run.outcome = none → p.course.ending = none) ∧
    ∃ job, p.jobs inv.node.id = some job ∧ job.invocation = inv ∧ job.rest = rest

variable {hired : Invocation → Work → Prop} {g : Graph} {input : Fields} {s s' : Stage}
  {p q : Performance} {run : Run} {away : List String}

/-! ### Waking the run -/

/-- What a stage does beside the run and its nodes changes nothing, unless it is about errands. -/
theorem Fits.keep (h : s.Fits away p) (htasks : s'.tasks = s.tasks)
    (hresults : s'.results = s.results)
    (hq : ∀ id data, Turn.errand id data ∈ s'.queue → p.Left id data)
    (ha : ∀ time id data, (time, Alarm.turn (.errand id data)) ∈ s'.alarms → p.Left id data) :
    s'.Fits away p where
  owed_given := by
    rw [owed, busy, htasks, hresults]
    exact h.owed_given
  owed_fresh := by
    rw [owed, busy, htasks, hresults]
    exact h.owed_fresh
  owed_nodup := by
    rw [owed, busy, htasks, hresults]
    exact h.owed_nodup
  queued := hq
  alarmed := ha
  tasks := htasks ▸ h.tasks
  results := hresults ▸ h.results

theorem Fits.enqueue (h : s.Fits away p) {t : Turn}
    (ht : ∀ id data, t = .errand id data → p.Left id data) :
    Fits { s with queue := s.queue ++ [t] } away p := by
  refine h.keep rfl rfl (fun id data hmem => ?_) h.alarmed
  rcases List.mem_append.mp hmem with hmem | hmem
  · exact h.queued id data hmem
  · exact ht id data (List.mem_singleton.mp hmem).symm

theorem Fits.setAlarm (h : s.Fits away p) (time : ℕ) (alarm : Alarm)
    (ha : ∀ id data, alarm = .turn (.errand id data) → p.Left id data) :
    (s.setAlarm time alarm).Fits away p := by
  refine h.keep rfl rfl h.queued fun t id data hmem => ?_
  rcases List.mem_append.mp hmem with hmem | hmem
  · exact h.alarmed t id data hmem
  · exact ha id data (congrArg Prod.snd (List.mem_singleton.mp hmem)).symm

theorem Fits.wake (h : s.Fits away p) : s.wake.Fits away p := by
  unfold Stage.wake
  split
  · exact Fits.enqueue (s := { s with waiting := false }) { h with } (fun _ _ ht => by cases ht)
  · exact h

/-- A performance that goes on without its nodes still fits. -/
theorem Fits.congr (h : s.Fits away p) (hjobs : q.jobs = p.jobs)
    (hg : q.course.given = p.course.given) (hr : q.course.results = p.course.results) :
    s.Fits away q := by
  have hgiven : q.course.Given = p.course.Given := by unfold Course.Given; rw [hg]
  have hreturned : q.course.Returned = p.course.Returned := by unfold Course.Returned; rw [hr]
  have hleft : q.Left = p.Left := by unfold Performance.Left; rw [hjobs]
  have howns : q.Owns = p.Owns := by unfold Performance.Owns; rw [hjobs]
  refine ⟨hgiven ▸ h.owed_given, hreturned ▸ h.owed_fresh, h.owed_nodup, hleft ▸ h.queued,
    hleft ▸ h.alarmed, fun t ht ha => ?_, howns ▸ h.results⟩
  rw [Task.Matches, hjobs, hg]
  exact h.tasks t ht ha

theorem Fits.leaveOut (h : s.Fits [] p) (away : List String) : s.Fits away p :=
  { h with tasks := fun t ht _ => h.tasks t ht List.not_mem_nil }

theorem run_wake (s : Stage) : s.wake.run = s.run := by
  unfold wake
  split <;> rfl

theorem hires_wake (s : Stage) : s.wake.hires = s.hires := by
  unfold wake
  split <;> rfl

/-! ### Going on with the run -/

theorem run_cancel (s : Stage) : s.cancel.run = s.run.cancel := run_wake _

/-- A run that goes on may be cancelled at once, and that is all that happens to it. -/
theorem advance_cases (s : Stage) (run : Run) :
    s.advance run = { s with run } ∨ s.advance run = { s with run }.cancel := by
  unfold advance
  dsimp only
  split
  · exact Or.inr rfl
  · exact Or.inl rfl

theorem outcome_advance (s : Stage) (run : Run) : (s.advance run).run.outcome = run.outcome := by
  rcases advance_cases s run with h | h <;> rw [h]
  rw [run_cancel]
  rfl

theorem advance_owed (s : Stage) (run : Run) :
    (s.advance run).tasks = s.tasks ∧ (s.advance run).results = s.results := by
  rcases advance_cases s run with h | h <;> rw [h]
  · exact ⟨rfl, rfl⟩
  · unfold cancel wake
    split <;> exact ⟨rfl, rfl⟩

/-- What leaves the run alone leaves it in its performance. -/
theorem Follows.keep {away' : List String} (h : Follows hired g input s away p)
    (hrun : s'.run = s.run) (hhires : s'.hires = s.hires) (hfits : s'.Fits away' p) :
    Follows hired g input s' away' p :=
  ⟨h.performed, hhires.trans h.hires_eq, h.run_eq.trans hrun.symm, hfits⟩

theorem Follows.cancel (h : Follows hired g input s away p) : Follows hired g input s.cancel away
    { p with course := { p.course with run := s.cancel.run } } := by
  have hrun : s.cancel.run = p.course.run.cancel := by rw [run_cancel, h.run_eq]
  have hs : Fits { s with run := s.run.cancel } away p := { h.fits with }
  refine ⟨?_, (hires_wake _).trans h.hires_eq, rfl, hs.wake.congr rfl rfl rfl⟩
  rw [hrun]
  exact h.performed.tail (.turn (.cancel p.course))

theorem Follows.advance (h : Follows hired g input { s with run } away p) :
    Follows hired g input (s.advance run) away
      { p with course := { p.course with run := (s.advance run).run } } := by
  rcases advance_cases s run with heq | heq <;> rw [heq]
  · have hsame : { p with course := { p.course with run } } = p := by
      have hrun : run = p.course.run := h.run_eq.symm
      rw [hrun]
    rw [hsame]
    exact h
  · exact h.cancel

theorem Plays.keep (h : Plays hired g input s) (hrun : s'.run = s.run) (hhires : s'.hires = s.hires)
    (hfits : ∀ p, s.Fits [] p → s'.Fits [] p) : Plays hired g input s' := by
  obtain ⟨p, hp, he⟩ := h
  exact ⟨p, hp.keep hrun hhires (hfits p hp.fits), hrun ▸ he⟩

/-! ### Working at a node -/

section Works

variable {inv : Invocation} {rest next : Work} {job : Job} {act : Option Act}

/-- Only the job of the node that is being worked at changes. -/
theorem Fits.put (job : Job) (h : s.Fits [job.id] p) (run : Run)
    (hleft : ∀ data, p.Left job.id data → .leave data ∈ job.acts)
    (howns : ∀ result, p.Owns job.id result → ∃ fault, result = .error fault) : s.Fits [job.id]
      (Performance.put { p with course := { p.course with run } } job) := by
  have hkeep : ∀ v data, p.Left v data →
      (Performance.put { p with course := { p.course with run } } job).Left v data := by
    intro v data hl
    by_cases hv : v = job.id
    · subst hv
      exact ⟨job, Performance.put_jobs_self _ job, hleft data hl⟩
    · obtain ⟨job', hjob, hmem⟩ := hl
      exact ⟨job', (Performance.put_jobs _ job v).trans ((if_neg hv).trans hjob), hmem⟩
  refine { h with
    queued := fun v data hm => hkeep v data (h.queued v data hm)
    alarmed := fun t v data hm => hkeep v data (h.alarmed t v data hm)
    tasks := fun t ht ha => ?_
    results := fun v result elapsed hm => ?_ }
  · have hne : t.invocation.node.id ≠ job.id := fun heq => ha (List.mem_singleton.mpr heq)
    rw [Task.Matches, Performance.put_jobs, if_neg hne]
    exact h.tasks t ht ha
  · by_cases hv : v = job.id
    · subst hv
      exact Or.inr (howns result (h.results _ result elapsed hm))
    · rw [Performance.Owns, Performance.put_jobs, if_neg hv]
      exact h.results v result elapsed hm

/-- A step of the node that is being worked at. -/
theorem Follows.put (h : Follows hired g input s [job.id] p) (hj : p.jobs job.id = some job)
    (hs : job.rest.Step act next) :
    Follows hired g input { s with run := s.run.hear job.id act } [job.id]
      ((p.hear job.id act).put (job.advance act next)) := by
  have hfits := Fits.put (job.advance act next) h.fits (p.course.run.hear job.id act) ?_ ?_
  · exact ⟨h.performed.act job hj hs, h.hires_eq, by rw [← h.run_eq]; rfl, { hfits with }⟩
  · rintro data ⟨job', hjob, hmem⟩
    cases hj.symm.trans hjob
    exact List.mem_append_left _ hmem
  · -- A node that has come to its result takes no more steps.
    rintro result (⟨job', hjob, hdone⟩ | hfault)
    · cases hj.symm.trans hjob
      exact absurd (hdone ▸ hs) Work.Step.not_done
    · exact hfault

/-- A step of the work of which the run notices nothing. -/
theorem Works.silent (h : Works hired g input s inv rest) (hs : rest.Step act next)
    (hpart : act.bind Act.part? = none) : Works hired g input s inv next := by
  obtain ⟨hid, p, hp, he, job, hj, rfl, rfl⟩ := h
  have hrun : s.run = s.run.hear job.id act := by rw [Run.hear, hpart]
  have hq := hp.put hj hs
  exact ⟨hid, _, hq.keep hrun rfl { hq.fits with }, he, _,
    Performance.put_jobs_self _ (job.advance act next), rfl, rfl⟩

theorem Works.emit {data : Json} (h : Works hired g input s inv (.emit data next)) :
    Works hired g input (s.advance (s.run.emit inv.node.id data)) inv next := by
  obtain ⟨hid, p, hp, he, job, hj, rfl, hrest⟩ := h
  have hs : job.rest.Step (some (.emit data)) next := hrest ▸ .emit
  refine ⟨?_, _, (hp.put hj hs).advance, fun ho => he ?_, _,
    Performance.put_jobs_self _ (job.advance (some (.emit data)) next), rfl, rfl⟩
  · rw [busy, (advance_owed _ _).1]
    exact hid
  · rwa [outcome_advance] at ho

/-- An errand that is left behind is taken up at once, or at some time. -/
theorem Works.leave {ms : ℕ} {data : Json}
    (h : Works hired g input s inv (.emitLater ms data next)) :
    Works hired g input { s with queue := s.queue ++ [.errand inv.node.id data] } inv next ∧
    ∀ time, Works hired g input (s.setAlarm time (.turn (.errand inv.node.id data))) inv next := by
  obtain ⟨hid, p, hp, he, job, hj, rfl, hrest⟩ := h
  have hs : job.rest.Step (some (.leave data)) next := hrest ▸ .emitLater
  have hq : Follows hired g input s [job.id] _ := hp.put hj hs
  have hjob := Performance.put_jobs_self (p.hear job.id (some (.leave data)))
    (job.advance (some (.leave data)) next)
  have hleft : Performance.Left _ job.id data :=
    ⟨_, hjob, List.mem_append_right _ (List.mem_singleton_self _)⟩
  have hqueue := hq.fits.enqueue (t := .errand job.id data) fun _ _ ht => by cases ht; exact hleft
  refine ⟨⟨hid, _, hq.keep rfl rfl hqueue, he, _, hjob, rfl, rfl⟩, fun time => ?_⟩
  have halarm := hq.fits.setAlarm time (.turn (.errand job.id data))
    fun _ _ ha => by cases ha; exact hleft
  exact ⟨hid, _, hq.keep rfl rfl halarm, he, _, hjob, rfl, rfl⟩

/-- What leaves the run and the node alone leaves the work as it is. -/
theorem Works.keep (h : Works hired g input s inv rest) (hrun : s'.run = s.run)
    (hhires : s'.hires = s.hires) (hbusy : s'.busy = s.busy)
    (hfits : ∀ p, s.Fits [inv.node.id] p → s'.Fits [inv.node.id] p) :
    Works hired g input s' inv rest := by
  obtain ⟨hid, p, hp, he, hjob⟩ := h
  exact ⟨hbusy ▸ hid, p, hp.keep hrun hhires (hfits p hp.fits), hrun ▸ he, hjob⟩

/-- Calls that are made, and answers that are used up, change nothing in the performance. -/
theorem Works.call (h : Works hired g input s inv rest) {script : Script} (calls : List CallNote)
    (hs : script.standIns.map (·.1) = s.script.standIns.map (·.1)) :
    Works hired g input { s with script, calls } inv rest :=
  h.keep rfl (congrArg (Hires s.equipment) hs) rfl fun _ hf => { hf with }

/-- What is left to do for a task that cannot go on for now. -/
def Standing.left : Standing → Work
  | .finished result => .done result
  | .waiting _ rest => rest

/-- While a node waits for an answer, the pauses that were over at once are forgotten. -/
theorem Works.await {α : Type} {answer : Timed α} {rest : α → Work}
    (h : ∀ waits, Works hired g input s inv (.after ⟨waits, answer.ending⟩ rest)) :
    Works hired g input s inv (s.await answer rest).left := by
  obtain ⟨waits, ending⟩ := answer
  unfold Stage.await
  dsimp only
  split
  · rename_i ms waits' hw
    exact h waits'
  · exact h []
  · exact h []
  · exact (h []).silent .breakdown rfl

theorem ending_of_immediate {α : Type} {answer : Timed α} {a : α}
    (h : immediate? answer = some a) : answer.ending = .value a := by
  unfold immediate? at h
  split at h
  · split at h
    · cases h
      assumption
    · cases h
  · cases h

theorem Works.now {α : Type} {answer : Timed α} {rest : α → Work} {a : α}
    (h : ∀ waits, Works hired g input s inv (.after ⟨waits, answer.ending⟩ rest))
    (ha : immediate? answer = some a) : Works hired g input s inv (rest a) := by
  have hnow := h []
  rwa [ending_of_immediate ha] at hnow

theorem standIns_answerTool (script : Script) (name : String) (input : Json) :
    (script.answerTool name input).2.standIns = script.standIns := by
  unfold Script.answerTool
  split <;> rfl

theorem standIns_answerCode (script : Script) (request : CodeRequest) :
    (script.answerCode request).2.standIns = script.standIns := by
  unfold Script.answerCode
  split <;> rfl

theorem standIns_answerHttp (script : Script) (request : HttpRequest) :
    (script.answerHttp request).2.standIns = script.standIns := by
  unfold Script.answerHttp
  split <;> rfl

theorem standIns_answerChat (script : Script) (request : ChatRequest) :
    (script.answerChat request).2.standIns = script.standIns := by
  unfold Script.answerChat
  split <;> rfl

/-- A node that is worked at goes on until it has to wait. -/
theorem Works.perform (work : Work) (s : Stage) (h : Works hired g input s inv work) :
    Works hired g input (Stage.perform inv.node.id work s).1 inv
      (Stage.perform inv.node.id work s).2.left := by
  induction work generalizing s with
  | done result => exact h
  | never => exact h
  | breakdown => exact h.silent .breakdown rfl
  | wait ms rest ih =>
    have hrest := h.silent .wait rfl
    rw [Stage.perform]
    split
    · exact ih s hrest
    · exact hrest
  | emit data rest ih => exact ih _ h.emit
  | emitLater ms data rest ih =>
    rw [Stage.perform]
    split
    · exact ih _ h.leave.1
    · exact ih _ (h.leave.2 _)
  | tool name input' rest ih =>
    have hcall := fun waits => (h.silent (.tool waits (s.script.answerTool name input').1.ending)
      rfl).call (s.calls ++ [.tool name inv.node.id input'])
      (congrArg _ (standIns_answerTool _ name input'))
    rw [Stage.perform]
    dsimp only
    split
    · rename_i a ha
      exact ih a _ (Works.now hcall ha)
    · exact Works.await hcall
  | code request rest ih =>
    have hcall := fun waits => (h.silent (.code waits (s.script.answerCode request).1.ending)
      rfl).call (s.calls ++ [.code request])
      (congrArg _ (standIns_answerCode _ request))
    rw [Stage.perform]
    dsimp only
    split
    · rename_i a ha
      exact ih a _ (Works.now hcall ha)
    · exact Works.await hcall
  | http request rest ih =>
    have hcall := fun waits => (h.silent (.http waits (s.script.answerHttp request).1.ending)
      rfl).call (s.calls ++ [.http request])
      (congrArg _ (standIns_answerHttp _ request))
    rw [Stage.perform]
    dsimp only
    split
    · rename_i a ha
      exact ih a _ (Works.now hcall ha)
    · exact Works.await hcall
  | chat request rest ih =>
    have hcall := fun waits => (h.silent (.chat waits (s.script.answerChat request).1.ending)
      rfl).call (s.calls ++ [.chat request])
      (congrArg _ (standIns_answerChat _ request))
    rw [Stage.perform]
    dsimp only
    split
    · rename_i a ha
      exact ih a _ (Works.now hcall ha)
    · exact Works.await hcall

end Works

/-! ### Tasks -/

section Tasks

variable {t : Task}

/-- A stage that is about to work at a node is free to do so. -/
theorem Plays.works (h : Plays hired g input s) (ht : t ∈ s.tasks)
    (hs : t.startedAt.isNone = false) : Works hired g input s t.invocation t.rest := by
  obtain ⟨p, hp, he⟩ := h
  have hmatches := (hp.fits.tasks t ht List.not_mem_nil).2
  rw [hs, if_neg Bool.false_ne_true] at hmatches
  exact ⟨List.mem_map_of_mem ht, p, hp.keep rfl rfl (hp.fits.leaveOut _), he, hmatches⟩

/-- The run is owed the result of a task that has finished as it was owed before. -/
theorem Fits.finish (h : s.Fits [t.invocation.node.id] p) (ht : t.invocation.node.id ∈ s.busy)
    {result : Except NodeFault Outcome} (hr : p.Owns t.invocation.node.id result) :
    (s.finish t result).Fits [] p := by
  have hbusy : s.busy.Nodup := (List.nodup_append.mp h.owed_nodup).1
  have hfilter : (s.tasks.filter (·.invocation.node.id != t.invocation.node.id)).map
      (·.invocation.node.id) = s.busy.erase t.invocation.node.id := by
    rw [hbusy.erase_eq_filter, busy, List.filter_map]
    rfl
  have howed : (owed { s with
      tasks := s.tasks.filter (·.invocation.node.id != t.invocation.node.id)
      results := s.results ++ [(t.invocation.node.id, result,
        s.clock - t.startedAt.getD s.clock)] }).Perm s.owed := by
    show List.Perm (List.map _ _ ++ List.map _ (_ ++ [_])) (s.busy ++ s.results.map (·.1))
    rw [hfilter, List.map_append, ← List.append_assoc]
    refine (List.perm_append_singleton _ _).trans ?_
    rw [← List.cons_append]
    exact (List.perm_cons_erase ht).symm.append_right _
  refine Fits.wake ⟨fun v hv => h.owed_given v (howed.mem_iff.mp hv),
    fun v hv => h.owed_fresh v (howed.mem_iff.mp hv), howed.nodup_iff.mpr h.owed_nodup, h.queued,
    h.alarmed, fun u hu _ => ?_, fun v r elapsed hm => ?_⟩
  · obtain ⟨hmem, hne⟩ := List.mem_filter.mp hu
    exact h.tasks u hmem (by simpa using hne)
  · rcases List.mem_append.mp hm with hm | hm
    · exact h.results v r elapsed hm
    · cases List.mem_singleton.mp hm
      exact hr

theorem Follows.finish (h : Follows hired g input s [t.invocation.node.id] p)
    (ht : t.invocation.node.id ∈ s.busy) {result : Except NodeFault Outcome}
    (hr : p.Owns t.invocation.node.id result) : Follows hired g input (s.finish t result) [] p :=
  h.keep (run_wake _) (hires_wake _) (h.fits.finish ht hr)

/-- A result of a node from its work, or a failure from outside. -/
theorem Works.finish {rest : Work} (h : Works hired g input s t.invocation rest)
    {result : Except NodeFault Outcome}
    (hr : rest = .done result ∨ ∃ fault, result = .error fault) :
    Plays hired g input (s.finish t result) := by
  obtain ⟨ht, p, hp, he, job, hj, -, hrest⟩ := h
  have howns : p.Owns t.invocation.node.id result :=
    hr.imp_left fun hdone => ⟨job, hj, hrest.trans hdone⟩
  refine ⟨p, hp.finish ht howns, fun ho => he ?_⟩
  have hrun : (s.finish t result).run = s.run := run_wake _
  rwa [hrun] at ho

/-- A node can always fail from outside. -/
theorem Plays.fail (h : Plays hired g input s) (ht : t ∈ s.tasks) (fault : NodeFault) :
    Plays hired g input (s.finish t (.error fault)) := by
  obtain ⟨p, hp, he⟩ := h
  have hleft := hp.keep rfl rfl (hp.fits.leaveOut [t.invocation.node.id])
  refine ⟨p, hleft.finish (List.mem_map_of_mem ht) (Or.inr ⟨fault, rfl⟩), fun ho => he ?_⟩
  have hrun : (s.finish t (.error fault)).run = s.run := run_wake _
  rwa [hrun] at ho

theorem Fits.replace (h : s.Fits [t.invocation.node.id] p) (ht : t.Matches p) :
    Fits { s with tasks := s.tasks.map fun u =>
      if u.invocation.node.id == t.invocation.node.id then t else u } [] p := by
  have hbusy : (s.tasks.map fun u =>
      if u.invocation.node.id == t.invocation.node.id then t else u).map
        (·.invocation.node.id) = s.busy := by
    rw [busy, List.map_map]
    refine List.map_congr_left fun u _ => ?_
    by_cases hu : u.invocation.node.id = t.invocation.node.id
    · simp [hu]
    · simp [hu]
  have howed : owed { s with tasks := s.tasks.map fun u =>
      if u.invocation.node.id == t.invocation.node.id then t else u } = s.owed :=
    congrArg (· ++ s.results.map (·.1)) hbusy
  refine ⟨howed ▸ h.owed_given, howed ▸ h.owed_fresh, howed ▸ h.owed_nodup, h.queued,
    h.alarmed, fun u hu _ => ?_, h.results⟩
  obtain ⟨u, hmem, rfl⟩ := List.mem_map.mp hu
  split
  · exact ht
  · rename_i hne
    exact h.tasks u hmem (by simpa using hne)

/-- A task that has been worked at has a result, waits, or has run out of time. -/
theorem Works.settle (hg : g.Valid) (standing : Standing)
    (h : Works hired g input s t.invocation standing.left) (hs : t.startedAt.isNone = false) :
    Plays hired g input (s.settle t standing) := by
  cases standing with
  | finished result => exact h.finish (Or.inl rfl)
  | waiting until? rest =>
    unfold Stage.settle
    dsimp only
    split
    · exact h.finish (Or.inr ⟨_, rfl⟩)
    · obtain ⟨ht, p, hp, he, job, hj, hinv, hrest⟩ := h
      have hmatches : Task.Matches { t with resumesAt := until?, rest } p := by
        refine ⟨hinv ▸ ((hp.performed.kept hg).employs _ _ hj).given, ?_⟩
        rw [hs, if_neg Bool.false_ne_true]
        exact ⟨job, hj, hinv, hrest⟩
      have hfits := Fits.replace (t := { t with resumesAt := until?, rest }) hp.fits hmatches
      cases until? with
      | none => exact ⟨p, hp.keep rfl rfl hfits, he⟩
      | some time =>
        exact ⟨p, hp.keep rfl rfl (hfits.setAlarm time _ fun _ _ ha => by cases ha), he⟩

/-! ### Starting to work -/

theorem Script.takeAt_keys {κ α : Type} [BEq κ] [LawfulBEq κ] {key : κ}
    {entries entries' : List (κ × List α)} {a : α}
    (h : Script.takeAt key entries = some (a, entries')) :
    key ∈ entries.map (·.1) ∧ entries'.map (·.1) = entries.map (·.1) := by
  induction entries generalizing entries' with
  | nil => cases h
  | cons entry entries ih =>
    obtain ⟨k, cues⟩ := entry
    rw [Script.takeAt] at h
    split at h
    · rename_i hk
      obtain ⟨⟨cue, cues'⟩, -, heq⟩ := Option.map_eq_some_iff.mp h
      cases heq
      exact ⟨eq_of_beq hk ▸ List.mem_cons_self, rfl⟩
    · obtain ⟨⟨cue, rest⟩, hrest, heq⟩ := Option.map_eq_some_iff.mp h
      cases heq
      obtain ⟨hmem, hsame⟩ := ih hrest
      exact ⟨List.mem_cons_of_mem _ hmem, congrArg (k :: ·) hsame⟩

/-- A node is given work of its executor, or of one that stands in for it. -/
theorem hires_of_workOf {inv : Invocation} {work : Work} {script : Script}
    (h : s.workOf inv.node.type inv = some (work, script)) :
    s.hires inv work ∧ script.standIns.map (·.1) = s.script.standIns.map (·.1) := by
  unfold workOf at h
  split at h
  · rename_i r hr
    cases h
    obtain ⟨⟨cue, standIns⟩, hcue, heq⟩ := Option.map_eq_some_iff.mp hr
    cases heq
    obtain ⟨hmem, hsame⟩ := Script.takeAt_keys hcue
    exact ⟨Or.inr ⟨hmem, cue, rfl⟩, hsame⟩
  · obtain ⟨executor, he, heq⟩ := Option.map_eq_some_iff.mp h
    cases heq
    refine ⟨Or.inl ?_, rfl⟩
    rw [Equipment.workOf, he]

theorem hires_unequipped {inv : Invocation} (h : s.workOf inv.node.type inv = none) :
    s.hires inv (.unequipped inv.node.type) := by
  unfold workOf at h
  split at h
  · cases h
  · refine Or.inl ?_
    rw [Equipment.workOf, Option.map_eq_none_iff.mp h]

/-- A task that waits for its turn takes up its work. -/
theorem Plays.take (h : Plays hired g input s) (ht : t ∈ s.tasks)
    (hs : t.startedAt.isNone = true) {work : Work} (hw : s.hires t.invocation work) :
    Works hired g input s t.invocation work := by
  obtain ⟨p, hp, he⟩ := h
  obtain ⟨hi, hj⟩ := hp.fits.tasks t ht List.not_mem_nil
  rw [if_pos hs] at hj
  have hput := Fits.put { invocation := t.invocation, work, rest := work } (hp.fits.leaveOut _)
    p.course.run ?_ ?_
  · have htaken := hp.performed.take _ _ hi (hp.hires_eq ▸ hw) hj
    exact ⟨List.mem_map_of_mem ht, _, ⟨htaken, hp.hires_eq, hp.run_eq, hput⟩, he, _,
      Performance.put_jobs_self _ _, rfl, rfl⟩
  · rintro data ⟨job, hjob, -⟩
    cases hj.symm.trans hjob
  · rintro result (⟨job, hjob, -⟩ | hfault)
    · cases hj.symm.trans hjob
    · exact hfault

theorem Plays.startTask (hg : g.Valid) (h : Plays hired g input s) (ht : t ∈ s.tasks)
    (hs : t.startedAt.isNone = true) : Plays hired g input (s.startTask t) := by
  unfold Stage.startTask
  dsimp only
  split
  · rename_i hnone
    exact (h.take ht hs (hires_unequipped hnone)).finish (Or.inl rfl)
  · rename_i work script hsome
    obtain ⟨hw, hscript⟩ := hires_of_workOf hsome
    have hworks := (h.take ht hs hw).call s.calls hscript
    have hsettle : ∀ s', Works hired g input s' t.invocation work → Plays hired g input
        ((Stage.perform t.invocation.node.id work s').1.settle { t with startedAt := some s.clock }
          (Stage.perform t.invocation.node.id work s').2) := fun s' hs' =>
      Works.settle (t := { t with startedAt := some s.clock }) hg _ (hs'.perform work s') rfl
    split
    · rename_i time htime
      refine hsettle _ (hworks.keep rfl rfl rfl fun p hf => ?_)
      have halarm := hf.setAlarm time (.turn (.task t.invocation.node.id))
        fun _ _ ha => by cases ha
      exact { halarm with }
    · exact hsettle _ hworks

theorem Plays.takeTaskTurn (hg : g.Valid) (h : Plays hired g input s) (id : String) :
    Plays hired g input (s.takeTaskTurn id) := by
  unfold Stage.takeTaskTurn
  split
  · exact h
  · rename_i t hfound
    have hid : t.invocation.node.id = id := by simpa using List.find?_some hfound
    have ht : t ∈ s.tasks := List.mem_of_find?_eq_some hfound
    subst hid
    split
    · exact h.fail ht _
    · split
      · rename_i hs
        exact h.startTask hg ht hs
      · rename_i hs
        have hworks := h.works ht (Bool.eq_false_iff.mpr hs)
        split
        · exact Works.settle hg _ (hworks.perform t.rest s) (Bool.eq_false_iff.mpr hs)
        · exact Works.settle hg (.waiting t.resumesAt t.rest) hworks (Bool.eq_false_iff.mpr hs)

end Tasks

end Stage
end Workflow
