import Workflow.Rehearsal.Stage
import Mathlib.Tactic.Common

/-! What work does, one step after the other. Calls may have any answers; what the world outside
notices of a step is its act. Work that calls nobody has only one way to go. -/
namespace Workflow

/-- What is noticed of a step of work. -/
inductive Act where
  | emit (data : Json)
  /-- An errand is left behind that will publish a part of the output. -/
  | leave (data : Json)
  | tool (name : String) (input : Json) (answer : Ending (Except CallError Json))
  | code (request : CodeRequest) (answer : Ending (Except CallError CodeOutput))
  | http (request : HttpRequest) (answer : Ending (Except CallError HttpResponse))
  | chat (request : ChatRequest) (answer : Ending ChatAnswer)

/-- The part of the output that is published by the act itself. -/
def Act.part? : Act → Option Json
  | emit data => some data
  | _ => none

/-- The parts of the output that acts publish. -/
def Act.parts (acts : List Act) : List Json := acts.filterMap part?

/-- No errand is left behind. -/
def Act.Tidy (acts : List Act) : Prop := ∀ data, Act.leave data ∉ acts

theorem Act.parts_append (acts later : List Act) :
    parts (acts ++ later) = parts acts ++ parts later := List.filterMap_append

namespace Work

/-- One step of work. An answer may take any time to come. -/
inductive Step : Work → Option Act → Work → Prop
  | breakdown : Step .breakdown none (.done Stage.brokenDown)
  | wait {ms : ℕ} {rest : Work} : Step (.wait ms rest) none rest
  | emit {data : Json} {rest : Work} : Step (.emit data rest) (some (.emit data)) rest
  | emitLater {ms : ℕ} {data : Json} {rest : Work} :
    Step (.emitLater ms data rest) (some (.leave data)) rest
  | tool {name : String} {input : Json} {rest : Except CallError Json → Work} (waits : List ℕ)
    (ending : Ending (Except CallError Json)) :
    Step (.tool name input rest) (some (.tool name input ending)) (.after ⟨waits, ending⟩ rest)
  | code {request : CodeRequest} {rest : Except CallError CodeOutput → Work} (waits : List ℕ)
    (ending : Ending (Except CallError CodeOutput)) :
    Step (.code request rest) (some (.code request ending)) (.after ⟨waits, ending⟩ rest)
  | http {request : HttpRequest} {rest : Except CallError HttpResponse → Work} (waits : List ℕ)
    (ending : Ending (Except CallError HttpResponse)) :
    Step (.http request rest) (some (.http request ending)) (.after ⟨waits, ending⟩ rest)
  | chat {request : ChatRequest} {rest : ChatAnswer → Work} (waits : List ℕ)
    (ending : Ending ChatAnswer) :
    Step (.chat request rest) (some (.chat request ending)) (.after ⟨waits, ending⟩ rest)

/-- Some steps of work, with what is noticed of them. -/
inductive Runs : Work → List Act → Work → Prop
  | refl {work : Work} : Runs work [] work
  | head {work next last : Work} {act : Option Act} {acts : List Act} (hs : Step work act next)
    (h : Runs next acts last) : Runs work (act.toList ++ acts) last

variable {work next last : Work} {act : Option Act} {acts : List Act}

theorem Runs.tail (h : Runs work acts next) (hs : Step next act last) :
    Runs work (acts ++ act.toList) last := by
  induction h with
  | refl => exact List.append_nil act.toList ▸ Runs.head hs .refl
  | head hfirst _ ih =>
    rw [List.append_assoc]
    exact .head hfirst (ih hs)

/-- Nothing follows a result. -/
theorem Step.not_done {result : Except NodeFault Outcome} : ¬ Step (.done result) act next := by
  intro h
  cases h

/-- The first act of work that begins with a call of a model is that call. -/
theorem Runs.of_chat {request : ChatRequest} {rest : ChatAnswer → Work}
    (h : Runs (.chat request rest) acts last) :
    acts = [] ∧ last = .chat request rest ∨ ∃ waits ending later,
      acts = .chat request ending :: later ∧ Runs (.after ⟨waits, ending⟩ rest) later last := by
  cases h with
  | refl => exact Or.inl ⟨rfl, rfl⟩
  | head hs h =>
    cases hs with
    | chat waits ending => exact Or.inr ⟨waits, ending, _, rfl, h⟩

/-! ### Plain work -/

/-- The work calls nobody and leaves no errands behind. -/
def Plain : Work → Prop
  | done _ | never | breakdown => True
  | wait _ rest | emit _ rest => rest.Plain
  | emitLater _ _ _ | tool _ _ _ | code _ _ | http _ _ | chat _ _ => False

/-- The parts of the output that plain work publishes. -/
def parts : Work → List Json
  | wait _ rest => rest.parts
  | emit data rest => data :: rest.parts
  | _ => []

/-- The result that plain work comes to, unless it never ends. -/
def result? : Work → Option (Except NodeFault Outcome)
  | done result => some result
  | breakdown => some Stage.brokenDown
  | wait _ rest | emit _ rest => rest.result?
  | _ => none

theorem Plain.step (hp : work.Plain) (hs : Step work act next) : next.Plain ∧
    work.parts = Act.parts act.toList ++ next.parts ∧ work.result? = next.result? ∧
    Act.Tidy act.toList := by
  have hnil : Act.Tidy [] := fun data => List.not_mem_nil
  cases hs with
  | breakdown => exact ⟨trivial, rfl, rfl, hnil⟩
  | wait => exact ⟨hp, rfl, rfl, hnil⟩
  | emit => exact ⟨hp, rfl, rfl, fun data hd => by cases List.mem_singleton.mp hd⟩
  | emitLater | tool | code | http | chat => exact hp.elim

/-- Whatever steps plain work takes, what it has still to publish follows what it has published, and
its result does not change. -/
theorem Plain.runs (hp : work.Plain) (h : Runs work acts last) : last.Plain ∧
    work.parts = Act.parts acts ++ last.parts ∧ work.result? = last.result? ∧ Act.Tidy acts := by
  induction h with
  | refl => exact ⟨hp, rfl, rfl, fun data => List.not_mem_nil⟩
  | head hs _ ih =>
    obtain ⟨hnext, hparts, hresult, htidy⟩ := hp.step hs
    obtain ⟨hlast, hparts', hresult', htidy'⟩ := ih hnext
    refine ⟨hlast, ?_, hresult.trans hresult', fun data hd => ?_⟩
    · rw [hparts, hparts', Act.parts_append, List.append_assoc]
    · exact (List.mem_append.mp hd).elim (htidy data) (htidy' data)

/-- The work is sure to come to the result: it goes on until it has it, whatever steps it takes. -/
inductive ComesTo : Work → Except NodeFault Outcome → Prop
  | done {result : Except NodeFault Outcome} : ComesTo (.done result) result
  | step {work : Work} {result : Except NodeFault Outcome} (hgo : ∃ act next, Step work act next)
    (h : ∀ act next, Step work act next → ComesTo next result) : ComesTo work result

theorem Plain.comesTo {result : Except NodeFault Outcome} (hp : work.Plain)
    (hr : work.result? = some result) : work.ComesTo result := by
  induction work with
  | done result' =>
    obtain rfl : result' = result := Option.some.inj hr
    exact .done
  | breakdown =>
    obtain rfl : Stage.brokenDown = result := Option.some.inj hr
    refine .step ⟨_, _, .breakdown⟩ fun act next hs => ?_
    cases hs
    exact .done
  | wait ms rest ih =>
    refine .step ⟨_, _, .wait⟩ fun act next hs => ?_
    cases hs
    exact ih hp hr
  | emit data rest ih =>
    refine .step ⟨_, _, .emit⟩ fun act next hs => ?_
    cases hs
    exact ih hp hr
  | never => cases hr
  | emitLater | tool | code | http | chat => exact hp.elim

/-! ### Waiting for an answer -/

section Waits

variable (waits : List ℕ)

theorem plain_foldr_wait : (waits.foldr wait work).Plain ↔ work.Plain := by
  induction waits with
  | nil => rfl
  | cons ms waits ih => exact ih

theorem parts_foldr_wait : (waits.foldr wait work).parts = work.parts := by
  induction waits with
  | nil => rfl
  | cons ms waits ih => exact ih

theorem result?_foldr_wait : (waits.foldr wait work).result? = work.result? := by
  induction waits with
  | nil => rfl
  | cons ms waits ih => exact ih

end Waits

/-- What becomes of an answer that has come, or will not come. -/
def continued {α : Type} (rest : α → Work) : Ending α → Work
  | .value a => rest a
  | .never => never
  | .breakdown => breakdown

section After

variable {α : Type} (answer : Timed α) (rest : α → Work)

theorem plain_after : (after answer rest).Plain ↔ (continued rest answer.ending).Plain := by
  obtain ⟨waits, ending⟩ := answer
  cases ending <;> exact plain_foldr_wait waits

theorem parts_after : (after answer rest).parts = (continued rest answer.ending).parts := by
  obtain ⟨waits, ending⟩ := answer
  cases ending <;> exact parts_foldr_wait waits

theorem result?_after : (after answer rest).result? = (continued rest answer.ending).result? := by
  obtain ⟨waits, ending⟩ := answer
  cases ending <;> exact result?_foldr_wait waits

end After

end Work
end Workflow
