import Workflow.Proofs.Executor.Streaming
import Workflow.Proofs.Run.Performance

/-! Nodes that ask language models, in performances: the deltas that they stream add up to what they
come back with. -/
namespace Workflow

namespace Performance

variable {works : Invocation → Work → Prop} {g : Graph} {input : Fields} {p : Performance}

/-- The deltas of a model add up to the result of the node that asks it, in every performance. What
has been heard of the node at any time are the first texts that it heard, one by one; if it comes
back by itself, all texts that came before the end or the first error, and nothing else. If the
stream ends and the node wants a text, it is sure to come to the patch that binds all texts one
after the other; if the stream fails, so does the node. A node that fails ends in no other way. -/
theorem deltas_add_up {w : Definition} (hw : Graph.compile w = .ok g)
    (hp : Performed works g input p) {v : String} {job : Job} {settings : ModelSettings}
    {config : LlmConfig} (hj : p.jobs v = some job)
    (hk : job.work = Executor.chat settings job.invocation)
    (hc : job.invocation.node.payload = .llm config) :
    (∀ result, p.CameBack v result → ∃ ending, job.acts.head? =
      some (.chat ⟨Executor.modelFor settings config, Executor.conversation config
        job.invocation.node.usageFields job.invocation.input⟩ ending)) ∧
    ∀ request ending, job.acts.head? = some (.chat request ending) →
      let heard := Transcript.ofAnswer ending
      let patch := job.invocation.node.bind (.str (String.join heard.texts))
      p.course.outputs v <+: heard.outputs ∧
      (∀ result, p.CameBack v result → p.course.outputs v = heard.outputs) ∧
      (heard.closing = .whole → config.outputSchema = .text →
        job.rest.ComesTo (.ok (.ofPatch patch)) ∧
        ∀ result, p.CameBack v result → result = .ok (.ofPatch patch) ∧
          ∃ elapsed, p.course.endings v = [.nodeEnd v (.obj patch) elapsed]) ∧
      (∀ e, heard.closing = .failed e → job.rest.ComesTo (.error (.ofCall e)) ∧
        ∀ result, p.CameBack v result → result = .error (.ofCall e)) ∧
      ∀ fault, p.CameBack v (.error fault) → p.course.endings v = [.nodeError v fault.info] ∧
        ∀ outcome, (v, .ok outcome) ∉ p.course.results := by
  have hkept := hp.kept (Graph.compile_valid hw)
  have hsound := hkept.reached.sound (Graph.compile_valid hw)
  have htold := hkept.reached.told (Graph.compile_valid hw)
  have hruns : (Executor.chat settings job.invocation).Runs job.acts job.rest :=
    hk ▸ (hkept.employs v job hj).runs
  rcases Executor.chat_runs hc hruns with ⟨hnil, hnone⟩ |
    ⟨ending, later, hacts, htidy, hplain, houtputs, hresult⟩
  · -- The model has not been asked, so the work has not come to a result.
    have hspeaks := hkept.speaks v job hj (by simp [Act.Tidy, hnil])
    refine ⟨fun result hr => ?_, fun request ending hhead => by simp [hnil] at hhead⟩
    rw [(hspeaks.back result hr).1] at hnone
    cases hnone
  · have hspeaks := hkept.speaks v job hj htidy
    refine ⟨fun _ _ => ⟨ending, by rw [hacts]; rfl⟩, fun request ending' hhead => ?_⟩
    obtain ⟨rfl, rfl⟩ : _ = request ∧ ending = ending' := by simpa [hacts] using hhead
    intro heard patch
    have hback : ∀ result, p.CameBack v result →
        heard.outputs = Act.parts job.acts ∧
          heard.result? job.invocation.node config.outputSchema "" = some result := by
      intro result hr
      have hdone := (hspeaks.back result hr).1
      rw [hdone] at houtputs hresult
      exact ⟨houtputs.trans (List.append_nil _), hresult⟩
    refine ⟨?_, fun result hr => ?_, fun hwhole hformat => ?_, fun e he => ?_, fun fault hr => ?_⟩
    · exact hspeaks.outputs_prefix.trans ⟨_, houtputs.symm⟩
    · exact (hspeaks.back result hr).2.trans (hback result hr).1.symm
    · have hwant : heard.result? job.invocation.node config.outputSchema "" =
          some (.ok (.ofPatch patch)) := by
        rw [Transcript.result?, hwhole, hformat, String.empty_append]
        rfl
      refine ⟨hplain.comesTo (hresult.symm.trans hwant), fun result hr => ?_⟩
      obtain rfl := Option.some.inj (hwant.symm.trans (hback result hr).2)
      exact ⟨rfl, htold.endings_of_result hsound hr.1⟩
    · have hwant : heard.result? job.invocation.node config.outputSchema "" =
          some (.error (.ofCall e)) := by
        rw [Transcript.result?, he]
      refine ⟨hplain.comesTo (hresult.symm.trans hwant), fun result hr => ?_⟩
      exact (Option.some.inj (hwant.symm.trans (hback result hr).2)).symm
    · obtain ⟨elapsed, hend⟩ := htold.endings_of_result hsound hr.1
      refine ⟨hend, fun outcome ho => ?_⟩
      cases hsound.result_unique hr.1 ho

/-! ### A model that greets -/

/-- A node that asks a model, right after the start. -/
def greetWorkflow : Definition where
  id := "greet"
  nodes := [.ofPayload "a" (.start []), .ofPayload "b" (.llm { prompt := "Greet" })]
  edges := [.between "a" "b"]

def greet : Graph where
  workflowId := "greet"
  start := "a"
  nodes := greetWorkflow.nodes
  arcs := [⟨"a->b", "a", "b", none⟩]
  standalone := []
  conditions := []
  topoOrder := ["a", "b"]

theorem compile_greetWorkflow : Graph.compile greetWorkflow = .ok greet := by decide +kernel

def greetEquipment : Equipment := { model := some { modelId := "m" } }

def greetWorks (inv : Invocation) (work : Work) : Prop := work = greetEquipment.workOf inv

/-- The model reports its usage in the middle of its answer, and at the end why it stopped. -/
def greetStream : List (Timed (Except CallError Delta)) :=
  [⟨[], .value (.ok (.text "Hel"))⟩, ⟨[5], .value (.ok (.usage 1 2))⟩,
    ⟨[], .value (.ok (.text "lo"))⟩, ⟨[], .value (.ok (.stop .endTurn))⟩]

def greetInvocation : Invocation := ⟨.ofPayload "b" (.llm { prompt := "Greet" }), [], none⟩

def greetSaid (chunk : String) : Act := .emit (.ofPairs [("delta", .str chunk)])

/-- All that passes between the node and the world outside. -/
def greetActs : List Act :=
  [.chat ⟨Executor.modelFor { modelId := "m" } { prompt := "Greet" },
      Executor.conversation { prompt := "Greet" } [] []⟩ (.value (.ok greetStream)),
    greetSaid "Hel", greetSaid "lo"]

/-- The job of the node after so many acts and so many deltas, with the text heard so far. -/
def greetJob (acts deltas : ℕ) (text : String) : Job where
  invocation := greetInvocation
  work := greetEquipment.workOf greetInvocation
  acts := greetActs.take acts
  rest := Executor.listen greetInvocation.node .text text (greetStream.drop deltas)

/-- The job of the start node, which writes nothing. -/
def greetStart : Job := ⟨⟨.ofPayload "a" (.start []), [], none⟩, .write [], [], .write []⟩

/-- The node that asks is about to begin. -/
def greetReady : Performance where
  course := ((Course.begin greet []).dispatch.complete "a" (.ok (.ofPatch [])) 0).dispatch
  jobs := Function.update (fun _ => none) "a" (some greetStart)
  interrupted := []

theorem greetReady_performed : Performed greetWorks greet [] greetReady := by
  have hstart := Performed.dispatch (show Performed greetWorks greet [] (begin greet []) from .refl)
    "a" rfl (by decide +kernel)
  have htaken := hstart.take greetStart.invocation greetStart.work (by decide +kernel) rfl rfl
  have hdone := htaken.finish greetStart (.ok (.ofPatch [])) 0 rfl rfl rfl (by decide +kernel)
    (by decide +kernel)
  exact hdone.dispatch "b" (by decide +kernel) (by decide +kernel)

/-- The performance at the end of the node that asks. -/
def greetCourse : Course :=
  ((greetReady.course.voice "b" (.ofPairs [("delta", .str "Hel")])).voice "b"
    (.ofPairs [("delta", .str "lo")])).complete "b" (.ok (.ofPatch [("b", .str "Hello")])) 7

theorem greet_performed : ∃ p, Performed greetWorks greet [] p ∧ p.course = greetCourse ∧
    p.interrupted = [] ∧ p.jobs "b" = some (greetJob 3 4 "Hello") := by
  have htaken := greetReady_performed.take greetInvocation (greetEquipment.workOf greetInvocation)
    (by decide +kernel) rfl rfl
  have hasked := htaken.act ⟨greetInvocation, greetEquipment.workOf greetInvocation, [],
    greetEquipment.workOf greetInvocation⟩ rfl (.chat [] (.value (.ok greetStream)))
  have hhel := hasked.act (greetJob 1 0 "") rfl
    (show Work.Step _ (some (greetSaid "Hel")) (greetJob 2 1 "Hel").rest from .emit)
  have hwait := hhel.act (greetJob 2 1 "Hel") rfl
    (show Work.Step _ none (greetJob 2 2 "Hel").rest from .wait)
  have hlo := hwait.act (greetJob 2 2 "Hel") rfl
    (show Work.Step _ (some (greetSaid "lo")) (greetJob 3 4 "Hello").rest from .emit)
  have hend := hlo.finish (greetJob 3 4 "Hello") (.ok (.ofPatch [("b", .str "Hello")])) 7 rfl rfl
    (by decide +kernel) (by decide +kernel) (by decide +kernel)
  exact ⟨_, hend, rfl, rfl, rfl⟩

/-- Both texts are heard, and the node ends with the greeting that they make up. -/
theorem deltas_add_up_of_greet : ∃ p, Graph.compile greetWorkflow = .ok greet ∧
    Performed greetWorks greet [] p ∧ p.jobs "b" = some (greetJob 3 4 "Hello") ∧
    p.CameBack "b" (.ok (.ofPatch [("b", .str "Hello")])) ∧
    p.course.outputs "b" =
      [.ofPairs [("delta", .str "Hel")], .ofPairs [("delta", .str "lo")]] ∧
    ∃ elapsed, p.course.endings "b" = [.nodeEnd "b" (.obj [("b", .str "Hello")]) elapsed] := by
  obtain ⟨p, hp, hcourse, hinterrupted, hjob⟩ := greet_performed
  have hback : p.CameBack "b" (.ok (.ofPatch [("b", .str "Hello")])) := by
    rw [CameBack, hcourse, hinterrupted]
    exact ⟨by decide +kernel, List.not_mem_nil⟩
  have hwork : (greetJob 3 4 "Hello").work = Executor.chat { modelId := "m" } greetInvocation := rfl
  have hpayload : greetInvocation.node.payload = .llm { prompt := "Greet" } := rfl
  obtain ⟨-, hadds⟩ := deltas_add_up compile_greetWorkflow hp hjob hwork hpayload
  obtain ⟨-, hall, hwhole, -⟩ := hadds _ _ rfl
  exact ⟨p, compile_greetWorkflow, hp, hjob, hback, hall _ hback, ((hwhole rfl rfl).2 _ hback).2⟩

end Performance
end Workflow
