import Workflow.Executor.Basic
import Workflow.Predicate.Eval

/-! Executors that call nothing outside. -/
namespace Workflow.Executor

/-- The first declared input that is there and not of its kind. -/
def firstMisfit (input : Fields) : List (String × FieldKind) → Option (String × FieldKind)
  | [] => none
  | (key, kind) :: rest => match input.get? key with
    | none | some .null => firstMisfit input rest
    | some v => if kind.accepts v then firstMisfit input rest else some (key, kind)

/-- The required inputs that are absent or null. -/
def missingInputs (node : Node) (input : Fields) : List String :=
  match node.payload with
  | .start required => required.filter fun key => (Json.ofOption (input.get? key)).isNull
  | _ => []

/-- Check the input of the run, and put the declared part of it into the run state. -/
def start : Executor := fun inv =>
  let declared := inv.node.generateFields
  let missing := missingInputs inv.node inv.input
  if !missing.isEmpty then
    .fail (.validation ("missing required input: " ++ ", ".intercalate missing))
  else match firstMisfit inv.input declared with
    | some (key, kind) =>
      .fail (.validation ("input field " ++ key ++ " is not a valid " ++ kind.title))
    | none => .write (if declared.isEmpty then inv.input
        else inv.input.restrict (declared.map (·.1)))

/-- The output of the run: the values of the usage fields, or the whole input. -/
def finalOutput (inv : Invocation) : Json :=
  match inv.node.usageFields with
  | [] => .obj inv.input
  | keys => .ofPairs (keys.map fun key => (key, Json.ofOption (inv.input.get? key)))

def finish : Executor := fun inv =>
  let output := finalOutput inv
  .done (.ok ⟨[], output, .finish output⟩)

/-- The predicate of a node, parsed now if it was not parsed before. -/
def predicate (inv : Invocation) : Except NodeFault Predicate :=
  match inv.condition, inv.node.payload with
  | some p, _ => .ok p
  | none, .condition expression => match Predicate.parse expression with
    | .ok p => .ok p
    | .error e => .error (.validation e.message)
  | none, _ => .error (.executorFailure "not a condition node")

/-- Evaluate the predicate and take the branch of its result. -/
def condition : Executor := fun inv =>
  match predicate inv with
  | .error fault => .fail fault
  | .ok p =>
    let result := p.holds inv.input
    .done (.ok ⟨[], .ofPairs [("result", .bool result)], .branch result⟩)

def information : Executor := fun _ => .write []

end Workflow.Executor
