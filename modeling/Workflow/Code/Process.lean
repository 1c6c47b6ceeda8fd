import Workflow.Capability
import Workflow.Json.Printer
import Workflow.Text.Encoding

/-! Code of nodes, run in a process of its own. What a process does is up to the launcher. -/
namespace Workflow

/-- What a process is started with. -/
structure Launch where
  program : String
  arguments : List String
  directory : Option String
  /-- The variables that are set for it. -/
  bindings : List (String × String)
  input : List UInt8
  deriving DecidableEq, Repr

/-- What remains of a process. -/
structure ProcessEnd where
  out : List UInt8
  err : List UInt8
  /-- The status, unless a signal ended the process. -/
  status : Option Nat
  /-- How long the process took, unless it never ends. -/
  elapsedMs : Option Nat
  deriving DecidableEq, Repr

/-- What starts processes: how they end, or why they cannot be started. -/
abbrev Launcher := Launch → Except String ProcessEnd

/-- A text with at most so many characters, and with a note when it had more. -/
def cutOutput (limit : Nat) (s : List Char) : List Char :=
  if s.length ≤ limit then s else s.take limit ++ "\n... (output truncated)".toList

/-- What is kept of a process. -/
def ProcessEnd.output (limit : Nat) (e : ProcessEnd) : CodeOutput where
  stdout := String.ofList (cutOutput limit (Text.decodeLossy e.out))
  stderr := String.ofList (cutOutput limit (Text.decodeLossy e.err))
  exitCode := match e.status with
    | some n => Int.ofNat n
    | none => -1

namespace CodeRequest

/-- The interpreter of the language, and the option behind which it takes its source. -/
def interpreter? (settings : CodeSettings) (r : CodeRequest) : Option (String × String) :=
  match String.ofList (r.language.toList.map Char.toLower) with
  | "python" | "python3" | "py" => some (settings.python, "-c")
  | "javascript" | "js" | "node" => some (settings.node, "-e")
  | "bash" | "sh" | "shell" => some (settings.shell, "-c")
  | _ => none

/-- The variable that holds the input of the node. -/
def inputVariable : String := "FLOWRUN_INPUT"

/-- The process of an interpreter. It has the input of the node in a variable and can
read it, too. -/
def launch (settings : CodeSettings) (r : CodeRequest) (program option : String) : Launch where
  program
  arguments := [option, r.source]
  directory := settings.workingDir
  bindings := [(inputVariable, r.input.text)]
  input := r.input.text.toUTF8.toList

/-- The milliseconds that code may take. -/
def limitMs (settings : CodeSettings) : Nat := 1000 * settings.timeoutSecs

/-- How long a process took, if it has ended in time. Without any time nothing does. -/
def timely? (settings : CodeSettings) (e : ProcessEnd) : Option Nat :=
  e.elapsedMs.filter fun ms => 0 < settings.timeoutSecs && ms ≤ limitMs settings

/-- Run code: the milliseconds that it takes, and what comes of it. -/
def attempt (launcher : Launcher) (settings : CodeSettings) (r : CodeRequest) :
    Nat × Except CallError CodeOutput :=
  match r.interpreter? settings with
  | none =>
    (0, .error (.codeExecution ("unsupported language: "
      ++ String.ofList (r.language.toList.map Char.toLower))))
  | some (program, option) => match launcher (r.launch settings program option) with
    | .error why => (0, .error (.codeExecution ("failed to start " ++ program ++ ": " ++ why)))
    | .ok ended => match timely? settings ended with
      | some ms => (ms, .ok (ended.output settings.maxOutputChars))
      | none =>
        (limitMs settings, .error (.timeout (r.language ++ " code") settings.timeoutSecs))

/-- Run code unless that is cancelled. -/
def run (launcher : Launcher) (settings : CodeSettings) (cancelled : Bool) (r : CodeRequest) :
    Except CallError CodeOutput :=
  if cancelled then .error .cancelled else (r.attempt launcher settings).2

/-! ### What comes of code -/

variable {launcher : Launcher} {settings : CodeSettings} {r : CodeRequest} {o : CodeOutput}

theorem timely?_eq_some_iff {e : ProcessEnd} {ms : Nat} : timely? settings e = some ms ↔
    e.elapsedMs = some ms ∧ 0 < settings.timeoutSecs ∧ ms ≤ limitMs settings := by
  simp [timely?, Option.filter_eq_some_iff]

/-- Code succeeds if its language is known, and its process is started and ends in time. -/
theorem attempt_eq_ok_iff : (r.attempt launcher settings).2 = .ok o ↔
    ∃ program option ended ms, r.interpreter? settings = some (program, option) ∧
      launcher (r.launch settings program option) = .ok ended ∧
      timely? settings ended = some ms ∧ o = ended.output settings.maxOutputChars := by
  constructor
  · intro h
    unfold attempt at h
    split at h
    · cases h
    · rename_i program option hinterpreter
      split at h
      · cases h
      · rename_i ended hlaunch
        split at h
        · rename_i ms htimely
          exact ⟨program, option, ended, ms, hinterpreter, hlaunch, htimely,
            (Except.ok.inj h).symm⟩
        · cases h
  · rintro ⟨program, option, ended, ms, hinterpreter, hlaunch, htimely, rfl⟩
    simp only [attempt, hinterpreter, hlaunch, htimely]

/-- Nothing takes longer than code may, not even what never ends. -/
theorem attempt_le_limitMs : (r.attempt launcher settings).1 ≤ limitMs settings := by
  unfold attempt
  split
  · exact Nat.zero_le _
  · split
    · exact Nat.zero_le _
    · split
      · rename_i ms htimely
        exact (timely?_eq_some_iff.mp htimely).2.2
      · exact Nat.le_refl _

end CodeRequest
end Workflow
