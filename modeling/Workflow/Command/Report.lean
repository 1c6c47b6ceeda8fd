/-! What a command leaves behind. -/
namespace Workflow.Command

/-- The texts that a command prints, its exit status, and the files that it writes. -/
structure Report where
  status : Nat := 0
  out : String := ""
  err : String := ""
  written : List (String × String) := []
  deriving DecidableEq, Repr

/-- A failure that ends a command: what could not be done, and the reasons, each the reason of the
one before it. -/
structure Failure where
  message : String
  reasons : List String := []
  deriving DecidableEq, Repr

/-- A text whose lines behind the first one are indented. -/
def indent (width : Nat) (s : String) : String :=
  String.ofList (s.toList.flatMap fun c => if c = '\n' then c :: List.replicate width ' ' else [c])

/-- A reason with its number, right-aligned. -/
def numbered (n : Nat) (reason : String) : String :=
  let digits := toString n
  "".pushn ' ' (5 - digits.length) ++ digits ++ ": " ++ indent 7 reason

namespace Failure

def text (f : Failure) : String :=
  let reasons := match f.reasons with
    | [] => ""
    | [reason] => "\n\nCaused by:\n    " ++ indent 4 reason
    | reasons => "\n\nCaused by:" ++ String.join (reasons.zipIdx.map fun (reason, n) =>
        "\n" ++ numbered n reason)
  "Error: " ++ f.message ++ reasons ++ "\n"

def report (f : Failure) : Report := { status := 1, err := f.text }

end Failure
end Workflow.Command
