import Workflow.Text.Search

/-! Addresses that the gateway listens on. -/
namespace Workflow.Gateway

inductive AddressError where
  | noPort
  | badPort
  deriving DecidableEq, Repr

def AddressError.message : AddressError → String
  | noPort => "invalid socket address"
  | badPort => "invalid port value"

/-- The host and the port of an address: the port follows the last colon. -/
def splitAddress (address : String) : Except AddressError (String × Nat) :=
  let reversed := address.toList.reverse
  match reversed.dropWhile (· != ':') with
  | [] => .error .noPort
  | _ :: host =>
    match Text.index? (reversed.takeWhile (· != ':')).reverse with
    | none => .error .badPort
    | some port =>
      if port < 65536 then .ok (String.ofList host.reverse, port) else .error .badPort

end Workflow.Gateway
