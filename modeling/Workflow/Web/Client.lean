import Workflow.Capability
import Workflow.Json.Reading
import Workflow.Web.Exchange

/-! HTTP requests of nodes. -/
namespace Workflow

namespace HttpRequest

/-- The method as it is sent. -/
def wireMethod (r : HttpRequest) : String := String.ofList (r.method.toList.map Char.toUpper)

/-- The request as it is sent, which names the program unless it names another one. -/
def onWire (settings : HttpSettings) (r : HttpRequest) : Except Web.Error Web.Request := do
  let w ← Web.Request.of r.wireMethod r.url
  let w ← w.addHeaders r.headers
  return { w.addDefault "user-agent" settings.userAgent with body := r.body.getD "" }

/-- The failure of a request. -/
def failure (settings : HttpSettings) (r : HttpRequest) : Web.Error → CallError
  | .overdue _ => .timeout ("HTTP " ++ r.url) settings.timeoutSecs
  | e => .http e.message

end HttpRequest

/-- The response as nodes see it, with the header fields of plain values. Of several of a name the
last one counts. -/
def HttpResponse.ofWire (r : Web.Response) : Except Web.Error HttpResponse := do
  return {
    status := r.status
    reason := (Web.phrase? r.status).getD ""
    headers := (r.headers.filter fun f => Web.isPlainValue f.2).foldl
      (fun fields (name, value) => Json.insertPair fields name value) []
    body := ← r.text }

/-- Send a request. A bad method is found first; a cancelled request goes no further. -/
def HttpRequest.send (settings : HttpSettings) (cancelled : Bool) (r : HttpRequest)
    (peer : Web.Peer) : Except CallError HttpResponse × Web.Peer :=
  if !Web.isToken r.wireMethod then (.error (.http ("invalid HTTP method: " ++ r.method)), peer)
  else if cancelled then (.error .cancelled, peer)
  else match r.onWire settings with
    | .error e => (.error (r.failure settings e), peer)
    | .ok w =>
      let (result, peer) := peer.receive w
      ((result.bind HttpResponse.ofWire).mapError (r.failure settings), peer)

end Workflow
