import Workflow.Tool.CurrentTime
import Workflow.Tool.JsonQuery
import Workflow.Tool.RegexReplace
import Workflow.Tool.Toolbox
import Workflow.Tool.WebFetch

/-! The tools that are always there. -/
namespace Workflow

def Toolbox.standard (settings : HttpSettings) : Toolbox :=
  [Tool.jsonQuery, Tool.regexReplace, Tool.currentTime, Tool.webFetch settings].foldl register {}

end Workflow
