import FactBase.Session.Host
/-! Commands about templates and modules. -/
namespace FactBase.Session
open Process Turn

def templateView (s : Store Network) (id : TemplateId) : TemplateView :=
  { id
    template := s.templates.get? id
    busy := s.templates.busyCount id
    isVisible := s.templates.isVisible id
    factCount := s.templateFactCount id }

/-- Changes the template registry. -/
def setTemplates (r : TemplateRegistry) : Session Unit :=
  updateStore fun s => { s with templates := r }

/-- Changes the busy count of a template and answers with it. -/
def changeBusy (t : TemplateRef)
    (f : TemplateRegistry → TemplateId → Except Breach TemplateRegistry) : Turn Answer := do
  let id ← findTemplate t
  let r ← (orBreach (f (← store).templates id) : Session _)
  setTemplates r
  return .number (r.busyCount id)

def performTemplate : TemplateCommand → Turn Answer
  | .define t => do
    let id ← attempt .template (Process.attempt (·.defineTemplate t))
    return .number id.number
  | .undefine name => do
    attempt .template (Process.attemptChange (·.undefineTemplate name))
    return .done
  | .implied relation => do
    let (id, r) ← orFail .template ((← store).templates.impliedTemplate relation)
    setTemplates r
    return .number id.number
  | .declareModule name imports => do
    setTemplates (← orFail .template ((← store).templates.defineModule name imports))
    return .done
  | .useModule name => do
    let before := (← store).templates
    let r ← orFail .template (before.setCurrentModule name)
    setTemplates r
    return .modules before.currentModule r.currentModule
  | .markBusy t => changeBusy t (·.incrementBusy)
  | .unmarkBusy t => changeBusy t (·.decrementBusy)
  | .describe t => do
    let id ← findTemplate t
    return .template (templateView (← store) id)
  | .describeAll => do
    let r := (← store).templates
    return .templates (r.entries.map fun e => (e.id, e.template)) r.currentModule
  | .slotPosition t slot => do
    let id ← findTemplate t
    return .optionalNumber (((← store).templates.get? id).bind (·.slotPosition? slot))
  | .drawDefault t position => do
    let id ← findTemplate t
    let v ← (step fun s => .ok (s.drawDefault id position) : Session _)
    return .value v

end FactBase.Session
