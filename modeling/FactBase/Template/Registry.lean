import FactBase.Template
import FactBase.Breach
/-! The templates a fact base knows, with the counts of their users, and the modules that decide
which of them are in scope. A template in use cannot be removed, and its number is never issued
again. -/
namespace FactBase

structure TemplateEntry where
  id : TemplateId
  template : Template
  /-- How many facts are counted as made from the template. -/
  busy : Nat := 0
  /-- How many live builders were made from the template. -/
  builders : Nat := 0
deriving Inhabited

structure TemplateRegistry where
  /-- Which fact base the templates belong to. -/
  realm : Nat := 0
  /-- The defined templates, in the order of their numbers. -/
  entries : List TemplateEntry := []
  nextId : Nat := 0
  /-- Every module with the modules it imports. -/
  modules : List (String × List String) := [(mainModule, [])]
  currentModule : String := mainModule
deriving Inhabited

namespace TemplateRegistry

def entryOf? (r : TemplateRegistry) (id : TemplateId) : Option TemplateEntry :=
  r.entries.find? (·.id == id)

def get? (r : TemplateRegistry) (id : TemplateId) : Option Template :=
  (r.entryOf? id).map (·.template)

def byName? (r : TemplateRegistry) (name : String) : Option TemplateEntry :=
  r.entries.find? (·.template.name == name)

def find? (r : TemplateRegistry) (name : String) : Option TemplateId :=
  (r.byName? name).map (·.id)

def size (r : TemplateRegistry) : Nat := r.entries.length

/-- Changes the entry of a template. -/
def update (r : TemplateRegistry) (id : TemplateId) (f : TemplateEntry → TemplateEntry) :
    TemplateRegistry :=
  { r with entries := r.entries.map fun e => if e.id == id then f e else e }

def imports? (r : TemplateRegistry) (module : String) : Option (List String) :=
  r.modules.lookup module

def define (r : TemplateRegistry) (t : Template) :
    Except TemplateError (TemplateId × TemplateRegistry) :=
  if (r.find? t.name).isSome then .error (.duplicateTemplate t.name)
  else if (r.imports? t.module).isNone then .error (.unknownModule t.module)
  else match t.validate with
    | .error e => .error e
    | .ok () =>
      let id : TemplateId := ⟨r.nextId⟩
      .ok (id, { r with
        entries := r.entries ++ [{ id, template := t }]
        nextId := r.nextId + 1 })

/-- Removes a template that is not in use. `shares id` counts what refers to a template besides
its busy count and its builders. -/
def undefine (r : TemplateRegistry) (name : String) (shares : TemplateId → Nat) :
    Except TemplateError TemplateRegistry :=
  match r.byName? name with
  | none => .error (.unknownTemplate name)
  | some e =>
    let references := e.busy + shares e.id + e.builders
    if 0 < references then .error (.templateInUse name references)
    else .ok { r with entries := r.entries.filter (·.id != e.id) }

/-- The template of a relation's ordered facts, made in the current module on first use. -/
def impliedTemplate (r : TemplateRegistry) (relation : String) :
    Except TemplateError (TemplateId × TemplateRegistry) :=
  match r.byName? relation with
  | some e => if e.template.isImplied then .ok (e.id, r) else .error (.duplicateTemplate relation)
  | none => r.define (.implied relation r.currentModule)

def busyCount (r : TemplateRegistry) (id : TemplateId) : Nat :=
  ((r.entryOf? id).map (·.busy)).getD 0

def incrementBusy (r : TemplateRegistry) (id : TemplateId) : Except Breach TemplateRegistry :=
  if (r.entryOf? id).isSome then .ok (r.update id fun e => { e with busy := e.busy + 1 })
  else .error (.templateMissing id)

def decrementBusy (r : TemplateRegistry) (id : TemplateId) : Except Breach TemplateRegistry :=
  match r.entryOf? id with
  | none => .error (.templateMissing id)
  | some e =>
    if e.busy = 0 then .error (.templateUnderflow id)
    else .ok (r.update id fun e => { e with busy := e.busy - 1 })

/-! ### Modules -/

/-- Declares a module, anew if it exists. Its imports have to be declared already. -/
def defineModule (r : TemplateRegistry) (name : String) (imports : List String) :
    Except TemplateError TemplateRegistry :=
  match imports.find? fun i => (r.imports? i).isNone with
  | some missing => .error (.unknownModule missing)
  | none => .ok { r with modules := (name, imports) :: r.modules.filter (·.1 != name) }

def setCurrentModule (r : TemplateRegistry) (name : String) :
    Except TemplateError TemplateRegistry :=
  if (r.imports? name).isSome then .ok { r with currentModule := name }
  else .error (.unknownModule name)

/-- Whether facts of a template are in scope: its module is the current one or imported by it. -/
def isVisible (r : TemplateRegistry) (id : TemplateId) : Bool :=
  (r.get? id).any fun t =>
    t.module == r.currentModule || ((r.imports? r.currentModule).getD []).contains t.module

end TemplateRegistry
end FactBase
