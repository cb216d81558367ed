import FactBase.Store
/-! Facts that are not asserted: making them, filling their slots and freeing them. -/
namespace FactBase.Store
variable {N : Type}

/-- Stores a new fact with one field per slot. -/
def createWith (s : Store N) (t : TemplateId) (template : Template) (fields : List Field) :
    Except Breach (Handle × Store N) :=
  if fields.length ≠ template.arity then
    .error (.arityMismatch fields.length template.name template.arity)
  else do
    let templates ← s.templates.incrementBusy t
    let (h, facts) := s.facts.insert { template, templateId := t, fields }
    .ok (h, { s with templates, facts })

/-- The field of an unset slot. -/
def defaultField (s : Store N) (t : TemplateId) (slot : Slot) (position : Nat) :
    Option Field × Store N :=
  let (value, s) := s.drawDefault t position
  (value.map fun v => ⟨v, if slot.lendsDefault then .default else .own⟩, s)

/-- The fields of a fact whose slots nobody has set; a slot without a default is left blank. -/
def defaultFields (s : Store N) (t : TemplateId) :
    List (Slot × Nat) → List Field × Store N
  | [] => ([], s)
  | (slot, position) :: rest =>
    let (field, s) := s.defaultField t slot position
    let (fields, s) := defaultFields s t rest
    (field.getD ⟨slot.blank, .own⟩ :: fields, s)

/-- Makes an unattached fact of a template. -/
def createFact (s : Store N) (name : String) :
    Except Breach (Except StoreError Handle × Store N) :=
  match s.templates.byName? name with
  | none => .ok (.error (.unknownTemplate name), s)
  | some e => do
    let (fields, s) := s.defaultFields e.id e.template.slots.zipIdx
    let (h, s) ← s.createWith e.id e.template fields
    .ok (.ok h, s)

/-- Makes an unattached ordered fact; its template is defined on first use. -/
def createOrdered (s : Store N) (relation : String) (values : List Value) :
    Except Breach (Except StoreError Handle × Store N) :=
  match s.templates.impliedTemplate relation with
  | .error e => .ok (.error (.template e), s)
  | .ok (id, templates) =>
    let s := { s with templates }
    match templates.get? id with
    | none => .error (.impliedVanished relation)
    | some template => do
      let (h, s) ← s.createWith id template [⟨.multifield values, .own⟩]
      .ok (.ok h, s)

/-- The fact of a handle, provided it is unattached. -/
def unattached (s : Store N) (h : Handle) : Except StoreError Fact :=
  match s.get? h with
  | none => .error (.unknownFact h)
  | some f => if f.isUnattached then .ok f else .error (.factAttached h)

/-- Writes one field of a fact. -/
def setField (s : Store N) (h : Handle) (position : Nat) (field : Field) : Store N :=
  { s with facts := s.facts.update h fun f => { f with fields := f.fields.set position field } }

/-- Sets a slot of an unattached fact by position. -/
def putSlotAt (s : Store N) (h : Handle) (position : Nat) (v : Value) :
    Except StoreError (Store N) := do
  let f ← s.unattached h
  match f.template.slot? position with
  | none => .error (.slotOutOfRange position f.template.arity)
  | some slot =>
    match slot.check v with
    | .error e => .error (.putSlot e)
    | .ok () => .ok (s.setField h position ⟨v, .own⟩)

/-- Sets a slot of an unattached fact by name. -/
def putSlot (s : Store N) (h : Handle) (slot : String) (v : Value) :
    Except StoreError (Store N) := do
  let f ← s.unattached h
  match f.template.slotPosition? slot with
  | none => .error (.putSlot (.slotNotFound f.template.name slot))
  | some position => s.putSlotAt h position v

/-- Gives up the storage of a fact; one that was ever asserted gives back its atoms. -/
def free (s : Store N) (h : Handle) : Except Breach (Store N) :=
  match s.facts.remove? h with
  | none => .error (.factMissing .freeing h)
  | some (f, facts) => do
    let atoms ← if f.index = 0 then .ok s.atoms else f.values.foldlM AtomTable.deinstall s.atoms
    let templates ← s.templates.decrementBusy f.templateId
    .ok { s with facts, atoms, templates }

/-- Frees a fact that was never asserted. -/
def discard (s : Store N) (h : Handle) : Except Breach (Except StoreError Unit × Store N) :=
  match s.unattached h with
  | .error e => .ok (.error e, s)
  | .ok _ => do
    let s ← s.free h
    .ok (.ok (), s)

/-! ### Pins -/

def setBusy (s : Store N) (h : Handle) (busy : Nat) : Store N :=
  { s with facts := s.facts.update h fun f => { f with busy } }

/-- Pins a fact: it stays readable until it is released. -/
def retain (s : Store N) (h : Handle) : Except StoreError (Store N) :=
  match s.get? h with
  | none => .error (.unknownFact h)
  | some f => .ok (s.setBusy h (f.busy + 1))

/-- Takes back one pin. -/
def release (s : Store N) (h : Handle) : Except Breach (Except StoreError Unit × Store N) :=
  match s.get? h with
  | none => .ok (.error (.unknownFact h), s)
  | some f =>
    if f.busy = 0 then .error (.releaseWithoutRetain h)
    else .ok (.ok (), s.setBusy h (f.busy - 1))

/-- Installs the atoms of a fact's fields; the fields use the table's storage from now on. -/
def installFields (s : Store N) (h : Handle) : Store N :=
  match s.get? h with
  | none => s
  | some f =>
    { s with
      atoms := f.fields.foldl (fun t field => t.install (f.lender? field) field.value) s.atoms
      facts := s.facts.update h fun f =>
        { f with fields := f.fields.map fun field => { field with source := .table } } }

/-- Pins a fact and installs its atoms once more. -/
def install (s : Store N) (h : Handle) : Except StoreError (Store N) := do
  let s ← s.retain h
  .ok (s.installFields h)

/-- Takes back one pin and one installation of the fact's atoms. -/
def deinstall (s : Store N) (h : Handle) : Except Breach (Except StoreError Unit × Store N) :=
  match s.get? h with
  | none => .ok (.error (.unknownFact h), s)
  | some f =>
    if f.busy = 0 then .error (.deinstallWithoutInstall h)
    else do
      let atoms ← f.values.foldlM AtomTable.deinstall s.atoms
      .ok (.ok (), { s.setBusy h (f.busy - 1) with atoms })

end FactBase.Store
