import FactBase.Notice
import FactBase.Store.Unattached
/-! The steps that assert, retract and modify are made of: attaching and detaching a fact,
matching it, and collecting garbage. Listeners are not called here. -/
namespace FactBase.Store
variable {N : Type}

def hashOf (s : Store N) (f : Fact) : UInt64 := s.contentHash f.templateId f.values

/-- An asserted fact of the same template and content, unless duplicates are allowed. -/
def duplicateOf? (s : Store N) (h : Handle) (f : Fact) (hash : UInt64) : Option Handle :=
  if s.config.allowDuplicates then none
  else s.index.find? hash fun other =>
    other != h && (s.get? other).any fun g => g.templateId == f.templateId && g.values == f.values

/-- Replaces the list of a template's facts. -/
def setListOf (s : Store N) (t : TemplateId) (l : FactList) : Store N :=
  { s with templateLists := (t, l) :: s.templateLists.filter (·.1 != t) }

/-- Puts a fact into the list of all facts and that of its template, behind the given ones. -/
def link (s : Store N) (t : TemplateId) (h : Handle) (previous templatePrevious : Option Handle) :
    Except Breach (Store N) := do
  let (global, facts) ← s.global.linkAfter s.facts .global previous h
  let (l, facts) ← (s.listOf t).linkAfter facts .inTemplate templatePrevious h
  .ok ({ s with global, facts }.setListOf t l)

/-- Numbers a fact, indexes it by a hash, puts it into both lists and installs its atoms. The new
number is returned; a number that is reused does not count as issued. -/
def attach (s : Store N) (h : Handle) (reuse : Option Nat) (hash : UInt64)
    (previous templatePrevious : Option Handle) : Except Breach (Nat × Store N) :=
  match s.get? h with
  | none => .error (.factMissing .attaching h)
  | some f => do
    let (index, nextIndex) ← match reuse with
      | none => .ok (s.nextIndex, s.nextIndex + 1)
      | some index =>
        if f.index = 0 ∨ f.index = index then .ok (index, s.nextIndex)
        else .error (.renumbered index f.index)
    let s := { s with
      nextIndex
      facts := s.facts.update h fun f => { f with index, hash, busy := f.busy + 1 } }
    let s := s.installFields h
    let s ← { s with index := s.index.insert hash h }.link f.templateId h previous templatePrevious
    .ok (index, s)

/-! ### Matching -/

structure MatchOutcome where
  /-- The matches delivered, in order. -/
  ids : List MatchId := []
  /-- Whether a test failed. -/
  failed : Bool := false
  halted : Bool := false
  notices : List Notice := []
deriving Repr

/-- Hands the deliveries of a walk to the join network. -/
def deliverAll [JoinNetwork N] (h : Handle) (f : Fact) :
    List Delivery → N → MatchOutcome × N
  | [], network => ({}, network)
  | .matched entry markers :: rest, network =>
    let given : AlphaMatch := ⟨h, f.index, entry, f.values, markers⟩
    let (id, network) := JoinNetwork.push given network
    let (o, network) := deliverAll h f rest network
    ({ o with ids := id :: o.ids, notices := .pushed given :: o.notices }, network)
  | .failed test :: rest, network =>
    let (o, network) := deliverAll h f rest network
    ({ o with failed := true, notices := .testFailed f.index test :: o.notices }, network)

/-- Takes note that a test or the network failed. -/
def recordFailure (s : Store N) : Store N :=
  { s with
    evaluationError := true
    counters := { s.counters with evaluationErrors := s.counters.evaluationErrors + 1 } }

/-- Drives a fact through its template's pattern tree. -/
def matchFact [JoinNetwork N] (s : Store N) (h : Handle) (mode : MatchMode) :
    Except Breach (MatchOutcome × Store N) :=
  match s.get? h with
  | none => .error (.factMissing .matching h)
  | some f =>
    match s.patterns.tree? f.templateId with
    | none => .ok ({}, s)
    | some tree =>
      let context : MatchContext Probe := ⟨Probe.judge, tree, f.values, mode⟩
      let (deliveries, walked) := context.run ⟨s.probe, false⟩
      let (o, network) := deliverAll h f deliveries s.network
      let s := { s with
        probe := walked.probe
        network
        facts := s.facts.update h fun f => { f with matched := f.matched ++ o.ids }
        counters := { s.counters with alphaMatches := s.counters.alphaMatches + o.ids.length } }
      .ok ({ o with halted := walked.halted }, if o.failed then s.recordFailure else s)

/-- Asks the network to drop matches of a fact; `report` words its refusal. -/
def retractMatches [JoinNetwork N] (s : Store N) (h : Handle) (ids : List MatchId)
    (report : EvalError → Notice) : Except Breach (Bool × List Notice × Store N) :=
  if ids.isEmpty then .ok (false, [], s)
  else do
    let (refusal, network) ← JoinNetwork.retract h ids s.network
    let s := { s with
      network
      counters :=
        { s.counters with matchRetractions := s.counters.matchRetractions + ids.length } }
    match refusal with
    | none => .ok (false, [.dropped h ids], s)
    | some e => .ok (true, [.dropped h ids, report e], s.recordFailure)

/-! ### Detaching -/

/-- Where a detached fact was, and what the network said about its matches. -/
structure Detached where
  previous : Option Handle
  templatePrevious : Option Handle
  networkFailed : Bool
  notices : List Notice
deriving Repr

/-- Takes a fact out of both lists; returns the facts in front of it. -/
def unlink (s : Store N) (t : TemplateId) (h : Handle) :
    Except Breach (Option Handle × Option Handle × Store N) := do
  let (previous, global, facts) ← s.global.unlink s.facts .global h
  match s.templateLists.lookup t with
  | none => .error (.listMissing t)
  | some l =>
    let (templatePrevious, l, facts) ← l.unlink facts .inTemplate h
    .ok (previous, templatePrevious, { s with global, facts }.setListOf t l)

/-- Makes an asserted fact garbage: takes it out of the index and both lists and withdraws its
matches. -/
def detach [JoinNetwork N] (s : Store N) (h : Handle) : Except Breach (Detached × Store N) :=
  match s.get? h with
  | none => .error (.factMissing .detaching h)
  | some f => do
    let (found, index) := s.index.remove f.hash h
    if !found then .error (.notIndexed h)
    let (previous, templatePrevious, s) ← { s with index }.unlink f.templateId h
    if f.busy = 0 then .error (.busyUnderflow f.index)
    let s := { s with
      facts := s.facts.update h fun f =>
        { f with matched := [], isGarbage := true, busy := f.busy - 1 }
      garbage := s.garbage ++ [h]
      counters := { s.counters with retracted := s.counters.retracted + 1 } }
    let (networkFailed, notices, s) ← s.retractMatches h f.matched (.retractionFailed f.index)
    .ok (⟨previous, templatePrevious, networkFailed, notices⟩, s)

/-! ### Changed copies -/

/-- Checks changes one after the other and writes them over the fields of a fact; a later change
of the same slot wins. -/
def patch (template : Template) (depth : Nat) :
    List (Nat × Value) → List Field → Except ModifyError (List Field)
  | [], fields => .ok fields
  | (position, v) :: rest, fields =>
    match template.slot? position with
    | none => .error (.slotOutOfRange position template.arity)
    | some slot =>
      match slot.check v with
      | .error e => .error (.putSlot e)
      | .ok () => patch template depth rest (fields.set position ⟨v, .changes depth⟩)

/-- The fact of a handle, provided it is asserted. -/
def asserted (s : Store N) (h : Handle) : Except ModifyError Fact :=
  match s.get? h with
  | none => .error (.unknownFact h)
  | some f =>
    if f.isGarbage then .error (.factRetracted h)
    else if f.index = 0 then .error (.notAsserted h)
    else .ok f

/-- An asserted fact and its fields with changes written over them. -/
def patched (s : Store N) (h : Handle) (changes : List (Nat × Value)) :
    Except ModifyError (Fact × List Field) := do
  let f ← s.asserted h
  let fields ← patch f.template s.openChanges changes f.fields
  .ok (f, fields)

/-! ### Garbage -/

/-- Frees those of the given facts that nobody holds and leaves the others as garbage. -/
def collectFrom : List Handle → Store N → Except Breach (Nat × Store N)
  | [], s => .ok (0, s)
  | h :: rest, s =>
    match s.get? h with
    | none => .error (.garbageFreed h)
    | some f =>
      if f.busy = 0 then do
        let s ← s.free h
        let (n, s) ← collectFrom rest s
        .ok (n + 1, s)
      else collectFrom rest { s with garbage := s.garbage ++ [h] }

/-- Frees the retracted facts that nobody holds and drops unused atoms; returns how many facts
were freed. Does nothing while the guard is held. -/
def collectGarbage (s : Store N) : Except Breach (Nat × Store N) :=
  if s.guarded then .ok (0, s)
  else do
    let (n, s) ← collectFrom s.garbage { s with garbage := [] }
    .ok (n, { s with
      atoms := s.atoms.sweep s.holdsAtom
      counters :=
        { s.counters with reclaimed := s.counters.reclaimed + n, gcRuns := s.counters.gcRuns + 1 } })

/-- Collects garbage once enough of it waits. -/
def maybeCollect (s : Store N) : Except Breach (Store N) :=
  if 0 < s.config.gcThreshold ∧ s.config.gcThreshold ≤ s.garbage.length then
    s.collectGarbage.map (·.2)
  else .ok s

end FactBase.Store
