import FactBase.Store.Attach
/-! Adding patterns to a fact base and replaying the facts asserted before them. A replay that is
halted resumes later with the facts it has not dealt with; the fact at which it was halted gives
its new matches back first. -/
namespace FactBase.Store
variable {N : Type}

/-- Withdraws matches that a replay has just delivered. -/
def withdraw [JoinNetwork N] (s : Store N) (h : Handle) (ids : List MatchId) :
    Except Breach (List Notice × Store N) := do
  let s := { s with
    facts := s.facts.update h fun f => { f with matched := f.matched.filter (!ids.contains ·) } }
  let (_, notices, s) ← s.retractMatches h ids (.withdrawalFailed h)
  .ok (notices, s)

structure ReplayOutcome where
  /-- How many matches were delivered and kept. -/
  produced : Nat := 0
  complete : Bool := true
  notices : List Notice := []
deriving Repr

/-- Replays facts of a template one after the other, leaving out those dealt with before. -/
def replayFacts [JoinNetwork N] (t : TemplateId) :
    List Handle → Store N → Except Breach (ReplayOutcome × Store N)
  | [], s => .ok ({}, s)
  | h :: rest, s =>
    if (s.patterns.tree? t).any (·.isReplayed h) then replayFacts t rest s
    else do
      let (o, s) ← s.matchFact h .replay
      if o.halted then do
        let (notices, s) ← s.withdraw h o.ids
        .ok (⟨0, false, o.notices ++ notices ++ [.replayHalted t]⟩, s)
      else do
        let s := { s with patterns := s.patterns.updateTree t (·.recordReplayed h) }
        let (r, s) ← replayFacts t rest s
        .ok ({ r with produced := o.ids.length + r.produced, notices := o.notices ++ r.notices }, s)

/-- Replays a template's facts into the entries added since its last complete replay. -/
def replay [JoinNetwork N] (s : Store N) (t : TemplateId) :
    Except Breach (ReplayOutcome × Store N) := do
  let guarded := s.guarded
  let (o, s) ← replayFacts t (s.templateFacts t) { s with guarded := true }
  let s := { s with guarded }
  .ok (o, if o.complete then { s with patterns := s.patterns.updateTree t (·.markInitialized) }
    else s)

/-- Compiles a pattern into its template's tree; with incremental reset the facts asserted before
it are replayed at once. -/
def addPattern [JoinNetwork N] (s : Store N) (p : Pattern) (label : String) :
    Except Breach (Except PatternError EntryId × List Notice × Store N) :=
  match s.templates.get? p.template with
  | none => .ok (.error (.unknownTemplate p.template), [], s)
  | some template =>
    match s.patterns.add template p label with
    | .error e => .ok (.error e, [], s)
    | .ok (id, patterns) =>
      let s := { s with patterns }
      if s.config.incrementalReset then do
        let (o, s) ← s.replay p.template
        .ok (.ok id, o.notices, s)
      else .ok (.ok id, [], s)

def removePattern (s : Store N) (id : EntryId) : Except PatternError (Store N) :=
  match s.patterns.remove id with
  | .error e => .error e
  | .ok patterns => .ok { s with patterns }

/-- Replays the given templates; returns how many matches were delivered and kept. -/
def replayAll [JoinNetwork N] :
    List TemplateId → Store N → Except Breach (Nat × List Notice × Store N)
  | [], s => .ok (0, [], s)
  | t :: rest, s => do
    let (o, s) ← s.replay t
    let (n, notices, s) ← replayAll rest s
    .ok (o.produced + n, o.notices ++ notices, s)

/-- Replays every template with patterns that have not seen all facts. -/
def replayNewPatterns [JoinNetwork N] (s : Store N) :
    Except Breach (Nat × List Notice × Store N) :=
  replayAll s.patterns.needingReplay s

end FactBase.Store
