import FactBase.Session.Host
import FactBase.Text.Quoted
/-! Commands about listeners' registrations, flags, statistics and atoms. -/
namespace FactBase.Session

/-- A fact base in one line. -/
def summary (s : Store Network) : String :=
  let counts := [("facts", s.factCount), ("garbage", s.garbage.length),
    ("allocated", s.facts.size), ("templates", s.templates.size),
    ("patterns", s.patterns.patternCount), ("next_index", s.nextIndex)]
  let fields := counts.map fun (name, n) => s!"{name}: {n}, "
  s!"FactStore \x7b {String.join fields}listeners: {Text.quotedList s.listeners.names}, .. \x7d"

def flags (s : Store Network) : FlagsView :=
  { isHalted := s.isHalted
    evaluationError := s.evaluationError
    isGuarded := s.guarded
    factCount := s.factCount }

def update (f : Store Network → Store Network) : Session Unit := Process.updateStore f

/-- Sets or withdraws the halt request and answers with it. -/
def setHalted (halted : Bool) : Turn Answer := do
  update fun s => { s with probe := { s.probe with halted } }
  return .truth halted

def performControl : ControlCommand → Turn Answer
  | .unlisten name => do
    let (found, listeners) := (← store).listeners.remove name
    update fun s => { s with listeners }
    return .truth found
  | .allowDuplicates allowed => do
    let previous := (← store).config.allowDuplicates
    update fun s => { s with config := { s.config with allowDuplicates := allowed } }
    return .switched previous allowed
  | .halt => setHalted true
  | .unhalt => setHalted false
  | .flags => do return .flags (flags (← store))
  | .clearEvaluationError => do
    update fun s => { s with evaluationError := false }
    return .truth false
  | .stats => do return .stats (← store).stats
  | .statsText => do return .statsText (← store).stats
  | .summary => do return .text (summary (← store))
  | .hashIndex => do
    let index := (← store).index
    return .hashIndex index.size index.capacity index.resizes

/-! ### Atoms -/

/-- Lets go of what a name holds. -/
def letGo (name : String) : Session Bool := do
  match (← getHost).held.lookup name with
  | none => return false
  | some v =>
    updateHost fun host => { host with held := host.held.unset name }
    update fun s => { s with atoms := s.atoms.letGo v }
    return true

def performAtom : AtomCommand → Turn Answer
  | .count v => do
    let atoms := (← store).atoms
    return .atomCount (atoms.installCount v) atoms.size
  | .hold v name => do
    update fun s => { s with atoms := (v.atoms.foldl (·.intern ·) s.atoms).hold v }
    let _ ← (letGo name : Session Bool)
    updateHost fun host => { host with held := host.held.set name v }
    return .held v
  | .letGo name => do return .truth (← (letGo name : Session Bool))
  | .sweep => do
    let s ← store
    let atoms := s.atoms.sweep s.holdsAtom
    update fun s => { s with atoms }
    return .number (s.atoms.size - atoms.size)

end FactBase.Session
