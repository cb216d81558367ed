import FactBase.Process
/-! Queries: every way to bind variables to asserted facts of given templates, in the order of the
restrictions and of the fact lists. The facts of a template are listed anew each time a level of
the search comes to it; what an action has retracted meanwhile is passed over. A request to halt
ends the search between two candidates. -/
namespace FactBase

/-- Binds a variable to facts of any of some templates, in the order of the templates. -/
structure Restriction where
  name : String
  templates : List String
deriving DecidableEq, Inhabited, Repr

/-- The facts bound to variables, in the order of the restrictions. -/
abbrev Binding := List (String × Handle)

namespace Query
variable {N ρ ν β : Type}

/-- A variable with the templates its facts come from. -/
abbrev Level := String × List TemplateId

def findTemplates (r : TemplateRegistry) : List String → Except QueryError (List TemplateId)
  | [] => .ok []
  | name :: names =>
    match r.find? name with
    | none => .error (.unknownTemplate name)
    | some t => (findTemplates r names).map (t :: ·)

def compileLevels (r : TemplateRegistry) (seen : List String) :
    List Restriction → Except QueryError (List Level)
  | [] => .ok []
  | x :: xs =>
    if seen.contains x.name then .error (.malformed (.repeatedVariable x.name))
    else if x.templates.isEmpty then .error (.malformed (.noTemplates x.name))
    else do
      let templates ← findTemplates r x.templates
      let levels ← compileLevels r (x.name :: seen) xs
      .ok ((x.name, templates) :: levels)

/-- The levels of a search; there has to be at least one, each variable bound once. -/
def compile (r : TemplateRegistry) (restrictions : List Restriction) :
    Except QueryError (List Level) :=
  if restrictions.isEmpty then .error (.malformed .noRestrictions)
  else compileLevels r [] restrictions

/-- How a search goes on. -/
inductive Flow where
  | onward
  /-- Leaves the current level. -/
  | leave
  /-- Ends the search. -/
  | stop
deriving DecidableEq, Repr

/-- Says whether a binding is wanted. -/
abbrev Test (N ρ ν : Type) := Binding → Process N ρ ν (Except EvalError Bool)

/-- Deals with a wanted binding, given and returning what was gathered so far. -/
abbrev Visit (N ρ ν β : Type) := Binding → β → Process N ρ ν (Except QueryError (β × Flow))

/-- Whether all facts of a binding are asserted. -/
def allAsserted (s : Store N) (b : Binding) : Bool := b.all fun p => s.isAsserted p.2

/-- Tries candidates for one variable in order. A level is left once a fact bound further out is
no longer asserted. -/
def tryFacts (bound : Binding) (descend : Handle → β → Process N ρ ν (Except QueryError (β × Flow))) :
    List Handle → β → Process N ρ ν (Except QueryError (β × Flow))
  | [], b => return .ok (b, .onward)
  | h :: rest, b => do
    if ← Process.pollHalt then return .ok (b, .stop)
    let s ← Process.getStore
    if !allAsserted s bound then return .ok (b, .leave)
    if !s.isAsserted h then tryFacts bound descend rest b
    else match ← descend h b with
      | .ok (b, .onward) => tryFacts bound descend rest b
      | result => return result

/-- Tries the facts of one template after the other. -/
def tryTemplates (bound : Binding)
    (descend : Handle → β → Process N ρ ν (Except QueryError (β × Flow))) :
    List TemplateId → β → Process N ρ ν (Except QueryError (β × Flow))
  | [], b => return .ok (b, .onward)
  | t :: rest, b => do
    let facts := (← Process.getStore).templateFacts t
    match ← tryFacts bound descend facts b with
    | .ok (b, .onward) => tryTemplates bound descend rest b
    | .ok (b, .leave) => return .ok (b, .onward)
    | result => return result

/-- Searches the levels that are left; complete bindings are tested, and visited if wanted. -/
def descend (test : Test N ρ ν) (visit : Visit N ρ ν β) :
    List Level → Binding → β → Process N ρ ν (Except QueryError (β × Flow))
  | [], bound, b => do
    match ← test bound with
    | .error e => return .error (.evaluation e)
    | .ok false => return .ok (b, .onward)
    | .ok true => visit bound b
  | (x, templates) :: deeper, bound, b =>
    tryTemplates bound (fun h => descend test visit deeper (bound ++ [(x, h)])) templates b

/-- Runs a search from what is gathered at the start. -/
def search (test : Test N ρ ν) (visit : Visit N ρ ν β) (restrictions : List Restriction)
    (start : β) : Process N ρ ν (Except QueryError β) := do
  match compile (← Process.getStore).templates restrictions with
  | .error e => return .error e
  | .ok levels =>
    match ← descend test visit levels [] start with
    | .error e => return .error e
    | .ok (b, _) => return .ok b

/-- The first binding that passes the test. -/
def findFirst (test : Test N ρ ν) (restrictions : List Restriction) :
    Process N ρ ν (Except QueryError (Option Binding)) :=
  search test (fun binding _ => return .ok (some binding, .stop)) restrictions none

/-- Whether any binding passes the test. -/
def any (test : Test N ρ ν) (restrictions : List Restriction) :
    Process N ρ ν (Except QueryError Bool) := do
  return (← findFirst test restrictions).map (·.isSome)

/-- Every binding that passes the test. -/
def findAll (test : Test N ρ ν) (restrictions : List Restriction) :
    Process N ρ ν (Except QueryError (List Binding)) :=
  search test (fun binding found => return .ok (found ++ [binding], .onward)) restrictions []

/-! ### Actions -/

/-- Acts on a binding whose facts are pinned meanwhile. -/
abbrev Act (N ρ ν : Type) := Binding → Process N ρ ν (Except EvalError Unit)

def pinAll : Binding → Process N ρ ν Unit
  | [] => return ()
  | (_, h) :: rest => do
    match ← Process.attemptChange (·.retain h) with
    | .error _ => Process.breach (.vanishedWhilePinning h)
    | .ok () => pinAll rest

def unpinAll : Binding → Process N ρ ν Unit
  | [] => return ()
  | (_, h) :: rest => do
    match ← Process.step (·.release h) with
    | .error _ => Process.breach (.freedWhilePinned h)
    | .ok () => unpinAll rest

/-- Runs an action on a binding with every fact pinned, and tells whether it ran: a binding with a
retracted member is skipped. -/
def runAction (act : Act N ρ ν) (binding : Binding) :
    Process N ρ ν (Except QueryError Bool) := do
  if !allAsserted (← Process.getStore) binding then return .ok false
  pinAll binding
  let result ← act binding
  unpinAll binding
  match result with
  | .error e => return .error (.evaluation e)
  | .ok () => return .ok true

/-- Runs an action on the first binding that passes the test; tells whether it ran. -/
def doForFirst (test : Test N ρ ν) (act : Act N ρ ν) (restrictions : List Restriction) :
    Process N ρ ν (Except QueryError Bool) :=
  search test (fun binding _ => do
    match ← runAction act binding with
    | .error e => return .error e
    | .ok ran => return .ok (ran, if ran then .stop else .onward)) restrictions false

/-- Runs an action on each binding that passes the test as soon as it is found; returns how often
it ran. -/
def doForAll (test : Test N ρ ν) (act : Act N ρ ν) (restrictions : List Restriction) :
    Process N ρ ν (Except QueryError Nat) :=
  search test (fun binding n => do
    match ← runAction act binding with
    | .error e => return .error e
    | .ok ran => return .ok (if ran then n + 1 else n, .onward)) restrictions 0

/-- Runs an action on bindings in order until a halt is requested; returns how often it ran. -/
def runDelayed (act : Act N ρ ν) : List Binding → Process N ρ ν (Except QueryError Nat)
  | [] => return .ok 0
  | binding :: rest => do
    if ← Process.pollHalt then return .ok 0
    match ← runAction act binding with
    | .error e => return .error e
    | .ok ran =>
      return (← runDelayed act rest).map fun n => if ran then n + 1 else n

/-- Finds every binding that passes the test, then runs an action on those whose facts are still
asserted; returns how often it ran. -/
def delayedDoForAll (test : Test N ρ ν) (act : Act N ρ ν) (restrictions : List Restriction) :
    Process N ρ ν (Except QueryError Nat) := do
  match ← findAll test restrictions with
  | .error e => return .error e
  | .ok bindings => runDelayed act bindings

end Query
end FactBase
