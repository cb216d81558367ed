import FactBase.Pattern.Predicate
import FactBase.Query.Test
/-! Commands of a session: each asks a fact base for one thing. Facts, pattern entries,
predicates, builders, modifiers and held atoms go by names that the session keeps; a command says
under which name its result is kept. -/
namespace FactBase.Session

inductive FactRef where
  | named (name : String)
  | handle (fact : Handle)
  | indexed (index : Nat)
deriving DecidableEq, Repr

inductive TemplateRef where
  | named (name : String)
  | numbered (id : TemplateId)
deriving DecidableEq, Repr

inductive EntryRef where
  | named (name : String)
  | numbered (id : EntryId)
deriving DecidableEq, Repr

/-- The place of a fact in the list of all facts. -/
inductive Place where
  | tail
  | head
  | after (fact : FactRef)
deriving DecidableEq, Repr

inductive TemplateCommand where
  | define (template : Template)
  | undefine (name : String)
  /-- The template of a relation's ordered facts. -/
  | implied (relation : String)
  | declareModule (name : String) (imports : List String)
  | useModule (name : String)
  | markBusy (template : TemplateRef)
  | unmarkBusy (template : TemplateRef)
  | describe (template : TemplateRef)
  | describeAll
  | slotPosition (template : TemplateRef) (slot : String)
  | drawDefault (template : TemplateRef) (position : Nat)

inductive FactCommand where
  | create (template : String) (name : Option String)
  | createOrdered (relation : String) (values : List Value) (name : Option String)
  | put (fact : FactRef) (slot : String) (v : Value)
  | putAt (fact : FactRef) (position : Nat) (v : Value)
  | discard (fact : FactRef)
  | assert (fact : FactRef) (place : Place) (name : Option String)
  /-- Creates a fact, sets slots and asserts it, up to the first failure. -/
  | assertNew (template : String) (slots : List (String × Value)) (name : Option String)
  | assertOrdered (relation : String) (values : List Value) (name : Option String)
  /-- Asserts an ordered fact for each integer from `first` up to but not including `limit`. -/
  | assertRange (relation : String) (first limit : Int)
  | retract (fact : FactRef)
  | retractAll
  | clear
  | modify (fact : FactRef) (changes : List (Nat × Value)) (name : Option String)
  | duplicate (fact : FactRef) (changes : List (Nat × Value)) (name : Option String)
  | retain (fact : FactRef)
  | release (fact : FactRef)
  | install (fact : FactRef)
  | deinstall (fact : FactRef)
  | collect
deriving Repr

/-- A test of a pattern as it is written down. -/
inductive TestSource where
  | plain (test : FieldTest)
  | named (predicate : String)
  /-- A predicate of the test's own. -/
  | rule (spec : RuleSpec)
deriving Repr

/-- An element of a slot pattern as it is written down. -/
structure ElementSource where
  isMulti : Bool
  test : TestSource
deriving Repr

inductive PatternCommand where
  | predicate (label : String) (rule : RuleSpec) (name : String)
  | add (template : TemplateRef) (slots : List (Nat × List ElementSource)) (label : String)
    (name : Option String)
  | remove (entry : EntryRef)
  | replay
  | describeTree (template : TemplateRef)
  | describeNetwork
  | describeEntry (entry : EntryRef)
  | memory (entry : EntryRef)
  | readMemory (entry : EntryRef)
  | memoryOfFact (fact : FactRef)
  | memoryStats
deriving Repr

inductive LookupCommand where
  | fact (fact : FactRef)
  | values (fact : FactRef)
  | json (fact : FactRef)
  | slot (fact : FactRef) (slot : String)
  | byIndex (index : Nat)
  | isAsserted (fact : FactRef)
  | next (previous : Option FactRef)
  | nextInScope (previous : Option FactRef)
  | nextInTemplate (template : TemplateRef) (previous : Option FactRef)
  | facts
  | templateFacts (template : TemplateRef)
  | handleText (fact : FactRef)
  | hashFinds (fact : FactRef)
deriving Repr

inductive ControlCommand where
  | unlisten (name : String)
  | allowDuplicates (allowed : Bool)
  | halt
  | unhalt
  | flags
  | clearEvaluationError
  | stats
  | statsText
  | summary
  | hashIndex
deriving Repr

inductive AtomCommand where
  | count (v : Value)
  | hold (v : Value) (name : String)
  | letGo (name : String)
  | sweep
deriving Repr

inductive BuilderCommand where
  | make (template : String) (name : String)
  | put (builder slot : String) (v : Value)
  | isSet (builder slot : String)
  | commit (builder : String) (name : Option String)
  | abort (builder : String)
  | drop (builder : String)
  /-- Commits to another fact base, which has the given templates only. -/
  | commitElsewhere (builder : String) (templates : List Template)

inductive ModifierCommand where
  | make (fact : FactRef) (name : String)
  | put (modifier slot : String) (v : Value)
  | hasChanges (modifier : String)
  | commit (modifier : String) (name : Option String)
  | abort (modifier : String)
deriving Repr

/-- What a query does with the bindings that pass its test. -/
inductive QueryMode where
  | any | findFirst | findAll | doForFirst | doForAll | delayedDoForAll
deriving DecidableEq, Repr

/-- The events a listener has hooks for. -/
inductive HookKind where
  | beforeAssert | afterAssert | beforeRetract | afterRetract | beforeModify | afterModify
deriving DecidableEq, Repr

inductive Command where
  | template (c : TemplateCommand)
  | fact (c : FactCommand)
  | pattern (c : PatternCommand)
  | lookup (c : LookupCommand)
  | control (c : ControlCommand)
  | atom (c : AtomCommand)
  | builder (c : BuilderCommand)
  | modifier (c : ModifierCommand)
  /-- Registers a listener whose hooks carry out commands. -/
  | listen (name : String) (priority : Int) (hooks : List (HookKind × List Command))
  /-- Runs a query whose action carries out commands. With `strict` a command that fails makes the
  action fail. -/
  | query (mode : QueryMode) (restrictions : List Restriction) (test : QueryTest)
    (act : List Command) (strict : Bool)

end FactBase.Session
