import FactBase.Handle
import FactBase.Value.Text
import FactBase.Text.Quoted
/-! The failures that operations report to their callers. Each operation has a closed type of
causes with a `message`; `Failure` joins them and says how grave a failure is. A broken internal
invariant is no failure in this sense, see `Breach`. -/
namespace FactBase

/-- What a slot would have accepted. -/
inductive Expectation where
  | singleField
  | multifield
  | fields (min : Nat) (max : Option Nat)
deriving DecidableEq, Repr

def Expectation.text : Expectation → String
  | .singleField => "a single field value"
  | .multifield => "a multifield value"
  | .fields min (some max) => s!"between {min} and {max} fields"
  | .fields min none => s!"between {min} and any number of fields"

/-- Why a value may not be written into a slot. -/
inductive PutSlotError where
  | slotNotFound (template slot : String)
  | cardinality (slot : String) (expected : Expectation)
  | type (slot : String) (found : ValueType)
  | allowedValues (slot : String) (value : Value)
  | range (slot : String) (value : Value)
deriving DecidableEq, Repr

namespace PutSlotError

def message : PutSlotError → String
  | .slotNotFound template slot => s!"Template {template} has no slot named {slot}"
  | .cardinality slot expected => s!"Slot {slot} expects {expected.text}"
  | .type slot found => s!"Slot {slot} does not allow values of type {found.label}"
  | .allowedValues slot value =>
    s!"Value {value.text} is not among the allowed values of slot {slot}"
  | .range slot value => s!"Value {value.text} is outside the range of slot {slot}"

def kind : PutSlotError → String
  | .slotNotFound _ _ => "SlotNotFound"
  | .cardinality _ _ => "CardinalityViolation"
  | .type _ _ => "TypeViolation"
  | .allowedValues _ _ => "AllowedValuesViolation"
  | .range _ _ => "RangeViolation"

end PutSlotError

inductive AssertError where
  | unknownFact (fact : Handle)
  | factRetracted (fact : Handle)
  | couldNotAssert
  | ruleNetwork (fact : Handle) (index : Nat)
deriving DecidableEq, Repr

namespace AssertError

def message : AssertError → String
  | .unknownFact fact => s!"Unknown or stale fact handle {fact.text}"
  | .factRetracted fact => s!"Fact {fact.text} has already been retracted"
  | .couldNotAssert =>
    "Could not assert fact: a pattern match or retraction is already in progress"
  | .ruleNetwork _ index => s!"Rule network error while matching fact f-{index}"

def kind : AssertError → String
  | .unknownFact _ => "UnknownFact"
  | .factRetracted _ => "FactRetracted"
  | .couldNotAssert => "CouldNotAssert"
  | .ruleNetwork _ _ => "RuleNetwork"

end AssertError

inductive RetractError where
  | unknownFact (fact : Handle)
  | notAsserted (fact : Handle)
  | couldNotRetract
  | ruleNetwork (fact : Handle) (index : Nat)
deriving DecidableEq, Repr

namespace RetractError

def message : RetractError → String
  | .unknownFact fact => s!"Unknown or stale fact handle {fact.text}"
  | .notAsserted fact => s!"Fact {fact.text} was never asserted"
  | .couldNotRetract =>
    "Could not retract fact: a pattern match or retraction is already in progress"
  | .ruleNetwork _ index => s!"Rule network error while retracting fact f-{index}"

def kind : RetractError → String
  | .unknownFact _ => "UnknownFact"
  | .notAsserted _ => "NotAsserted"
  | .couldNotRetract => "CouldNotRetract"
  | .ruleNetwork _ _ => "RuleNetwork"

end RetractError

inductive ModifyError where
  | unknownFact (fact : Handle)
  | factRetracted (fact : Handle)
  | notAsserted (fact : Handle)
  | impliedTemplate (template : String)
  | slotOutOfRange (position arity : Nat)
  | putSlot (cause : PutSlotError)
  | couldNotModify
  | ruleNetwork (fact : Handle) (index : Nat)
deriving DecidableEq, Repr

namespace ModifyError

def message : ModifyError → String
  | .unknownFact fact => s!"Unknown or stale fact handle {fact.text}"
  | .factRetracted fact => s!"Fact {fact.text} has already been retracted"
  | .notAsserted fact => s!"Fact {fact.text} was never asserted"
  | .impliedTemplate template =>
    s!"Facts of implied template {template} cannot be modified slot by slot"
  | .slotOutOfRange position arity =>
    s!"Slot position {position} is out of range for a template with {arity} slots"
  | .putSlot cause => cause.message
  | .couldNotModify =>
    "Could not modify fact: a pattern match or retraction is already in progress"
  | .ruleNetwork _ index => s!"Rule network error while modifying fact f-{index}"

def path : ModifyError → List String
  | .unknownFact _ => ["UnknownFact"]
  | .factRetracted _ => ["FactRetracted"]
  | .notAsserted _ => ["NotAsserted"]
  | .impliedTemplate _ => ["ImpliedTemplate"]
  | .slotOutOfRange _ _ => ["SlotOutOfRange"]
  | .putSlot cause => ["PutSlot", cause.kind]
  | .couldNotModify => ["CouldNotModify"]
  | .ruleNetwork _ _ => ["RuleNetwork"]

end ModifyError

inductive BuilderError where
  | unknownTemplate (template : String)
  | impliedTemplate (template : String)
  | slotRequired (template slot : String)
  | putSlot (cause : PutSlotError)
  | couldNotAssert
  | ruleNetwork (fact : Handle) (index : Nat)
deriving DecidableEq, Repr

namespace BuilderError

def message : BuilderError → String
  | .unknownTemplate template => s!"Template {template} not found"
  | .impliedTemplate template =>
    s!"Implied template {template} cannot be used with a fact builder"
  | .slotRequired template slot =>
    s!"Slot {slot} of template {template} has no default and must be set"
  | .putSlot cause => cause.message
  | .couldNotAssert =>
    "Could not assert fact: a pattern match or retraction is already in progress"
  | .ruleNetwork _ index => s!"Rule network error while matching fact f-{index}"

def path : BuilderError → List String
  | .unknownTemplate _ => ["UnknownTemplate"]
  | .impliedTemplate _ => ["ImpliedTemplate"]
  | .slotRequired _ _ => ["SlotRequired"]
  | .putSlot cause => ["PutSlot", cause.kind]
  | .couldNotAssert => ["CouldNotAssert"]
  | .ruleNetwork _ _ => ["RuleNetwork"]

/-- A fact made for the occasion is neither stale nor retracted, so only the guard can refuse it. -/
def ofAssertError : AssertError → BuilderError
  | .ruleNetwork fact index => .ruleNetwork fact index
  | .couldNotAssert | .unknownFact _ | .factRetracted _ => .couldNotAssert

end BuilderError

/-- The message of a pattern test or query test that failed. -/
structure EvalError where
  message : String
deriving DecidableEq, Inhabited, Repr

/-- What is wrong with a query's restrictions. -/
inductive QueryFault where
  | noRestrictions
  | noTemplates (var : String)
  | repeatedVariable (var : String)
deriving DecidableEq, Repr

inductive QueryError where
  | malformed (fault : QueryFault)
  | unknownTemplate (template : String)
  | evaluation (cause : EvalError)
deriving DecidableEq, Repr

inductive TemplateError where
  | duplicateTemplate (template : String)
  | duplicateSlot (template slot : String)
  | unknownTemplate (template : String)
  | templateInUse (template : String) (references : Nat)
  | invalidDefault (template slot : String) (cause : PutSlotError)
  | unknownModule (name : String)
deriving DecidableEq, Repr

namespace TemplateError

def message : TemplateError → String
  | .duplicateTemplate template => s!"Template {template} is already defined"
  | .duplicateSlot template slot => s!"Template {template} declares slot {slot} more than once"
  | .unknownTemplate template => s!"Template {template} not found"
  | .templateInUse template references => s!"Template {template} is in use ({references} references)"
  | .invalidDefault template slot cause =>
    s!"Default value of slot {slot} in template {template} is invalid: {cause.message}"
  | .unknownModule name => s!"Module {name} not found"

def kind : TemplateError → String
  | .duplicateTemplate _ => "DuplicateTemplate"
  | .duplicateSlot _ _ => "DuplicateSlot"
  | .unknownTemplate _ => "UnknownTemplate"
  | .templateInUse _ _ => "TemplateInUse"
  | .invalidDefault _ _ _ => "InvalidDefault"
  | .unknownModule _ => "UnknownModule"

end TemplateError

inductive PatternError where
  | unknownTemplate (template : TemplateId)
  | slotOutOfRange (position arity : Nat)
  | singleSlotShape (slot : String) (elements : Nat)
  | duplicateSlot (slot : String)
  | emptySlotPattern (slot : String)
  | unknownEntry (entry : EntryId)
deriving DecidableEq, Repr

namespace PatternError

def message : PatternError → String
  | .unknownTemplate template => s!"Template {template.text} not found"
  | .slotOutOfRange position arity =>
    s!"Slot position {position} is out of range for a template with {arity} slots"
  | .singleSlotShape slot elements =>
    s!"Slot {slot} takes a single field test, got {elements} elements"
  | .duplicateSlot slot => s!"Slot {slot} is constrained twice in the same pattern"
  | .emptySlotPattern slot =>
    s!"Multifield slot {slot} has no pattern elements; " ++
      "match an empty value with a multifield constant"
  | .unknownEntry entry => s!"Pattern entry {entry.text} not found"

def kind : PatternError → String
  | .unknownTemplate _ => "UnknownTemplate"
  | .slotOutOfRange _ _ => "SlotOutOfRange"
  | .singleSlotShape _ _ => "SingleSlotShape"
  | .duplicateSlot _ => "DuplicateSlot"
  | .emptySlotPattern _ => "EmptySlotPattern"
  | .unknownEntry _ => "UnknownEntry"

end PatternError

/-- Failures of operations on unattached facts, pins, templates and listeners. -/
inductive StoreError where
  | unknownTemplate (template : String)
  | unknownFact (fact : Handle)
  | factAttached (fact : Handle)
  | slotOutOfRange (position arity : Nat)
  | putSlot (cause : PutSlotError)
  | template (cause : TemplateError)
  | pattern (cause : PatternError)
  | duplicateListener (name : String)
deriving DecidableEq, Repr

namespace StoreError

def message : StoreError → String
  | .unknownTemplate name => s!"Template {name} not found"
  | .unknownFact fact => s!"Unknown or stale fact handle {fact.text}"
  | .factAttached fact => s!"Fact {fact.text} is already asserted; use modify to change it"
  | .slotOutOfRange position arity =>
    s!"Slot position {position} is out of range for a template with {arity} slots"
  | .putSlot cause => cause.message
  | .template cause => cause.message
  | .pattern cause => cause.message
  | .duplicateListener name => s!"Listener {name} is already registered"

def path : StoreError → List String
  | .unknownTemplate _ => ["UnknownTemplate"]
  | .unknownFact _ => ["UnknownFact"]
  | .factAttached _ => ["FactAttached"]
  | .slotOutOfRange _ _ => ["SlotOutOfRange"]
  | .putSlot cause => ["PutSlot", cause.kind]
  | .template cause => ["Template", cause.kind]
  | .pattern cause => ["Pattern", cause.kind]
  | .duplicateListener _ => ["DuplicateListener"]

end StoreError

def QueryFault.message : QueryFault → String
  | .noRestrictions => "a query needs at least one restriction"
  | .noTemplates var => s!"variable ?{var} has no templates"
  | .repeatedVariable var => s!"variable ?{var} is bound twice"

namespace QueryError

def message : QueryError → String
  | .malformed fault => s!"Malformed query restriction: {fault.message}"
  | .unknownTemplate template => s!"Template {template} not found"
  | .evaluation cause => s!"Query evaluation failed: {cause.message}"

def kind : QueryError → String
  | .malformed _ => "MalformedRestriction"
  | .unknownTemplate _ => "UnknownTemplate"
  | .evaluation _ => "Evaluation"

end QueryError

/-- Why a text is no number of a setting. -/
inductive NumberFault where
  | empty
  | invalidDigit
  | tooLarge
deriving DecidableEq, Repr

def NumberFault.message : NumberFault → String
  | .empty => "cannot parse integer from empty string"
  | .invalidDigit => "invalid digit found in string"
  | .tooLarge => "number too large to fit in target type"

/-- What is wrong with the value of a setting. -/
inductive SettingFault where
  | notBool (given : String)
  | notNumber (given : String) (fault : NumberFault)
  | zeroFloor
  | lowThreshold
deriving DecidableEq, Repr

def SettingFault.message : SettingFault → String
  | .notBool given => s!"{Text.quoted given}: provided string was not `true` or `false`"
  | .notNumber given fault => s!"{Text.quoted given}: {fault.message}"
  | .zeroFloor => "must be at least 1"
  | .lowThreshold => "grouping needs at least 2 constant tests"

/-- The wording of unreadable and unparsable files is left to whoever reports them. -/
inductive ConfigError where
  | io (path : String)
  | parse
  | invalid (setting : String) (fault : SettingFault)
deriving DecidableEq, Repr

namespace ConfigError

def message? : ConfigError → Option String
  | .io _ | .parse => none
  | .invalid setting fault => some s!"Invalid value for {setting}: {fault.message}"

def kind : ConfigError → String
  | .io _ => "Io"
  | .parse => "Parse"
  | .invalid _ _ => "Invalid"

end ConfigError

/-- Any failure a caller can meet. -/
inductive Failure where
  | assert (cause : AssertError)
  | retract (cause : RetractError)
  | modify (cause : ModifyError)
  | builder (cause : BuilderError)
  | query (cause : QueryError)
  | template (cause : TemplateError)
  | pattern (cause : PatternError)
  | store (cause : StoreError)
  | config (cause : ConfigError)
deriving DecidableEq, Repr

inductive Severity where
  | low | medium | high | critical
deriving DecidableEq, Repr

def Severity.text : Severity → String
  | .low => "LOW"
  | .medium => "MEDIUM"
  | .high => "HIGH"
  | .critical => "CRITICAL"

namespace Failure

def message? : Failure → Option String
  | .assert e => some e.message
  | .retract e => some e.message
  | .modify e => some e.message
  | .builder e => some e.message
  | .query e => some e.message
  | .template e => some e.message
  | .pattern e => some e.message
  | .store e => some e.message
  | .config e => e.message?

def category : Failure → String
  | .assert _ => "assert"
  | .retract _ => "retract"
  | .modify _ => "modify"
  | .builder _ => "builder"
  | .query _ => "query"
  | .template _ => "template"
  | .pattern _ => "pattern"
  | .store _ => "fact_store"
  | .config _ => "configuration"

/-- The kinds of a failure from the outside in. -/
def path : Failure → List String
  | .assert e => ["Assert", e.kind]
  | .retract e => ["Retract", e.kind]
  | .modify e => "Modify" :: e.path
  | .builder e => "Builder" :: e.path
  | .query e => ["Query", e.kind]
  | .template e => ["Template", e.kind]
  | .pattern e => ["Pattern", e.kind]
  | .store e => "FactStore" :: e.path
  | .config e => ["Config", e.kind]

/-- Whether a failure came out of tests or the join network rather than the caller's input. -/
def isRuleNetwork : Failure → Bool
  | .assert (.ruleNetwork _ _) | .retract (.ruleNetwork _ _) | .modify (.ruleNetwork _ _)
  | .builder (.ruleNetwork _ _) | .query (.evaluation _) => true
  | _ => false

/-- Whether a failure is the reentrancy guard's refusal. -/
def isRefusal : Failure → Bool
  | .assert .couldNotAssert | .retract .couldNotRetract | .modify .couldNotModify
  | .builder .couldNotAssert => true
  | _ => false

def severity (f : Failure) : Severity :=
  if f.isRuleNetwork then .high
  else match f with
    | .config _ => .critical
    | _ => if f.isRefusal then .medium else .low

/-- Validation failures leave the fact base untouched; failures of the rule network leave the
fact asserted but partially matched. -/
def isRecoverable : Failure → Bool
  | .config _ => false
  | f => !f.isRuleNetwork

end Failure

end FactBase
