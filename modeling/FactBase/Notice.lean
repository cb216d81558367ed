import FactBase.JoinNetwork
import FactBase.Pattern.Match
/-! What operations let the outside know while they run: diagnostics, and the calls made to the
join network. -/
namespace FactBase

/-- The operations that the guard refuses. -/
inductive GuardedOperation where
  | assert | retract | modify | duplicate
deriving DecidableEq, Repr

def GuardedOperation.text : GuardedOperation → String
  | .assert => "assert"
  | .retract => "retract"
  | .modify => "modify"
  | .duplicate => "duplicate"

inductive Notice where
  | refused (operation : GuardedOperation)
  | testFailed (index : Nat) (test : FailedTest)
  | retractionFailed (index : Nat) (error : EvalError)
  | withdrawalFailed (fact : Handle) (error : EvalError)
  | replayHalted (template : TemplateId)
  | broken (breach : Breach)
  /-- The network was given a match. -/
  | pushed (given : AlphaMatch)
  /-- The network was told to drop matches of a fact. -/
  | dropped (fact : Handle) (ids : List MatchId)
deriving DecidableEq, Repr

inductive Level where
  | warn | error
deriving DecidableEq, Repr

def Level.text : Level → String
  | .warn => "WARN"
  | .error => "ERROR"

/-- A diagnostic: its level, its message and its named details in order. -/
structure Diagnostic where
  level : Level
  message : String
  details : List (String × String)
deriving DecidableEq, Repr

/-- The diagnostic of a notice; calls to the network have none. -/
def Notice.diagnostic? : Notice → Option Diagnostic
  | .refused operation => some
    { level := .warn
      message := "Refused reentrant change while a match or retraction is in progress"
      details := [("operation", operation.text)] }
  | .testFailed index test => some
    { level := .error
      message := "Pattern test failed while matching fact"
      details := [("fact", toString index), ("slot", test.slot), ("field", toString test.field),
        ("patterns", Text.quotedList test.labels), ("error", test.error.message)] }
  | .retractionFailed index e => some
    { level := .error
      message := "Join network failed while retracting matches"
      details := [("fact", toString index), ("error", e.message)] }
  | .withdrawalFailed fact e => some
    { level := .error
      message := "Join network failed while withdrawing replayed matches"
      details := [("handle", fact.text), ("error", e.message)] }
  | .replayHalted template => some
    { level := .warn
      message := "Incremental reset halted; the remaining facts wait for the next replay"
      details := [("template", template.text)] }
  | .broken breach => some
    { level := .error
      message := "fatal internal consistency error"
      details := [("component", breach.component), ("message", breach.message)] }
  | .pushed _ | .dropped _ _ => none

end FactBase
