import FactBase.Handle
import FactBase.Text.Quoted
/-! Broken internal invariants. A breach says that the fact base itself, or a caller that released
what it never held, has gone wrong; the operation is given up for good and there is nothing to
return to. -/
namespace FactBase

/-- What was being done to a fact that turned out to be missing. -/
inductive Activity where
  | freeing | hashing | attaching | matching | detaching | modifying | duplicating
deriving DecidableEq, Repr

def Activity.text : Activity → String
  | .freeing => "freeing"
  | .hashing => "hashing"
  | .attaching => "attaching"
  | .matching => "matching"
  | .detaching => "detaching"
  | .modifying => "modifying"
  | .duplicating => "duplicating"

inductive Breach where
  | templateMissing (template : TemplateId)
  | templateUnderflow (template : TemplateId)
  | impliedVanished (relation : String)
  | arityMismatch (values : Nat) (template : String) (arity : Nat)
  | factMissing (activity : Activity) (fact : Handle)
  | renumbered (index already : Nat)
  | notIndexed (fact : Handle)
  | busyUnderflow (index : Nat)
  | releaseWithoutRetain (fact : Handle)
  | deinstallWithoutInstall (fact : Handle)
  | garbageFreed (fact : Handle)
  | listMissing (template : TemplateId)
  | linkBroken (fact : Handle)
  | listEmpty
  | atomNeverInstalled (text : String)
  | matchUnknown (id : MatchId) (fact : Handle)
  | matchForeign (id : MatchId) (fact : Handle)
  | vanishedWhilePinning (fact : Handle)
  | freedWhilePinned (fact : Handle)
deriving DecidableEq, Repr

namespace Breach

/-- The part of the fact base that noticed. -/
def component : Breach → String
  | .templateMissing _ | .templateUnderflow _ => "template_registry"
  | .impliedVanished _ | .arityMismatch _ _ _ | .factMissing _ _ | .renumbered _ _ | .notIndexed _
  | .busyUnderflow _ | .releaseWithoutRetain _ | .deinstallWithoutInstall _
  | .garbageFreed _ | .listMissing _ => "fact_store"
  | .linkBroken _ | .listEmpty => "fact_list"
  | .atomNeverInstalled _ => "atom_table"
  | .matchUnknown _ _ | .matchForeign _ _ => "alpha_memory"
  | .vanishedWhilePinning _ | .freedWhilePinned _ => "query"

def message : Breach → String
  | .templateMissing t => s!"busy count on missing {t.text}"
  | .templateUnderflow t => s!"busy count underflow on {t.text}"
  | .impliedVanished relation => s!"implied template {relation} vanished"
  | .arityMismatch values template arity =>
    s!"{values} values for template {template} of arity {arity}"
  | .factMissing activity fact => s!"{activity.text} missing fact {fact.text}"
  | .renumbered index already =>
    s!"reusing index f-{index} on fact already numbered f-{already}"
  | .notIndexed fact => s!"asserted fact {fact.text} missing from hash index"
  | .busyUnderflow index => s!"busy count underflow on f-{index}"
  | .releaseWithoutRetain fact => s!"release without retain on {fact.text}"
  | .deinstallWithoutInstall fact => s!"deinstall without install on {fact.text}"
  | .garbageFreed fact => s!"garbage list holds freed fact {fact.text}"
  | .listMissing t => s!"no fact list for {t.text}"
  | .linkBroken fact => s!"list link points at missing fact {fact.text}"
  | .listEmpty => "unlinking from an empty list"
  | .atomNeverInstalled text => s!"deinstalling atom {Text.quoted text} that was never installed"
  | .matchUnknown id fact => s!"retracting unknown match MatchHandle({id.number}) of {fact.text}"
  | .matchForeign id fact => s!"match MatchHandle({id.number}) is not owned by {fact.text}"
  | .vanishedWhilePinning fact => s!"asserted fact {fact.text} vanished while pinning"
  | .freedWhilePinned fact => s!"pinned fact {fact.text} was freed during a query action"

/-- The last words of an operation that is given up. -/
def report (b : Breach) : String := s!"{b.component}: internal consistency error: {b.message}"

end Breach
end FactBase
