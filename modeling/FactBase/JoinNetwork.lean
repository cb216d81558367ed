import FactBase.Pattern.Predicate
import FactBase.Breach
/-! The consumer of matches. A fact keeps what the network returns for each of its matches and
hands it back when the matches are withdrawn. -/
namespace FactBase

/-- A fact that reached a pattern entry. -/
structure AlphaMatch where
  fact : Handle
  index : Nat
  entry : EntryId
  values : List Value
  /-- Where the multifield elements landed, in the order of slots. -/
  markers : List Marker
deriving DecidableEq, Repr

class JoinNetwork (N : Type) where
  push : AlphaMatch → N → MatchId × N
  /-- Drops matches of a fact. The network may refuse, and then says why. -/
  retract : Handle → List MatchId → N → Except Breach (Option EvalError × N)

/-- A network that only numbers matches. -/
structure MatchCounter where
  issued : Nat := 0
deriving DecidableEq, Inhabited, Repr

instance : JoinNetwork MatchCounter where
  push _ n := (⟨n.issued + 1⟩, ⟨n.issued + 1⟩)
  retract _ _ n := .ok (none, n)

/-- A network that numbers matches and refuses to give them up again, either always or for facts
in odd storage slots. -/
structure LockedNetwork where
  oddOnly : Bool
  pushed : Nat := 0
  refused : Nat := 0
deriving DecidableEq, Repr

namespace LockedNetwork

def refuses (n : LockedNetwork) (fact : Handle) : Bool := !n.oddOnly || fact.slot % 2 == 1

instance : JoinNetwork LockedNetwork where
  push _ n := (⟨n.pushed + 1⟩, { n with pushed := n.pushed + 1 })
  retract fact _ n :=
    if n.refuses fact then .ok (some ⟨"join memory is locked"⟩, { n with refused := n.refused + 1 })
    else .ok (none, n)

end LockedNetwork
end FactBase
