import FactBase.HashIndex
/-! Sessions with a hash index by itself. -/
namespace FactBase

namespace HashIndex

/-- The facts a search under a hash asks about: those up to the first that is accepted. -/
def asked (t : HashIndex) (hash : UInt64) (accept : Handle → Bool) : List Handle :=
  let (declined, rest) := (t.candidates hash).span (!accept ·)
  declined ++ rest.take 1

/-- Inserts the first occupants of so many storage slots, at hashes a step apart. -/
def fill (t : HashIndex) (hash step : UInt64) (count : Nat) : HashIndex :=
  (List.range count).foldl (fun t k => t.insert (hash + step * UInt64.ofNat k) ⟨k, 0⟩) t

end HashIndex

namespace Session

inductive IndexCommand where
  | insert (hash : UInt64) (fact : Handle)
  | remove (hash : UInt64) (fact : Handle)
  /-- Without a list every fact is accepted. -/
  | find (hash : UInt64) (accepted : Option (List Handle))
  | fill (hash step : UInt64) (count : Nat)
deriving DecidableEq, Repr

inductive IndexAnswer where
  | done
  | removed (b : Bool)
  | found (fact : Option Handle) (asked : List Handle)
deriving DecidableEq, Repr

def performIndex (t : HashIndex) : IndexCommand → IndexAnswer × HashIndex
  | .insert hash fact => (.done, t.insert hash fact)
  | .remove hash fact =>
    let (found, t) := t.remove hash fact
    (.removed found, t)
  | .find hash accepted =>
    let accept (h : Handle) : Bool := accepted.all (·.contains h)
    (.found (t.find? hash accept) (t.asked hash accept), t)
  | .fill hash step count => (.done, t.fill hash step count)

/-- Every answer with the index after it. -/
def indexSteps (t : HashIndex) : List IndexCommand → List (IndexAnswer × HashIndex)
  | [] => []
  | c :: rest =>
    let (a, t) := performIndex t c
    (a, t) :: indexSteps t rest

end Session
end FactBase
