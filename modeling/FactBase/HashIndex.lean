import FactBase.Handle
/-! An index of facts by the hash of their content: chained buckets, always an odd number of
them. The table starts with a floor, grows from `n` to `2 n + 1` buckets when it holds more than
`n` facts, and returns to the floor when it becomes empty. -/
namespace FactBase

structure HashEntry where
  hash : UInt64
  fact : Handle
deriving DecidableEq, Inhabited, Repr

structure HashIndex where
  buckets : Array (List HashEntry)
  size : Nat := 0
  floor : Nat
  resizes : Nat := 0

namespace HashIndex

/-- The least odd number that is no smaller. -/
def oddFloor (n : Nat) : Nat := if n % 2 = 0 then n + 1 else n

def empty (floor : Nat) : HashIndex :=
  { buckets := Array.replicate (oddFloor floor) [], floor := oddFloor floor }

instance : Inhabited HashIndex := ⟨empty 1⟩

def capacity (t : HashIndex) : Nat := t.buckets.size

def isEmpty (t : HashIndex) : Bool := t.size = 0

/-- The bucket of a hash in a table of `capacity` buckets. -/
def bucketOf (capacity : Nat) (hash : UInt64) : Nat := hash.toNat % capacity

/-- The chain in which a hash is found. -/
def chain (t : HashIndex) (hash : UInt64) : List HashEntry :=
  (t.buckets[bucketOf t.capacity hash]?).getD []

/-- Facts recorded under exactly this hash, oldest first. -/
def candidates (t : HashIndex) (hash : UInt64) : List Handle :=
  ((t.chain hash).filter (·.hash == hash)).map (·.fact)

/-- The oldest fact under a hash that is accepted. -/
def find? (t : HashIndex) (hash : UInt64) (accept : Handle → Bool) : Option Handle :=
  (t.candidates hash).find? accept

/-- Appends an entry to its chain. -/
def place (buckets : Array (List HashEntry)) (e : HashEntry) : Array (List HashEntry) :=
  buckets.modify (bucketOf buckets.size e.hash) (· ++ [e])

/-- The entries, bucket by bucket. -/
def entries (t : HashIndex) : List HashEntry := t.buckets.toList.flatten

/-- Distributes the entries over a new number of buckets. -/
def rebuild (t : HashIndex) (capacity : Nat) : HashIndex :=
  { t with
    buckets := t.entries.foldl place (Array.replicate capacity [])
    resizes := t.resizes + 1 }

def insert (t : HashIndex) (hash : UInt64) (fact : Handle) : HashIndex :=
  let t := { t with size := t.size + 1 }
  let t := if t.capacity < t.size then t.rebuild (t.capacity * 2 + 1) else t
  { t with buckets := place t.buckets ⟨hash, fact⟩ }

/-- Removes a fact from the chain of a hash; tells whether it was there. -/
def remove (t : HashIndex) (hash : UInt64) (fact : Handle) : Bool × HashIndex :=
  if (t.chain hash).any (·.fact == fact) then
    let buckets := t.buckets.modify (bucketOf t.capacity hash) (·.eraseP (·.fact == fact))
    let shrink := t.size = 1 ∧ t.capacity ≠ t.floor
    (true, { t with
      size := t.size - 1
      buckets := if shrink then Array.replicate t.floor [] else buckets })
  else (false, t)

/-- The length of the longest chain. -/
def longestChain (t : HashIndex) : Nat :=
  t.buckets.foldl (fun n chain => max n chain.length) 0

end HashIndex
end FactBase
