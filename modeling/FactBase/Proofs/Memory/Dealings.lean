import FactBase.Proofs.Memory.Custody

/-!
# Dealings with a join network

A join network names every match that is pushed, and the names are handed back when the matches are
withdrawn. Books say what has passed both ways. A network that keeps books deals like the one it keeps
them for. What an alpha memory has records of is what was given and not handed back.
-/

namespace FactBase

/-! ### Books -/

/-- What has passed between a fact base and its join network. -/
structure Books where
  /-- The names given to matches, each with the fact of the match, in order. -/
  given : List (MatchId × Handle) := []
  /-- The calls that handed names back, in order. -/
  calls : List (Handle × List MatchId) := []
deriving DecidableEq

namespace Books

/-- The names handed back, each with the fact that it was handed back for. -/
def handedBack (b : Books) : List (MatchId × Handle) :=
  b.calls.flatMap fun call => call.2.map (·, call.1)

def give (b : Books) (id : MatchId) (h : Handle) : Books := { b with given := b.given ++ [(id, h)] }

def giveAll (b : Books) (ids : List MatchId) (h : Handle) : Books :=
  { b with given := b.given ++ ids.map (·, h) }

def takeBack (b : Books) (h : Handle) (ids : List MatchId) : Books :=
  { b with calls := b.calls ++ [(h, ids)] }

@[simp] theorem handedBack_give (b : Books) (id : MatchId) (h : Handle) :
    (b.give id h).handedBack = b.handedBack := rfl

@[simp] theorem handedBack_giveAll (b : Books) (ids : List MatchId) (h : Handle) :
    (b.giveAll ids h).handedBack = b.handedBack := rfl

@[simp] theorem given_takeBack (b : Books) (h : Handle) (ids : List MatchId) :
    (b.takeBack h ids).given = b.given := rfl

@[simp] theorem handedBack_takeBack (b : Books) (h : Handle) (ids : List MatchId) :
    (b.takeBack h ids).handedBack = b.handedBack ++ ids.map (·, h) := by
  simp [handedBack, takeBack]

theorem giveAll_nil (b : Books) (h : Handle) : b.giveAll [] h = b := by
  simp [giveAll]

theorem giveAll_cons (b : Books) (id : MatchId) (ids : List MatchId) (h : Handle) :
    b.giveAll (id :: ids) h = (b.give id h).giveAll ids h := by
  simp [giveAll, give]

end Books

/-! ### Networks that keep books -/

/-- A join network together with its books. -/
structure Booked (N : Type) where
  network : N
  books : Books := {}
deriving DecidableEq

variable {N : Type} [JoinNetwork N]

instance : JoinNetwork (Booked N) where
  push a n :=
    let (id, network) := JoinNetwork.push a n.network
    (id, ⟨network, n.books.give id a.fact⟩)
  retract h ids n := (JoinNetwork.retract h ids n.network).map fun (refusal, network) =>
    (refusal, ⟨network, n.books.takeBack h ids⟩)

/-- What a network becomes by what its books say, whether or not it refuses. -/
inductive Deals (start : N) : Books → N → Prop
  | start : Deals start {} start
  | push {b : Books} {n : N} (before : Deals start b n) (a : AlphaMatch) :
      Deals start (b.give (JoinNetwork.push a n).1 a.fact) (JoinNetwork.push a n).2
  | retract {b : Books} {n n' : N} {h : Handle} {ids : List MatchId} {refusal : Option EvalError}
      (before : Deals start b n) (done : JoinNetwork.retract h ids n = .ok (refusal, n')) :
      Deals start (b.takeBack h ids) n'

/-- Whatever is asked of a network, it gives no name a second time. -/
def NeverReuses (start : N) : Prop :=
  ∀ b n, Deals start b n → ∀ a, (JoinNetwork.push a n).1 ∉ b.given.map Prod.fst

variable {start n : N} {b : Books}

/-- The books that a network keeps are what passed. -/
theorem Deals.booked {m : Booked N} (deals : Deals (⟨start, {}⟩ : Booked N) b m) :
    Deals start b m.network ∧ m.books = b := by
  induction deals with
  | start => exact ⟨.start, rfl⟩
  | push _ a ih =>
    obtain ⟨deals, rfl⟩ := ih
    exact ⟨deals.push a, rfl⟩
  | retract _ done ih =>
    obtain ⟨deals, rfl⟩ := ih
    obtain ⟨⟨refusal, n'⟩, taken, same⟩ := map_eq_ok.mp done
    obtain ⟨-, rfl⟩ := Prod.mk.inj same
    exact ⟨deals.retract taken, rfl⟩

/-- Keeping books does not make a network reuse names. -/
theorem NeverReuses.booked (fresh : NeverReuses start) :
    NeverReuses (⟨start, {}⟩ : Booked N) :=
  fun b _ deals a => fresh b _ deals.booked.1 a

theorem Deals.once (deals : Deals start b n) (fresh : NeverReuses start) :
    (b.given.map Prod.fst).Nodup := by
  induction deals with
  | start => exact List.nodup_nil
  | @push b n before a ih =>
    have new := fresh b n before a
    simp only [Books.give, List.map_append, List.map_cons, List.map_nil]
    exact List.nodup_append'.mpr ⟨ih, List.nodup_singleton _, List.disjoint_singleton.mpr new⟩
  | retract _ _ ih => exact ih

/-- Networks that count the names they give never give one again. -/
theorem neverReuses_of_count (issued : N → Nat)
    (pushes : ∀ a n, (JoinNetwork.push a n).1.number = issued n + 1 ∧
      issued (JoinNetwork.push a n).2 = issued n + 1)
    (retracts : ∀ h ids n refusal n', JoinNetwork.retract h ids n = .ok (refusal, n') →
      issued n' = issued n) : NeverReuses start := by
  have counted {b : Books} {n : N} (deals : Deals start b n) :
      ∀ x ∈ b.given, x.1.number ≤ issued n := by
    induction deals with
    | start => simp
    | @push b n _ a ih =>
      obtain ⟨number, next⟩ := pushes a n
      intro x inside
      rw [next]
      rcases List.mem_append.mp inside with before | new
      · exact Nat.le_succ_of_le (ih x before)
      · exact Nat.le_of_eq (List.mem_singleton.mp new ▸ number)
    | retract _ done ih =>
      rw [retracts _ _ _ _ _ done]
      exact ih
  intro b n deals a again
  obtain ⟨x, inside, same⟩ := List.mem_map.mp again
  have before := counted deals x inside
  rw [same, (pushes a n).1] at before
  exact Nat.not_succ_le_self _ before

theorem neverReuses_lockedNetwork (start : LockedNetwork) : NeverReuses start := by
  refine neverReuses_of_count LockedNetwork.pushed (fun _ _ => ⟨rfl, rfl⟩)
    fun h ids n refusal n' done => ?_
  by_cases refuses : n.refuses h = true
  · obtain ⟨-, rfl⟩ := Prod.mk.inj (Except.ok.inj ((if_pos refuses).symm.trans done))
    rfl
  · obtain ⟨-, rfl⟩ := Prod.mk.inj (Except.ok.inj ((if_neg refuses).symm.trans done))
    rfl

/-- Whatever a walk delivers is entered in the books. -/
theorem Deals.deliverAll (deals : Deals start b n) (h : Handle) (f : Fact) (ds : List Delivery) :
    Deals start (b.giveAll (Store.deliverAll h f ds n).1.ids h) (Store.deliverAll h f ds n).2 := by
  induction ds generalizing b n with
  | nil =>
    rw [show (Store.deliverAll h f [] n).1.ids = [] from rfl, Books.giveAll_nil]
    exact deals
  | cons d ds ih =>
    cases d with
    | failed test => exact ih deals
    | matched entry markers =>
      let a : AlphaMatch := ⟨h, f.index, entry, f.values, markers⟩
      rw [show (Store.deliverAll h f (.matched entry markers :: ds) n).1.ids =
        (JoinNetwork.push a n).1 ::
          (Store.deliverAll h f ds (JoinNetwork.push a n).2).1.ids from rfl, Books.giveAll_cons]
      exact ih (deals.push a)

/-! ### Alpha memories -/

namespace AlphaMemory

variable {m m' : AlphaMemory} {h : Handle}

/-- The names that a memory has records of, each with the fact of the match. -/
def names (m : AlphaMemory) : List (MatchId × Handle) := m.records.map fun r => (r.id, r.fact)

theorem names_retractOne {id : MatchId} (done : m.retractOne h id = .ok m') :
    m.names.Perm ((id, h) :: m'.names) ∧ m'.issued = m.issued := by
  unfold retractOne at done
  split at done
  · cases done
  · rename_i r found
    split at done
    · rename_i owned
      obtain rfl := Except.ok.inj done
      obtain ⟨named, front, back, split, others⟩ := List.find?_eq_some_iff_append.mp found
      have erased : m.records.eraseP (·.id == id) = front ++ back := by
        rw [split, List.eraseP_append_right _ fun x hx => by simpa using others x hx,
          List.eraseP_cons_of_pos (by simpa using named)]
      have name : (r.id, r.fact) = (id, h) := by rw [beq_iff_eq.mp named, owned]
      refine ⟨?_, rfl⟩
      change (m.records.map _).Perm ((id, h) :: (m.records.eraseP (·.id == id)).map _)
      rw [erased, split, List.map_append, List.map_append, List.map_cons, name]
      exact List.perm_middle
    · cases done

/-- What a memory takes back are names of the fact that it has records of. -/
theorem names_retract {ids : List MatchId} (done : m.retract h ids = .ok m') :
    m.names.Perm (ids.map (·, h) ++ m'.names) ∧ m'.issued = m.issued := by
  have each {ids : List MatchId} {m m' : AlphaMemory}
      (done : ids.foldlM (AlphaMemory.retractOne h) m = .ok m') :
      m.names.Perm (ids.map (·, h) ++ m'.names) ∧ m'.issued = m.issued := by
    induction ids generalizing m with
    | nil =>
      obtain rfl := Except.ok.inj done
      exact ⟨.refl _, rfl⟩
    | cons id rest ih =>
      rw [List.foldlM_cons] at done
      obtain ⟨u, first, done⟩ := bind_eq_ok.mp done
      obtain ⟨names, issued⟩ := names_retractOne first
      obtain ⟨names', issued'⟩ := ih done
      exact ⟨names.trans (names'.cons _), issued'.trans issued⟩
  have folded : ids.foldlM (AlphaMemory.retractOne h)
      { m with retractions := m.retractions + 1 } = .ok m' := done
  have result := each folded
  exact result

/-- A memory has records of what it was given and what was not handed back. -/
theorem names_of_deals (deals : Deals ({} : AlphaMemory) b m) :
    m.Sound ∧ b.given.Perm (b.handedBack ++ m.names) := by
  induction deals with
  | start => exact ⟨⟨List.nodup_nil, fun _ none => absurd none List.not_mem_nil⟩, .refl _⟩
  | @push b m _ a ih =>
    obtain ⟨sound, given⟩ := ih
    refine ⟨sound.push a, ?_⟩
    have pushed : (JoinNetwork.push a m).2.names = m.names ++ [((m.push a).1, a.fact)] := by
      change names (m.push a).2 = _
      rw [names, (records_push a m).1, List.map_append]
      rfl
    rw [pushed, Books.handedBack_give, ← List.append_assoc]
    exact given.append_right _
  | @retract b m m' h ids refusal _ done ih =>
    obtain ⟨sound, given⟩ := ih
    obtain ⟨u, taken, same⟩ := map_eq_ok.mp done
    obtain ⟨-, rfl⟩ := Prod.mk.inj same
    refine ⟨(sound.retract taken).1, ?_⟩
    rw [Books.given_takeBack, Books.handedBack_takeBack, List.append_assoc]
    exact given.trans ((names_retract taken).1.append_left _)

theorem neverReuses (m : AlphaMemory) : NeverReuses m := by
  refine neverReuses_of_count AlphaMemory.issued (fun a n => ?_) fun h ids n refusal n' done => ?_
  · obtain ⟨-, id, issued⟩ := records_push a n
    exact ⟨congrArg MatchId.number id, issued⟩
  · obtain ⟨u, taken, same⟩ := map_eq_ok.mp done
    obtain ⟨-, rfl⟩ := Prod.mk.inj same
    exact (names_retract taken).2

end AlphaMemory

end FactBase
