import Mathlib.Data.List.TakeDrop
import Mathlib.Data.List.TakeWhile
import FactBase.Listener
import FactBase.Proofs.Basic

/-!
# Who listens, and in which order

Listeners come and go. The registry keeps them in the order in which they run: those of higher
priority in front, those of equal priority by the time of their registration. A roll keeps the
same listeners by age alone. Whatever calls are made of a registry, it is its roll, ranked.
-/

namespace FactBase

/-- A call that changes who listens. -/
inductive Enrolment where
  | add (name : String) (priority : Int)
  | remove (name : String)
deriving DecidableEq, Repr

/-! ### By age -/

/-- The registered listeners, the oldest registration in front. -/
structure Roll where
  members : List Registration := []
  nextId : Nat := 0

namespace Roll

/-- A name is registered once at most, and whoever is registered stands at the end. -/
def enrol (r : Roll) : Enrolment → Roll
  | .add name priority =>
    if name ∈ r.members.map (·.name) then r
    else
      { members := r.members ++ [{ name, priority, id := ⟨r.nextId⟩ }]
        nextId := r.nextId + 1 }
  | .remove name => { r with members := r.members.filter (·.name != name) }

/-- The roll after calls. -/
def after (calls : List Enrolment) : Roll := calls.foldl enrol {}

end Roll

/-! ### Calls of a registry -/

namespace ListenerRegistry

variable {r r' : ListenerRegistry} {name : String} {priority : Int}

/-- The registry after a call; one that is refused changes nothing. -/
def enrol (r : ListenerRegistry) : Enrolment → ListenerRegistry
  | .add name priority => ((r.add name priority).toOption.map (·.2)).getD r
  | .remove name => (r.remove name).2

/-- The registry after calls. -/
def play (r : ListenerRegistry) (calls : List Enrolment) : ListenerRegistry := calls.foldl enrol r

theorem play_append (r : ListenerRegistry) (calls more : List Enrolment) :
    r.play (calls ++ more) = (r.play calls).play more := List.foldl_append

theorem enrol_of_added {id : ListenerId} (done : r.add name priority = .ok (id, r')) :
    r.enrol (.add name priority) = r' := by
  rw [enrol, done]
  rfl

theorem enrol_of_refused {e : StoreError} (refused : r.add name priority = .error e) :
    r.enrol (.add name priority) = r := by
  rw [enrol, refused]
  rfl

/-- A new listener stands behind those of equal or higher priority. -/
theorem enrol_add (r : ListenerRegistry) (name : String) (priority : Int) :
    r.enrol (.add name priority) = if name ∈ r.names then r else { r with
      entries := r.entries.takeWhile (priority ≤ ·.priority) ++
        { name, priority, id := ⟨r.nextId⟩ } :: r.entries.dropWhile (priority ≤ ·.priority)
      nextId := r.nextId + 1 } := by
  by_cases taken : name ∈ r.names
  · have refused : r.add name priority = .error (.duplicateListener name) :=
      if_pos (List.contains_iff_mem.mpr taken)
    rw [if_pos taken, enrol_of_refused refused]
  · rw [if_neg taken, enrol, add, if_neg (mt List.contains_iff_mem.mp taken),
      List.span_eq_takeWhile_dropWhile]
    rfl

/-- Who is running does not concern who is registered. -/
theorem enrol_running (r : ListenerRegistry) (call : Enrolment) (running : List ListenerId) :
    { r with running }.enrol call = { r.enrol call with running } := by
  cases call with
  | remove name => rfl
  | add name priority =>
    rw [enrol_add, enrol_add]
    by_cases taken : name ∈ r.names
    · rw [if_pos taken, if_pos (show name ∈ ({ r with running } : ListenerRegistry).names from taken)]
    · rw [if_neg taken,
        if_neg (show name ∉ ({ r with running } : ListenerRegistry).names from taken)]

/-! ### The order -/

/-- Listeners by priority, those of equal priority by age. -/
structure Ranks (members entries : List Registration) : Prop where
  /-- The registered listeners, each once. -/
  perm : entries.Perm members
  descending : entries.Pairwise fun a b => b.priority ≤ a.priority
  ties : ∀ p, entries.filter (·.priority == p) = members.filter (·.priority == p)

/-- A registry is its roll, ranked. -/
structure Follows (r : ListenerRegistry) (roll : Roll) : Prop where
  ranks : Ranks roll.members r.entries
  nextId : r.nextId = roll.nextId
  names : r.names.Nodup
  ids : (r.entries.map (·.id)).Nodup
  issued : ∀ x ∈ r.entries, x.id.number < r.nextId

/-- Behind the place of a priority stand lower priorities only. -/
theorem lower_of_mem_dropWhile {entries : List Registration}
    (descending : entries.Pairwise fun a b => b.priority ≤ a.priority) {x : Registration}
    (behind : x ∈ entries.dropWhile (priority ≤ ·.priority)) : x.priority < priority := by
  induction entries with
  | nil => cases behind
  | cons first rest ih =>
    obtain ⟨lower, descending⟩ := List.pairwise_cons.mp descending
    by_cases ahead : priority ≤ first.priority
    · rw [List.dropWhile_cons, if_pos (decide_eq_true ahead)] at behind
      exact ih descending behind
    · rw [List.dropWhile_cons, if_neg (by simpa using ahead)] at behind
      rcases List.mem_cons.mp behind with rfl | later
      · omega
      · have below := lower x later
        omega

theorem Ranks.insert {members entries : List Registration} (ranks : Ranks members entries)
    (x : Registration) :
    Ranks (members ++ [x]) (entries.takeWhile (x.priority ≤ ·.priority) ++
      x :: entries.dropWhile (x.priority ≤ ·.priority)) := by
  obtain ⟨perm, descending, ties⟩ := ranks
  have split : entries.takeWhile (x.priority ≤ ·.priority) ++
      entries.dropWhile (x.priority ≤ ·.priority) = entries := List.takeWhile_append_dropWhile
  have lower : ∀ y ∈ entries.dropWhile (x.priority ≤ ·.priority), y.priority < x.priority :=
    fun y => lower_of_mem_dropWhile descending
  have higher : ∀ y ∈ entries.takeWhile (x.priority ≤ ·.priority), x.priority ≤ y.priority :=
    fun y ahead => by simpa using List.mem_takeWhile_imp ahead
  constructor
  · refine List.perm_middle.trans ?_
    rw [split]
    exact (perm.cons x).trans (List.perm_append_singleton x members).symm
  · rw [← split] at descending
    obtain ⟨front, back, across⟩ := List.pairwise_append.mp descending
    refine List.pairwise_append.mpr ⟨front, List.pairwise_cons.mpr ⟨fun y inside => ?_, back⟩, ?_⟩
    · have below := lower y inside
      omega
    · intro y ahead z inside
      rcases List.mem_cons.mp inside with rfl | behind
      · exact higher y ahead
      · exact across y ahead z behind
  · intro p
    have parted := congrArg (List.filter (·.priority == p)) split
    rw [List.filter_append, ties p] at parted
    rw [List.filter_append, List.filter_cons, List.filter_append, ← parted]
    by_cases same : x.priority = p
    · -- Nobody of this priority stands behind the new one.
      have none : (entries.dropWhile (x.priority ≤ ·.priority)).filter (·.priority == p) = [] := by
        refine List.filter_eq_nil_iff.mpr fun y inside equal => ?_
        have below := lower y inside
        have equal : y.priority = p := beq_iff_eq.mp equal
        omega
      rw [none, if_pos (beq_iff_eq.mpr same), List.append_nil]
      simp [same]
    · rw [if_neg (by simpa using same)]
      simp [same]

theorem Ranks.filter {members entries : List Registration} (ranks : Ranks members entries)
    (keep : Registration → Bool) : Ranks (members.filter keep) (entries.filter keep) := by
  refine ⟨ranks.perm.filter keep, ranks.descending.filter keep, fun p => ?_⟩
  rw [List.filter_comm, ranks.ties, List.filter_comm]

/-- A call keeps a registry in line with its roll. -/
theorem Follows.enrol {roll : Roll} (follows : r.Follows roll) (call : Enrolment) :
    (r.enrol call).Follows (roll.enrol call) := by
  obtain ⟨ranks, nextId, names, ids, issued⟩ := follows
  cases call with
  | add name priority =>
    have known : name ∈ roll.members.map (·.name) ↔ name ∈ r.names :=
      (ranks.perm.map (·.name)).mem_iff.symm
    rw [enrol_add, Roll.enrol]
    by_cases taken : name ∈ r.names
    · rw [if_pos taken, if_pos (known.mpr taken)]
      exact ⟨ranks, nextId, names, ids, issued⟩
    · rw [if_neg taken, if_neg (mt known.mp taken), ← nextId]
      have ranked := ranks.insert { name, priority, id := ⟨r.nextId⟩ }
      have perm := ranked.perm.trans ((List.perm_append_singleton _ _).trans (ranks.perm.symm.cons _))
      refine ⟨ranked, rfl, ?_, ?_, ?_⟩
      · refine (perm.map (·.name)).nodup_iff.mpr ?_
        exact List.nodup_cons.mpr ⟨taken, names⟩
      · refine (perm.map (·.id)).nodup_iff.mpr (List.nodup_cons.mpr ⟨fun inside => ?_, ids⟩)
        obtain ⟨x, listed, same⟩ := List.mem_map.mp inside
        have below := issued x listed
        rw [same] at below
        exact Nat.lt_irrefl _ below
      · intro x inside
        rcases List.mem_cons.mp (perm.mem_iff.mp inside) with rfl | listed
        · exact Nat.lt_succ_self _
        · exact Nat.lt_succ_of_lt (issued x listed)
  | remove name =>
    have fewer : (r.entries.filter (·.name != name)).Sublist r.entries := List.filter_sublist
    exact ⟨ranks.filter _, nextId, names.sublist (fewer.map _), ids.sublist (fewer.map _),
      fun x inside => issued x (fewer.subset inside)⟩

/-- Those who are told of the next event, in this order. -/
def audience (r : ListenerRegistry) : List Registration :=
  r.entries.filter fun x => !r.running.contains x.id

theorem Follows.ranks_audience {roll : Roll} (follows : r.Follows roll) :
    Ranks (roll.members.filter fun x => !r.running.contains x.id) r.audience :=
  follows.ranks.filter _

theorem Follows.audience_once {roll : Roll} (follows : r.Follows roll) :
    (r.audience.map (·.id)).Nodup := follows.ids.sublist (List.filter_sublist.map _)

/-- Whatever calls were made, a registry is the roll of these calls, ranked. -/
theorem follows_play (calls : List Enrolment) :
    (({} : ListenerRegistry).play calls).Follows (Roll.after calls) := by
  have empty : ({} : ListenerRegistry).Follows {} := by
    refine ⟨⟨.nil, .nil, fun _ => rfl⟩, rfl, List.nodup_nil, List.nodup_nil, fun x inside => ?_⟩
    cases inside
  have run (r : ListenerRegistry) (roll : Roll) (follows : r.Follows roll) :
      (r.play calls).Follows (calls.foldl Roll.enrol roll) := by
    induction calls generalizing r roll with
    | nil => exact follows
    | cons call rest ih => exact ih _ _ (follows.enrol call)
  exact run {} {} empty

end ListenerRegistry

end FactBase
