import FactBase.Proofs.Pattern.Upkeep

/-!
# The calls that make a tree

A tree is made by a row of calls, some of which may be refused and then change nothing. The roll says
which entries are live after them and under which labels and patterns they were added; it is read off
the calls alone. Every tree carries its roll.
-/

namespace FactBase

/-- What can be asked of a pattern tree. -/
inductive TreeCall where
  | add (id : EntryId) (label : String) (pattern : Pattern)
  | remove (id : EntryId)
  | mark
  | record (fact : Handle)
deriving DecidableEq

/-- A live entry as it was added. -/
structure LiveEntry where
  id : EntryId
  label : String
  pattern : Pattern
deriving DecidableEq

namespace PatternTree
open PatternNode

/-- A call that is refused leaves the tree as it is. -/
def perform (t : PatternTree) : TreeCall → PatternTree
  | .add id label p => (t.add id label p).toOption.getD t
  | .remove id => (t.remove id).toOption.getD t
  | .mark => t.markInitialized
  | .record fact => t.recordReplayed fact

/-- A new entry is added under a number that no live entry has. -/
def admits (t : PatternTree) : TreeCall → Bool
  | .add id _ _ => (t.entryOf? id).isNone
  | _ => true

/-- All entries that calls add are new at that time. -/
def Proper (t : PatternTree) : List TreeCall → Prop
  | [] => True
  | call :: calls => t.admits call = true ∧ (t.perform call).Proper calls

def play (t : PatternTree) (calls : List TreeCall) : PatternTree := calls.foldl perform t

/-- Which entries are live after one more call. -/
def enrol (template : Template) (roll : List LiveEntry) : TreeCall → List LiveEntry
  | .add id label pattern =>
    if (compile template pattern).isOk then roll ++ [⟨id, label, pattern⟩] else roll
  | .remove id => roll.filter (·.id != id)
  | .mark | .record _ => roll

/-- The entries that are live after calls, in the order in which they were added. -/
def rollOf (template : Template) (calls : List TreeCall) : List LiveEntry :=
  calls.foldl (enrol template) []

/-- A tree holds the patterns of a roll, under the labels of the roll, and is kept up. -/
structure Carries (t : PatternTree) (roll : List LiveEntry) : Prop where
  keeps : t.Keeps (roll.map fun e => (e.id, e.pattern))
  listed : t.entries.map (fun e => (e.id, e.label)) = roll.map fun e => (e.id, e.label)
  parted : PartedAll t.roots
  fertile : ∀ n ∈ t.roots, Fertile n

variable {t : PatternTree} {roll : List LiveEntry}

theorem carries_empty (template : Template) (threshold : Nat) :
    Carries { template, threshold } [] where
  keeps := keeps_empty template threshold
  listed := rfl
  parted := ⟨fun _ _ none => by simp at none, fun _ none => absurd none List.not_mem_nil⟩
  fertile := fun _ none => absurd none List.not_mem_nil

/-- Only an entry that is live is removed. -/
theorem remove_eq_error {id : EntryId} {e : PatternError} (refused : t.remove id = .error e) :
    id ∉ t.entries.map (·.id) := by
  unfold remove at refused
  split at refused
  · cases refused
  · rename_i none
    intro live
    obtain ⟨x, inside, same⟩ := List.mem_map.mp live
    exact none (List.any_eq_true.mpr ⟨x, inside, beq_iff_eq.mpr same⟩)

theorem Carries.ids_eq (carries : t.Carries roll) : t.entries.map (·.id) = roll.map (·.id) := by
  have listed := congrArg (List.map Prod.fst) carries.listed
  rw [List.map_map, List.map_map] at listed
  exact listed

theorem Carries.add (carries : t.Carries roll) {id : EntryId} {label : String} {p : Pattern}
    (new : t.entryOf? id = none) :
    ((t.add id label p).toOption.getD t).Carries (enrol t.template roll (.add id label p)) := by
  cases added : t.add id label p with
  | error e =>
    have refused : (compile t.template p).isOk = false := by
      unfold PatternTree.add at added
      cases compiled : compile t.template p with
      | error e => rfl
      | ok path => rw [compiled] at added; cases added
    rw [enrol, refused, if_neg Bool.false_ne_true]
    exact carries
  | ok t' =>
    have keeps := carries.keeps.add new added
    obtain ⟨path, compiled, rfl⟩ := add_eq_ok added
    rw [enrol, compiled, show (Except.ok path : Except PatternError _).isOk = true from rfl, if_pos rfl]
    constructor
    · rw [List.map_append]
      exact keeps
    · change List.map _ (t.entries ++ _) = _
      rw [List.map_append, List.map_append, carries.listed]
      rfl
    · exact partedAll_insertPath path carries.keeps.sound carries.parted
    · exact fertile_insertPath path carries.keeps.sound carries.fertile

theorem Carries.remove (carries : t.Carries roll) (id : EntryId) :
    ((t.remove id).toOption.getD t).Carries (enrol t.template roll (.remove id)) := by
  cases removed : t.remove id with
  | error e =>
    have absent := remove_eq_error removed
    rw [carries.ids_eq] at absent
    have same : enrol t.template roll (.remove id) = roll := by
      refine List.filter_eq_self.mpr fun e inside => ?_
      simpa using fun same => absent (List.mem_map.mpr ⟨e, inside, same⟩)
    rw [same]
    exact carries
  | ok t' =>
    have keeps := carries.keeps.remove removed
    obtain rfl := remove_eq_ok removed
    constructor
    · rw [enrol]
      rw [List.filter_map] at keeps
      exact keeps
    · have listed := congrArg (List.filter (·.1 != id)) carries.listed
      rw [List.filter_map, List.filter_map] at listed
      exact listed
    · exact partedAll_pruneAll id carries.parted
    · exact fertile_pruneAll id carries.keeps.sound carries.fertile

theorem Carries.mark (carries : t.Carries roll) : t.markInitialized.Carries roll where
  keeps := carries.keeps.mark
  listed := by
    rw [← carries.listed, markInitialized, List.map_map]
    rfl
  parted := partedAll_initializeNodes carries.parted
  fertile := fertile_initializeNodes carries.fertile

theorem template_perform (t : PatternTree) (call : TreeCall) :
    (t.perform call).template = t.template := by
  cases call with
  | add id label p =>
    rw [perform]
    cases added : t.add id label p with
    | error e => rfl
    | ok t' =>
      obtain ⟨_, _, rfl⟩ := add_eq_ok added
      rfl
  | remove id =>
    rw [perform]
    cases removed : t.remove id with
    | error e => rfl
    | ok t' =>
      obtain rfl := remove_eq_ok removed
      rfl
  | mark | record => rfl

theorem Carries.perform (carries : t.Carries roll) {call : TreeCall} (admitted : t.admits call = true) :
    (t.perform call).Carries (enrol t.template roll call) := by
  cases call with
  | add id label p => exact carries.add (Option.isNone_iff_eq_none.mp admitted)
  | remove id => exact carries.remove id
  | mark => exact carries.mark
  | record fact =>
    obtain ⟨⟨sound, settled, routed, listed, distinct⟩, labelled, parted, fertile⟩ := carries
    exact ⟨⟨sound, settled, routed, listed, distinct⟩, labelled, parted, fertile⟩

/-- Whatever calls made a tree, it carries their roll. -/
theorem carries_play {calls : List TreeCall} (carries : t.Carries roll) (proper : t.Proper calls) :
    (t.play calls).Carries (calls.foldl (enrol t.template) roll) := by
  induction calls generalizing t roll with
  | nil => exact carries
  | cons call calls ih =>
    have next := ih (carries.perform proper.1) proper.2
    rw [template_perform] at next
    exact next

end PatternTree

end FactBase
