import FactBase.Proofs.Pattern.Branches
import FactBase.Proofs.Pattern.Halting

/-!
# What is said of a test that failed

A walk asks its judge one question after another. Each question stands at a place: behind steps that
were gone, each of which took some fields of its slot. What a walk reports of a question that failed
is read off that place alone: the labels of the live patterns that begin with the steps gone and the
one asked for, and the number of fields that were taken from the slot before.
-/

namespace FactBase

variable {σ : Type}

/-- A question to a judge, and the answer. -/
structure Decision where
  test : FieldTest
  view : FieldView
  answer : Except EvalError Bool

/-- The same judge with a record of all that it was asked. -/
def Judge.recording (judge : Judge σ) : Judge (σ × List Decision) where
  decide test view p :=
    let (answer, probe) := judge.decide test view p.1
    (answer, probe, p.2 ++ [⟨test, view, answer⟩])
  poll p :=
    let (halted, probe) := judge.poll p.1
    (halted, probe, p.2)

def Delivery.failed? : Delivery → Option FailedTest
  | .failed test => some test
  | .matched _ _ => none

/-- A step that was gone, and how many fields it took. -/
structure Stride where
  step : PathStep
  length : Nat

/-- How many fields of a slot were taken on the way. -/
def fieldsTaken (slot : Nat) : List Stride → Nat
  | [] => 0
  | s :: way => (if s.step.shape.slot = slot then s.length else 0) + fieldsTaken slot way

/-- What a node of a shape is shown from a place on: one field, or a run of some length. -/
def shown? (values : List Value) (shape : Shape) (place length : Nat) : Option FieldView :=
  (values[shape.slot]?).bind fun v =>
    if shape.isMulti then
      (v.members?).bind fun members =>
        if place + length ≤ members.length then some (.span ((members.drop place).take length))
        else none
    else (MatchContext.fieldAt? shape v place).map .single

/-- A question at its place. -/
structure Asked where
  way : List Stride
  step : PathStep
  view : FieldView
  answer : Except EvalError Bool

namespace Asked

/-- The steps gone and the one that is asked for. -/
def path (a : Asked) : List PathStep := a.way.map (·.step) ++ [a.step]

/-- Where in its slot the field or run begins. -/
def place (a : Asked) : Nat := fieldsTaken a.step.shape.slot a.way

def decision (a : Asked) : Decision := ⟨a.step.test, a.view, a.answer⟩

/-- What there is to say of a question that failed. -/
def failure? (template : Template) (roll : List LiveEntry) (a : Asked) : Option FailedTest :=
  match a.answer with
  | .ok _ => none
  | .error e => some
    { slot := ((template.slot? a.step.shape.slot).map (·.name)).getD "?"
      field := a.place
      labels := labelsThrough template roll a.path
      error := e }

end Asked

/-- The questions of a walk so far, and the way to where it is. A step is gone if the judge says so,
or if it stands for the very field that is there; from everywhere the walk may go back. -/
inductive Course (values : List Value) : List Asked → List Stride → Prop
  | start : Course values [] []
  | back {asked : List Asked} {way : List Stride} {last : Stride}
      (there : Course values asked (way ++ [last])) : Course values asked way
  | chosen {asked : List Asked} {way : List Stride} {step : PathStep} {v : Value}
      (here : Course values asked way) (constant : step.constant? = some v)
      (shown : shown? values step.shape (fieldsTaken step.shape.slot way) 1 = some (.single v)) :
      Course values asked (way ++ [⟨step, 1⟩])
  | held {asked : List Asked} {way : List Stride} {step : PathStep} {length : Nat} {view : FieldView}
      (here : Course values asked way)
      (shown : shown? values step.shape (fieldsTaken step.shape.slot way) length = some view) :
      Course values (asked ++ [⟨way, step, view, .ok true⟩]) (way ++ [⟨step, length⟩])
  | refused {asked : List Asked} {way : List Stride} {step : PathStep} {length : Nat}
      {view : FieldView} {answer : Except EvalError Bool} (here : Course values asked way)
      (shown : shown? values step.shape (fieldsTaken step.shape.slot way) length = some view)
      (no : answer ≠ .ok true) : Course values (asked ++ [⟨way, step, view, answer⟩]) way

namespace Walk

variable {values : List Value} {template : Template} {roll : List LiveEntry} {way : List Stride}

/-- From a place a walk asks further questions and comes back. It does what it does without the
record, and its reports are those that there are about its questions, each on the path of some live
pattern. -/
def Follows (values : List Value) (template : Template) (roll : List LiveEntry) (way : List Stride)
    (w : Walk (σ × List Decision)) (plain : Walk σ) : Prop :=
  ∀ s before, Course values before way → ∃ more, Course values (before ++ more) way ∧
    w ⟨(s.probe, before.map (·.decision)), s.halted⟩ = ((plain s).1,
      ⟨((plain s).2.probe, (before ++ more).map (·.decision)), (plain s).2.halted⟩) ∧
    (plain s).1.filterMap (·.failed?) = more.filterMap (·.failure? template roll) ∧
    ∀ a ∈ more, ∃ e ∈ roll, e.leadsThrough template a.path = true

theorem follows_deliver {ds : List Delivery} (quiet : ds.filterMap (·.failed?) = []) :
    Follows values template roll way (deliver ds) (deliver ds : Walk σ) := by
  intro s before here
  refine ⟨[], ?_, ?_, quiet, fun _ none => absurd none List.not_mem_nil⟩
  · rw [List.append_nil]
    exact here
  · rw [List.append_nil]
    rfl

theorem follows_skip : Follows values template roll way skip (skip : Walk σ) := follows_deliver rfl

theorem Follows.andThen {a b : Walk (σ × List Decision)} {first second : Walk σ}
    (ha : Follows values template roll way a first) (hb : Follows values template roll way b second) :
    Follows values template roll way (a.andThen b) (first.andThen second) := by
  intro s before here
  obtain ⟨more, there, ran, reports, leads⟩ := ha s before here
  obtain ⟨more', there', ran', reports', leads'⟩ := hb (first s).2 (before ++ more) there
  rw [List.append_assoc] at there' ran'
  refine ⟨more ++ more', there', ?_, ?_, ?_⟩
  · simp only [Walk.andThen, ran, ran']
  · simp only [Walk.andThen, List.filterMap_append, reports, reports']
  · exact List.forall_mem_append.mpr ⟨leads, leads'⟩

theorem follows_all {α : Type} {xs : List α} {f : α → Walk (σ × List Decision)} {plain : α → Walk σ}
    (each : ∀ x ∈ xs, Follows values template roll way (f x) (plain x)) :
    Follows values template roll way (.all (xs.map f)) (.all (xs.map plain)) := by
  induction xs with
  | nil => exact follows_skip
  | cons x xs ih =>
    obtain ⟨first, others⟩ := List.forall_mem_cons.mp each
    exact first.andThen (ih others)

theorem Follows.unlessHalted {w : Walk (σ × List Decision)} {plain : Walk σ}
    (follows : Follows values template roll way w plain) (judge : Judge σ) :
    Follows values template roll way (.unlessHalted judge.recording w) (.unlessHalted judge plain) := by
  intro s before here
  have silent : Follows values template roll way skip (skip : Walk σ) := follows_skip
  rw [unlessHalted_eq judge, unlessHalted_eq judge.recording]
  cases off : s.halted with
  | true =>
    rw [if_pos rfl, if_pos rfl]
    have same : s = ⟨s.probe, true⟩ := by rw [← off]
    rw [same]
    exact silent ⟨s.probe, true⟩ before here
  | false =>
    rw [if_neg Bool.false_ne_true, if_neg Bool.false_ne_true]
    change ∃ more, _ ∧ (if (judge.poll s.probe).1 = true then _ else _) = _ ∧ _
    split
    · exact silent ⟨_, true⟩ before here
    · exact follows ⟨(judge.poll s.probe).2, false⟩ before here

/-- The constant that stands for the field that is there is gone without a question. -/
theorem Follows.chosen {w : Walk (σ × List Decision)} {plain : Walk σ} {step : PathStep} {v : Value}
    (constant : step.constant? = some v)
    (shown : shown? values step.shape (fieldsTaken step.shape.slot way) 1 = some (.single v))
    (inside : Follows values template roll (way ++ [⟨step, 1⟩]) w plain) :
    Follows values template roll way w plain := by
  intro s before here
  obtain ⟨more, there, said⟩ := inside s before (.chosen here constant shown)
  exact ⟨more, .back there, said⟩

end Walk

/-! ### Places -/

theorem shown?_run {values members : List Value} {shape : Shape} {v : Value} {place length : Nat}
    (here : values[shape.slot]? = some v) (multi : shape.isMulti = true)
    (among : v.members? = some members)
    (chosen : length ∈ MatchContext.runLengths shape place members.length) :
    shown? values shape place length = some (.span ((members.drop place).take length)) := by
  have within : place + length ≤ members.length := by
    unfold MatchContext.runLengths at chosen
    split at chosen
    · dsimp only at chosen
      split at chosen
      · rw [List.mem_singleton] at chosen
        omega
      · rw [List.mem_reverse, List.mem_range] at chosen
        omega
    · exact absurd chosen List.not_mem_nil
  rw [shown?, here, Option.bind_some, if_pos multi, among, Option.bind_some, if_pos within]

theorem shown?_field {values : List Value} {shape : Shape} {v field : Value} {place : Nat}
    (here : values[shape.slot]? = some v) (single : ¬shape.isMulti = true)
    (there : MatchContext.fieldAt? shape v place = some field) :
    shown? values shape place 1 = some (.single field) := by
  rw [shown?, here, Option.bind_some, if_neg single, there, Option.map_some]

/-- After a node in this slot the walk goes on at a place, and in another slot at its beginning. This
is where a step's field or run begins. -/
def Comes (slot : Option Nat) (next : Nat) (way : List Stride) (step : PathStep) : Prop :=
  (if slot = some step.shape.slot then next else 0) = fieldsTaken step.shape.slot way

theorem fieldsTaken_append (slot : Nat) (way : List Stride) (last : Stride) :
    fieldsTaken slot (way ++ [last]) =
      fieldsTaken slot way + if last.step.shape.slot = slot then last.length else 0 := by
  induction way with
  | nil => exact Nat.add_comm _ 0
  | cons s way ih => rw [List.cons_append, fieldsTaken, fieldsTaken, ih, Nat.add_assoc]

/-- No field of a slot was taken if all steps that were gone are in slots before it. -/
theorem fieldsTaken_eq_zero {slot : Nat} {way : List Stride}
    (before : ∀ s ∈ way, s.step.shape.slot < slot) : fieldsTaken slot way = 0 := by
  induction way with
  | nil => rfl
  | cons s way ih =>
    obtain ⟨here, before⟩ := List.forall_mem_cons.mp before
    rw [fieldsTaken, ih before, if_neg here.ne]

open PatternTree in
/-- One step on, the walk comes to the next steps where the fields of the last one end. -/
theorem comes_onward {way : List Stride} {step onward : PathStep} {length : Nat}
    (behind : (way.map (·.step) ++ [step] ++ [onward]).Pairwise Behind) :
    Comes (some step.shape.slot) (fieldsTaken step.shape.slot way + length) (way ++ [⟨step, length⟩])
      onward := by
  unfold Comes
  rw [fieldsTaken_append]
  by_cases same : step.shape.slot = onward.shape.slot
  · rw [if_pos (congrArg some same), if_pos same, same]
  · rw [if_neg (fun h => same (Option.some.inj h)), if_neg same]
    rw [List.append_assoc] at behind
    obtain ⟨-, last, earlier⟩ := List.pairwise_append.mp behind
    have later : step.shape.slot < onward.shape.slot := by
      obtain later | ⟨equal, -⟩ := (List.pairwise_cons.mp last).1 onward (List.mem_singleton.mpr rfl)
      · exact later
      · exact absurd equal same
    refine (fieldsTaken_eq_zero fun s inside => ?_).symm
    obtain first | ⟨equal, -⟩ := earlier s.step (List.mem_map_of_mem inside) step (by simp)
    · exact first.trans later
    · exact equal ▸ later

namespace MatchContext

open Walk PatternNode PatternTree

variable {c : MatchContext σ} {roll : List LiveEntry} {way : List Stride} {step : PathStep}
  {w : Walk (σ × List Decision)} {plain : Walk σ}

theorem follows_emit (entries : List EntryId) (markers : List Marker) :
    Follows c.values c.tree.template roll way
      ((c.judgedBy c.judge.recording).emit entries markers) (c.emit entries markers) :=
  follows_deliver (by simp [Delivery.failed?, List.filterMap_map])

/-- A node is asked for its step, and if it holds, the walk goes on behind it and comes back. -/
theorem follows_whereHolds (carries : c.tree.Carries roll) {n : PatternNode}
    (stands : c.tree.Stands (way.map (·.step)) step n) {view : FieldView} {length : Nat}
    (shown : shown? c.values step.shape (fieldsTaken step.shape.slot way) length = some view)
    (inside : Follows c.values c.tree.template roll (way ++ [⟨step, length⟩]) w plain) :
    Follows c.values c.tree.template roll way
      ((c.judgedBy c.judge.recording).whereHolds n view (fieldsTaken step.shape.slot way) w)
      (c.whereHolds n view (fieldsTaken step.shape.slot way) plain) := by
  intro s before here
  have named := performs_iff.mp stands.performs
  have test : n.head.test = .field step.test := congrArg Prod.snd named
  have slot : n.head.shape.slot = step.shape.slot :=
    congrArg Shape.slot (congrArg Prod.fst named : n.head.shape = step.shape)
  have leads : ∃ e ∈ roll, e.leadsThrough c.tree.template (way.map (·.step) ++ [step]) = true := by
    obtain ⟨e, live, path, compiled, begins⟩ := stands.exists_path carries
    refine ⟨e, live, ?_⟩
    rw [LiveEntry.leadsThrough, compiled]
    exact List.isPrefixOf_iff_prefix.mpr begins
  have recorded : (c.judgedBy c.judge.recording).judge.decide step.test view
      (s.probe, before.map (·.decision)) = ((c.judge.decide step.test view s.probe).1,
        (c.judge.decide step.test view s.probe).2, (before ++ [(⟨way, step, view,
          (c.judge.decide step.test view s.probe).1⟩ : Asked)]).map (·.decision)) := by
    rw [List.map_append]
    rfl
  rw [whereHolds_eq test, whereHolds_eq test, recorded]
  rcases c.judge.decide step.test view s.probe with ⟨answer, probe⟩
  match answer with
  | .ok true =>
    obtain ⟨more, there, ran, reports, leads'⟩ := inside ⟨probe, s.halted⟩ _ (.held here shown)
    rw [List.append_assoc] at there ran
    exact ⟨_ :: more, .back there, ran, reports, List.forall_mem_cons.mpr ⟨leads, leads'⟩⟩
  | .ok false =>
    exact ⟨[⟨way, step, view, .ok false⟩], .refused here shown (by simp), rfl, rfl,
      List.forall_mem_singleton.mpr leads⟩
  | .error e =>
    refine ⟨[⟨way, step, view, .error e⟩], .refused here shown (by simp), rfl, ?_,
      List.forall_mem_singleton.mpr leads⟩
    · have report : c.failedTest n (fieldsTaken step.shape.slot way) e =
          { slot := ((c.tree.template.slot? step.shape.slot).map (·.name)).getD "?"
            field := fieldsTaken step.shape.slot way
            labels := labelsThrough c.tree.template roll (way.map (·.step) ++ [step])
            error := e } := by
        rw [failedTest, slot, stands.reachableLabels carries]
      exact congrArg ([·]) report

/-- What a walk needs to know of the nodes that it may come to next. -/
def Awaits (c : MatchContext σ) (slot : Option Nat) (next : Nat) (way : List Stride)
    (ns : List PatternNode) : Prop :=
  ∀ m ∈ ns, ∃ step, c.tree.Stands (way.map (·.step)) step m ∧ Comes slot next way step

/-- Behind a step the walk awaits the nodes below. -/
theorem awaits_onward (carries : c.tree.Carries roll) {n : PatternNode} {length : Nat}
    (stands : c.tree.Stands (way.map (·.step)) step n) :
    c.Awaits (some step.shape.slot) (fieldsTaken step.shape.slot way + length)
      (way ++ [⟨step, length⟩]) (branches n.children) := by
  intro m inside
  have level := stands.level
  obtain ⟨onward, stands'⟩ := level.stands inside
  refine ⟨onward, ?_, comes_onward (stands'.placed carries).2⟩
  rw [List.map_append]
  exact stands'

/-- Constants of a shape perform steps of that shape. -/
theorem shape_of_case {m : PatternNode} {shape : Shape} {step : PathStep}
    (constant : m.isConstant shape = true) (performs : m.performs step = true) :
    step.shape = shape := by
  obtain ⟨v, named⟩ := isConstant_iff.mp constant
  exact congrArg Prod.fst ((performs_iff.mp performs).symm.trans named)

section Cases

variable {children : List PatternNode} {shape : Shape} {slot : Option Nat} {next : Nat}
  (constants : ∀ m ∈ children, m.isConstant shape = true) (awaits : c.Awaits slot next way children)
include constants awaits

/-- The cases of a selector are awaited where the selector is. -/
theorem awaits_cases : c.Awaits (some shape.slot) (if slot = some shape.slot then next else 0) way
    children := by
  intro m inside
  obtain ⟨step, stands, comes⟩ := awaits m inside
  refine ⟨step, stands, ?_⟩
  have same := shape_of_case (constants m inside) stands.performs
  unfold Comes at comes ⊢
  rw [same] at comes ⊢
  rw [if_pos rfl]
  exact comes

/-- The field that a selector chooses by is the one that its cases are shown. -/
theorem shown_cases {v field : Value} (single : shape.isMulti = false)
    (here : c.values[shape.slot]? = some v)
    (there : fieldAt? shape v (if slot = some shape.slot then next else 0) = some field) :
    ∀ m ∈ children, ∀ step, m.performs step = true → step.shape.isMulti = false ∧
      shown? c.values step.shape (fieldsTaken step.shape.slot way) 1 = some (.single field) := by
  intro m inside step performs
  obtain ⟨own, stands, comes⟩ := awaits m inside
  obtain rfl := step_unique stands.performs performs
  have same := shape_of_case (constants m inside) performs
  unfold Comes at comes
  rw [same] at comes ⊢
  rw [← comes]
  exact ⟨single, shown?_field here (by rw [single]; exact Bool.false_ne_true) there⟩

end Cases

mutual

theorem follows_visit (carries : c.tree.Carries roll) (n : PatternNode) (slot : Option Nat)
    (next : Nat) (markers : List Marker) (dispatched : Bool) (way : List Stride) (sound : Sound n)
    (awaits : c.Awaits slot next way (ahead n))
    (chosen : dispatched = true → ∀ step, n.performs step = true → ∃ v, step.constant? = some v ∧
      shown? c.values step.shape (fieldsTaken step.shape.slot way) 1 = some (.single v)) :
    Follows c.values c.tree.template roll way
      ((c.judgedBy c.judge.recording).visit n slot next markers dispatched)
      (c.visit n slot next markers dispatched) := by
  obtain ⟨head, children⟩ := n
  unfold visit
  refine Follows.unlessHalted ?_ c.judge
  rw [show (c.judgedBy c.judge.recording).slotValue? head dispatched = c.slotValue? head dispatched
    from rfl]
  cases looked : c.slotValue? head dispatched with
  | none => exact follows_skip
  | some v =>
    have here : c.values[head.shape.slot]? = some v := by
      unfold slotValue? at looked
      split at looked
      · cases looked
      · exact (Option.filter_eq_some_iff.mp looked).1
    dsimp only
    cases test : head.test with
    | selector =>
      obtain ⟨only, -, below⟩ := sound
      obtain ⟨single, -, constants⟩ := only test
      rw [ahead_selector children test] at awaits
      simp only [single, Bool.false_eq_true, if_false, beq_self_eq_true, if_true]
      cases there : fieldAt? head.shape v (if slot = some head.shape.slot then next else 0) with
      | none => exact follows_skip
      | some field =>
        exact follows_visitCase carries children field _ _ markers way below
          (awaits_cases constants awaits) (shown_cases constants awaits single here there)
    | field t =>
      rw [ahead_field children test] at awaits
      obtain ⟨step, stands, comes⟩ := awaits _ (List.mem_singleton.mpr rfl)
      have named := performs_iff.mp stands.performs
      have same : head.shape = step.shape := congrArg Prod.fst named
      have place : (if slot = some head.shape.slot then next else 0) =
          fieldsTaken step.shape.slot way := by
        rw [same]
        exact comes
      have inside (length : Nat) (markers : List Marker) :
          Follows c.values c.tree.template roll (way ++ [⟨step, length⟩])
            (((c.judgedBy c.judge.recording).emit head.entries markers).andThen
              ((c.judgedBy c.judge.recording).visitAll children (some head.shape.slot)
                (fieldsTaken step.shape.slot way + length) markers))
            ((c.emit head.entries markers).andThen (c.visitAll children (some head.shape.slot)
              (fieldsTaken step.shape.slot way + length) markers)) := by
        rw [same]
        exact (follows_emit head.entries markers).andThen
          (follows_visitAll carries children _ _ markers _ sound.children.2
            (awaits_onward carries stands))
      rw [place]
      by_cases multi : head.shape.isMulti = true
      · rw [if_pos multi, if_pos multi]
        cases among : v.members? with
        | none => exact follows_skip
        | some members =>
          refine follows_all fun length tried => ?_
          refine Follows.unlessHalted ?_ c.judge
          refine follows_whereHolds carries stands ?_ (inside length _)
          rw [← same]
          rw [← same] at tried
          exact shown?_run here multi among tried
      · rw [if_neg multi, if_neg multi]
        cases there : fieldAt? head.shape v (fieldsTaken step.shape.slot way) with
        | none => exact follows_skip
        | some field =>
          have shown : shown? c.values step.shape (fieldsTaken step.shape.slot way) 1 =
              some (.single field) := by
            rw [← same]
            rw [← same] at there
            exact shown?_field here multi there
          have tests : (NodeTest.field t == NodeTest.selector) = false := by simp
          simp only [tests, Bool.false_eq_true, if_false]
          split
          · rename_i dispatched
            obtain ⟨w, constant, equal⟩ := chosen dispatched step stands.performs
            exact (inside 1 markers).chosen constant equal
          · exact follows_whereHolds carries stands shown (inside 1 markers)

theorem follows_visitAll (carries : c.tree.Carries roll) (ns : List PatternNode) (slot : Option Nat)
    (next : Nat) (markers : List Marker) (way : List Stride) (sound : ∀ n ∈ ns, Sound n)
    (awaits : c.Awaits slot next way (branches ns)) :
    Follows c.values c.tree.template roll way
      ((c.judgedBy c.judge.recording).visitAll ns slot next markers)
      (c.visitAll ns slot next markers) := by
  cases ns with
  | nil =>
    unfold visitAll
    exact follows_skip
  | cons n ns =>
    unfold visitAll
    obtain ⟨first, others⟩ := List.forall_mem_cons.mp sound
    refine (follows_visit carries n slot next markers false way first
      (fun m inside => awaits m (List.mem_append_left _ inside))
      fun no => absurd no Bool.false_ne_true).andThen ?_
    exact follows_visitAll carries ns slot next markers way others
      fun m inside => awaits m (List.mem_append_right _ inside)

theorem follows_visitCase (carries : c.tree.Carries roll) (ns : List PatternNode) (field : Value)
    (slot : Option Nat) (next : Nat) (markers : List Marker) (way : List Stride)
    (sound : ∀ n ∈ ns, Sound n) (awaits : c.Awaits slot next way ns)
    (shown : ∀ n ∈ ns, ∀ step, n.performs step = true → step.shape.isMulti = false ∧
      shown? c.values step.shape (fieldsTaken step.shape.slot way) 1 = some (.single field)) :
    Follows c.values c.tree.template roll way
      ((c.judgedBy c.judge.recording).visitCase ns field slot next markers)
      (c.visitCase ns field slot next markers) := by
  cases ns with
  | nil =>
    unfold visitCase
    exact follows_skip
  | cons n ns =>
    unfold visitCase
    obtain ⟨first, others⟩ := List.forall_mem_cons.mp sound
    obtain ⟨here, shown⟩ := List.forall_mem_cons.mp shown
    split
    · rename_i case
      refine follows_visit carries n slot next markers true way first ?_ fun _ step performs => ?_
      · obtain ⟨head, children⟩ := n
        have test : head.test = .field (.constant field) := isCase_iff.mp case
        rw [ahead_field children test]
        exact List.forall_mem_singleton.mpr (awaits _ List.mem_cons_self)
      · obtain ⟨single, equal⟩ := here step performs
        have own : step.test = .constant field :=
          (NodeTest.field.inj ((isCase_iff.mp case).symm.trans
            (congrArg Prod.snd (performs_iff.mp performs)))).symm
        refine ⟨field, ?_, equal⟩
        rw [PathStep.constant?, single, own]
    · exact follows_visitCase carries ns field slot next markers way others
        (fun m inside => awaits m (List.mem_cons_of_mem n inside)) shown

end

end MatchContext

namespace PatternTree

open MatchContext Walk

variable {t : PatternTree} {roll : List LiveEntry}

end PatternTree

end FactBase
