import Mathlib.Logic.Function.Basic
import FactBase.Proofs.Process.Templates
import FactBase.Proofs.Store.Schematic

/-!
# Facts go by their templates

A client keeps a ledger of blanks: which slots of each fact have no default and wait to be set. It
enters those of a fact that it has made of defaults, takes over those of a fact of which it has a
changed copy made, and strikes off the slots that it writes. As long as it only defines templates
whose defaults pass the checks of their slots, a stored fact holds in each slot what the slot takes,
or the slot is blank and in the ledger.
-/

namespace FactBase

open Store Process TemplateRegistry

variable {N τ α : Type}

/-- A slot is written. -/
def Blanks.write (blanks : Blanks) (x : Handle × Nat) : Blanks :=
  Function.update blanks x.1 ((blanks x.1).filter (· != x.2))

namespace Request

/-- Whether a request only defines a template that fits, and only commits a builder of which the
template takes what is set. -/
def goesByTemplates (fits : Template → Bool) (s : Store N) : Request α → Bool
  | .defineTemplate t => fits t
  | .commitBuilder b => b.suits s
  | _ => true

/-- The slots that the fact waits for which a request makes, if it makes one. -/
def unset (s : Store N) (blanks : Blanks) (r : Request α) : List Nat :=
  match r with
  | .createFact name => (s.templates.byName? name).elim [] (·.template.required)
  | r => r.copied?.elim [] fun x => (blanks x.1).filter fun position => position ∉ x.2.map (·.1)

/-- The slot that a request has written. -/
def written (s : Store N) : {α : Type} → Request α → α → Option (Handle × Nat)
  | _, .putSlot h slot _, .ok () =>
    (s.get? h).bind fun f => (f.template.slotPosition? slot).map (h, ·)
  | _, .putSlotAt h position _, .ok () => some (h, position)
  | _, _, _ => none

/-- Requests that write a slot. -/
def Writes : Request α → Prop
  | .putSlot _ _ _ | .putSlotAt _ _ _ => True
  | _ => False

end Request

/-- A ledger of blanks. The fact that a request makes is entered beforehand, under the handle that it
will get. -/
def schemaRules (N : Type) (fits : Template → Bool) : Rules N Blanks where
  allows _ s r := r.goesByTemplates fits s
  before blanks s r := Function.update blanks s.facts.nextHandle (r.unset s blanks)
  after blanks s r a := (r.written s a).elim blanks blanks.write

namespace Store

variable {s s' : Store N} {blanks : Blanks} {h : Handle} {f : Fact} {fits : Template → Bool}

namespace Schematic

theorem stock (schematic : s.Schematic blanks) (same : SameStock s s') (keeps : KeepsContents s s') :
    s'.Schematic blanks :=
  schematic.keeps (by rw [same.templates]) keeps

/-- It does not matter what is entered for a fact to come. -/
theorem enter (schematic : s.Schematic blanks) (tidy : s.facts.Tidy) (unset : List Nat) :
    s.Schematic (Function.update blanks s.facts.nextHandle unset) := by
  refine ⟨schematic.templates, fun h f found => ?_⟩
  rw [Function.update_of_ne]
  · exact schematic.facts h f found
  · rintro rfl
    rw [Store.get?, tidy.get?_nextHandle] at found
    cases found

theorem putSlot (schematic : s.Schematic blanks) {slot : String} {v : Value}
    (done : s.putSlot h slot v = .ok s') :
    s'.Schematic (((Request.putSlot h slot v).written s (.ok ())).elim blanks blanks.write) := by
  obtain ⟨f, stored, done⟩ := bind_eq_ok.mp done
  split at done
  · cases done
  · rename_i position own
    have written : (Request.putSlot h slot v).written s (.ok ()) = some (h, position) := by
      simp only [Request.written, (unattached_eq_ok stored).1, Option.bind_some, own, Option.map_some]
    rw [written]
    exact schematic.putSlotAt done

end Schematic

/-! ### Requests -/

variable [JoinNetwork N]

theorem upheld_schematic :
    Upheld (OnLedger (N := N) (τ := τ) (fun (_ : Unit) blanks => Schematic blanks) ()) where
  errand schematic reached errand := schematic.trims errand.trims (errand.keepsContents reached.sound)
  detach schematic reached done := schematic.stock (stock_detach done) (.detach reached.sound done)

theorem assertive_schematic (start : Store N) :
    Assertive start (OnLedger (τ := τ) (fun (_ : Unit) blanks => Schematic blanks) ()) where
  attach schematic _ found _ _ _ _ _ attaches _ _ := by
    obtain ⟨_, _, _, _, _, _, shape⟩ := attaches.rest
    exact schematic.keeps (by rw [shape]) (.attaches attaches found)
  matchFact schematic _ _ done := schematic.stock (stock_matchFact done) (.matchFact done)
  free schematic reached _ _ _ done :=
    schematic.keeps (sameRoster_free done).catalogue (.free reached.sound.tidy done)

/-- What a request makes goes by its template. -/
theorem Schematic.makes {start : Store N} {r : Request α} (apt : ∀ t, fits t = true → t.Apt)
    (allowed : r.goesByTemplates fits start = true) (makes : r.Makes start s s')
    (schematic : s.Schematic (Function.update blanks start.facts.nextHandle (r.unset start blanks)))
    (reached : s.Reached) :
    s'.Schematic (Function.update blanks start.facts.nextHandle (r.unset start blanks)) := by
  have tidy := reached.sound.tidy
  have tallied := reached.reachable.tallied
  cases makes with
  | created done =>
    refine schematic.createFact tidy tallied done fun e named => ?_
    rw [Function.update_self, Request.unset, named, Option.elim_some]
  | ordered _ done => exact schematic.createOrdered tidy tallied done
  | copied wanted patched facts next done =>
    rename_i h k changes f fields u
    refine schematic.copy tidy tallied patched facts done fun position waits outside => ?_
    have stored : h ≠ start.facts.nextHandle := by
      obtain ⟨_, read, -⟩ := bind_eq_ok.mp patched
      have found := (asserted_eq_ok read).1
      rintro rfl
      rw [Store.get?, ← facts, ← next, tidy.get?_nextHandle] at found
      cases found
    rw [Function.update_of_ne stored] at waits
    rw [next, Function.update_self]
    cases r with
    | modify | duplicate | commitModifier =>
      obtain ⟨rfl, rfl⟩ := Prod.mk.inj (Option.some.inj wanted)
      exact List.mem_filter.mpr ⟨waits, decide_eq_true outside⟩
    | _ => cases wanted
  | built current drawn done =>
    rename_i b k fields
    obtain ⟨draws, same⟩ := builderFields_eq b (b.template.slots.zip b.staged).zipIdx start
    rw [drawn] at same
    obtain rfl : s = { start with draws } := same
    have before : start.Schematic _ := schematic.keeps rfl (.of_facts_eq rfl)
    exact before.build tidy current allowed drawn done
  | defined done =>
    obtain ⟨templates, defined, rfl⟩ := defineTemplate_eq_ok done
    exact schematic.define (apt _ allowed) defined
  | implied done => exact schematic.impliedTemplate done

/-- Requests that write no slot leave facts with what they hold. -/
theorem upheldAt_schematic {r : Request α} (other : ¬ r.Writes) (apt : ∀ t, fits t = true → t.Apt)
    {start : Store N} (allowed : (schemaRules N fits).allows blanks start r = true)
    {book : Book Blanks τ} (entered : book.ledger = (schemaRules N fits).before blanks start r) :
    r.UpheldAt start book (OnLedger (fun (_ : Unit) blanks => Schematic blanks) ()) := by
  refine ⟨?_, fun _ _ made schematic reached => ?_⟩
  swap
  · change Schematic book.ledger _ at schematic
    change Schematic book.ledger _
    rw [entered] at schematic ⊢
    exact schematic.makes apt allowed made reached
  cases r with
  | putSlot | putSlotAt => exact absurd trivial other
  | discard =>
    intro _ _ done schematic reached
    refine schematic.keeps ?_ (.discard reached.sound.tidy done)
    obtain ⟨e, -, rfl⟩ | ⟨f, -, -, freed, -⟩ := discard_eq_ok done
    · rfl
    · exact (sameRoster_free freed).catalogue
  | assertAt =>
    exact ⟨assertive_schematic start, fun _ _ _ _ _ done schematic reached =>
      schematic.keeps (sameRoster_free done).catalogue (.free reached.sound.tidy done)⟩
  | assertOrdered | modify | duplicate | commitBuilder => exact assertive_schematic start
  | commitModifier =>
    exact ⟨assertive_schematic start,
      fun _ _ done schematic _ => schematic.stock (stock_release done) (.release done)⟩
  | clear => exact fun _ _ schematic _ _ _ => schematic.keeps rfl (.of_facts_eq rfl)
  | retain | makeModifier =>
    exact fun _ done schematic _ => schematic.stock (stock_retain done) (.retain done)
  | release | abortModifier =>
    exact fun _ _ done schematic _ => schematic.stock (stock_release done) (.release done)
  | install => exact fun _ done schematic _ => schematic.stock (stock_install done) (.install done)
  | deinstall =>
    exact ⟨fun _ _ done schematic _ => schematic.stock (stock_deinstall done) (.deinstall done),
      fun text => ⟨⟨text, rfl⟩, fun _ _ _ _ schematic => schematic.keeps rfl (.of_facts_eq rfl)⟩⟩
  | makeBuilder =>
    exact fun _ _ done schematic _ =>
      schematic.keeps (Demand.makeBuilder done).sameCatalogue.catalogue (.makeBuilder done)
  | dropBuilder b =>
    exact fun schematic _ =>
      schematic.keeps (Demand.dropBuilder b start).sameCatalogue.catalogue (.of_facts_eq rfl)
  | addPattern =>
    intro _ _ _ _ _ schematic _ done
    refine schematic.stock (stock_addPattern done) (.rematched ?_)
    exact replayable_rematched.addPattern (fun _ _ _ _ _ => .of_facts_eq rfl rfl) done
  | removePattern =>
    exact fun _ _ _ schematic _ done =>
      schematic.stock (stock_removePattern done) (.rematched (.removePattern done))
  | replayNewPatterns =>
    exact fun _ _ _ _ _ schematic _ done =>
      schematic.stock (stock_replayAll done) (.rematched (replayable_rematched.replayAll done))
  | setAllowDuplicates | setProbe =>
    exact fun _ _ schematic _ => schematic.keeps rfl (.of_facts_eq rfl)
  | _ => exact trivial

end Store

/-- Whatever is asked of a fact base, its facts go by their templates. -/
theorem schemaRules_upholds [JoinNetwork N] {fits : Template → Bool}
    (apt : ∀ t, fits t = true → t.Apt) :
    (schemaRules N fits).Upholds τ fun (_ : Unit) blanks => Schematic blanks := by
  intro β _ hooks r w courteous stepwise
  have entered : w.store.Schematic ((schemaRules N fits).before w.host.notes.ledger w.store r) :=
    stepwise.holds.enter stepwise.reached.sound.tidy _
  have begun {w₁} (opened : Opens (schemaRules N fits) r w w₁) := opened.begun stepwise entered
  cases r with
  | putSlot h slot v =>
    refine runs_keep stepwise fun w₁ opened => ?_
    refine ensures_attemptChange (fun s done => ?_) fun e _ => ?_
    · exact opened.closes stepwise (.single (.chore (.putSlot done))) (putSlot_spec done).leaves rfl
        (putSlot_spec done).alike.guarded ((begun opened).holds.putSlot done)
    · exact opened.stays stepwise rfl (begun opened).holds
  | putSlotAt h position v =>
    refine runs_keep stepwise fun w₁ opened => ?_
    refine ensures_attemptChange (fun s done => ?_) fun e _ => ?_
    · exact opened.closes stepwise (.single (.chore (.putSlotAt done))) (putSlotAt_spec done).leaves
        rfl (putSlotAt_spec done).alike.guarded ((begun opened).holds.putSlotAt done)
    · exact opened.stays stepwise rfl (begun opened).holds
  | _ =>
    refine runs_keep_upheld (.refl upheld_schematic) (courteous ()) stepwise (fun w₁ opened => ?_) ?_
    · refine ⟨(begun opened).holds, ?_⟩
      rw [opened.store]
      exact upheldAt_schematic id apt opened.allowed (by rw [opened.notes])
    · intro a book s schematic
      exact schematic

/-! ### Facts and their templates -/

namespace Store

variable {s s₀ : Store N} {blanks : Blanks} {h : Handle} {f : Fact}

/-- The stored facts go by their templates, apart from blanks. -/
structure Conforms (blanks : Blanks) (s : Store N) : Prop where
  filled : ∀ h f, s.get? h = some f → f.values.length = f.template.arity
  /-- A slot without a blank holds what it takes. -/
  holds : ∀ h f, s.get? h = some f → f.template.Holds f.values (· ∈ blanks h)
  /-- Multifields stand in multifield slots and nowhere else, blanks included. -/
  admits : ∀ h f, s.get? h = some f → f.template.Admits f.values
  /-- No node of a pattern tree finds a value that is not of the make it looks for. -/
  meets : ∀ h f tree, s.get? h = some f → s.patterns.tree? f.templateId = some tree →
    ∀ n ∈ tree.roots, n.Everywhere (·.Meets f.values)

theorem Schematic.conforms (schematic : s.Schematic blanks) (tallied : s.Tallied)
    (furnished : s.Furnished) : s.Conforms blanks where
  filled h f found := (schematic.admits tallied furnished found).1
  holds h f found := by
    obtain ⟨t, -, -, holds⟩ := schematic.facts h f found
    exact holds
  admits h f found := (schematic.admits tallied furnished found).2.1
  meets h f tree found := (schematic.admits tallied furnished found).2.2 tree

/-- Where a fact base that has moved on since knows the template of a builder, it is the one that the
builder was made for. -/
theorem template_of_drafts [JoinNetwork N] (reached : s₀.Reached) (path : Path s₀ s) {b : Builder}
    (drafts : b.Drafts s₀) {t : Template} (known : s.templates.get? b.templateId = some t) :
    t = b.template := by
  have tallied := reached.reachable.tallied
  have issued : b.templateId.number < s₀.templates.nextId := by
    obtain ⟨e, defined, number, -⟩ := mem_catalogue.mp drafts.known
    have issued := tallied.issued e.id (List.mem_map_of_mem defined)
    rwa [number] at issued
  have old := (ages_path path).old _ (mem_catalogue_of_get? known) issued
  have first := get?_of_mem_catalogue tallied.once old
  rw [get?_of_mem_catalogue tallied.once drafts.known] at first
  exact (Option.some.inj first).symm

/-- Builders of a fact base that has moved on since are given what their templates take, or their
templates are gone. -/
theorem drafts_suit [JoinNetwork N] (reached : s₀.Reached) (path : Path s₀ s) {b : Builder}
    (drafts : b.Drafts s₀) : b.suits s = true := by
  rw [Builder.suits, Bool.or_eq_true, Bool.and_eq_true, Bool.not_eq_true', Option.any_eq_true]
  by_cases current : b.isCurrent s = true
  · refine .inr ⟨?_, drafts.isFit⟩
    obtain ⟨t, known⟩ := Option.isSome_iff_exists.mp (Bool.and_eq_true_iff.mp current).2
    have same := template_of_drafts reached path drafts known
    exact ⟨t, known, beq_iff_eq.mpr (congrArg Template.traits same)⟩
  · exact .inl (Bool.eq_false_iff.mpr current)

end Store

/-- Now and whenever somebody looked, the stored facts go by their templates, but for the blanks in the
ledger by now and for some blanks before. -/
structure World.Fitting [JoinNetwork N] (w : World N (Memo (Book Blanks τ)) (Store N)) : Prop where
  now : w.store.Conforms w.host.notes.ledger
  before : ∀ s ∈ w.looks, ∃ blanks, s.Conforms blanks
  /-- Builders that were made for the fact base may be committed. -/
  drafts : ∀ s ∈ w.looks ++ [w.store], ∀ b : Builder, b.Drafts s → b.suits w.store = true

/-- Whatever a client and its listeners ask of a fact base, and wherever they break off, the stored
facts go by their templates. -/
theorem facts_fit_templates [JoinNetwork N] {fits : Template → Bool}
    (apt : ∀ t, fits t = true → t.Apt) {p : Keeping N Blanks τ α}
    (keeper : Keeper (schemaRules N fits) p) (config : Config) (network : N)
    (contentHash : TemplateId → List Value → UInt64) (own : τ) :
    (p.aftermath (outset (Store.fresh config network contentHash) ⟨fun _ => [], own⟩)).Fitting := by
  have seen := keeper.seen (schemaRules_upholds apt) () upheld_schematic config network contentHash
    ⟨fun _ => [], own⟩ (schematic_fresh config network contentHash)
  refine ⟨?_, fun s looked => ?_, fun s inside b drafts => ?_⟩
  · obtain ⟨_, schematic⟩ := seen.holds
    exact schematic.conforms seen.reached.reachable.tallied seen.reached.furnished
  · obtain ⟨reached, notes, _, schematic⟩ := seen.looks s (mem_looks.mp looked)
    exact ⟨notes.ledger, schematic.conforms reached.reachable.tallied reached.furnished⟩
  · rcases List.mem_append.mp inside with looked | now
    · refine drafts_suit (seen.looks s (mem_looks.mp looked)).1 ?_ drafts
      exact (List.pairwise_append.mp seen.trail.pairwise).2.2 s looked _ (List.mem_singleton_self _)
    · obtain rfl := List.mem_singleton.mp now
      exact drafts_suit seen.reached .refl drafts

/-- A lamp is copied while nobody has said how strong it is; that of another lamp is written. -/
theorem facts_fit_templates_lamp :
    let rules := schemaRules MatchCounter Template.isApt
    let hooks : Hooks MatchCounter (Memo (Book Blanks Unit)) (Store MatchCounter) :=
      fun _ _ => pure ()
    let lamp : Keeping MatchCounter Blanks Unit Unit := do
      let _ ← keep rules hooks (.defineTemplate { name := "lamp", slots := [{ name := "room" },
        { name := "watts", constraints := { types := some [.integer] }, default := .required }] })
      let _ ← keep rules hooks (.createFact "lamp")
      let _ ← keep rules hooks (.putSlot ⟨0, 0⟩ "room" (.integer 3))
      let _ ← keep rules hooks (.assertAt ⟨0, 0⟩ .tail)
      let _ ← look
      let _ ← keep rules hooks (.duplicate ⟨0, 0⟩ [(0, .integer 4)])
      let _ ← keep rules hooks (.createFact "lamp")
      let _ ← keep rules hooks (.putSlotAt ⟨2, 0⟩ 1 (.integer 60))
    let w := lamp.aftermath (outset (Store.fresh { hashFloor := 1 } {} fun _ _ => 0) ⟨fun _ => [], ()⟩)
    (∀ t, Template.isApt t = true → t.Apt) ∧
      w.Fitting ∧
      [⟨0, 0⟩, ⟨1, 0⟩, ⟨2, 0⟩].map w.host.notes.ledger = [[1], [1], []] ∧
      [⟨0, 0⟩, ⟨1, 0⟩, ⟨2, 0⟩].map (fun h => (w.store.get? h).map (·.values)) =
        [some [.integer 3, .nil], some [.integer 4, .nil], some [.nil, .integer 60]] := by
  intro rules hooks lamp w
  have idle (id : ListenerId) (e : Event) : Keeper rules (hooks id e) := .pure ()
  have keeper : Keeper rules lamp :=
    .bind (.keep idle _) fun _ => .bind (.keep idle _) fun _ => .bind (.keep idle _) fun _ =>
      .bind (.keep idle _) fun _ => .bind .look fun _ => .bind (.keep idle _) fun _ =>
        .bind (.keep idle _) fun _ => .bind (.keep idle _) fun _ => .pure ()
  have apt (t : Template) (isApt : t.isApt = true) : t.Apt := Template.apt_of_isApt isApt
  exact ⟨apt, facts_fit_templates apt keeper { hashFloor := 1 } {} (fun _ _ => 0) (), by decide +kernel,
    by decide +kernel⟩

/-- A copy holds a blank that its slot does not take, although it was not made of defaults. -/
theorem not_copies_checked :
    let hooks : Hooks MatchCounter (Memo Unit) (Store MatchCounter) := fun _ _ => pure ()
    let lamp : Process MatchCounter (Memo Unit) (Store MatchCounter) (Option (Option Handle)) := do
      let _ ← ask hooks (.defineTemplate { name := "lamp", slots := [{ name := "room" },
        { name := "watts", constraints := { types := some [.integer] }, default := .required }] })
      let made ← ask hooks (.createFact "lamp")
      let _ ← ask hooks (.putSlot ⟨0, 0⟩ "room" (.integer 3))
      let _ ← ask hooks (.assertAt ⟨0, 0⟩ .tail)
      let _ ← ask hooks (.duplicate ⟨0, 0⟩ [(0, .integer 4)])
      return made.map (·.toOption)
    let start := outset (Store.fresh { hashFloor := 1 } {} fun _ _ => 0) ()
    let w := lamp.aftermath start
    (lamp.outcome start).map (·.1) = some (some (some ⟨0, 0⟩)) ∧
      (w.store.templates.entries.all fun e => e.template.isApt) = true ∧
      ¬ ∀ h f, w.store.get? h = some f → h ≠ ⟨0, 0⟩ →
        ∀ x ∈ f.template.slots.zip f.values, x.1.check x.2 = .ok () := by
  intro hooks lamp start w
  refine ⟨by decide +kernel, by decide +kernel, fun checked => ?_⟩
  have copied : (w.store.get? ⟨1, 0⟩).any (fun f =>
      (f.template.slots.zip f.values).any fun x => !(x.1.check x.2).isOk) = true := by
    decide +kernel
  obtain ⟨f, found, refused⟩ := (Option.any_eq_true _ _).mp copied
  obtain ⟨x, inside, refused⟩ := List.any_eq_true.mp refused
  rw [checked ⟨1, 0⟩ f found (by decide) x inside] at refused
  cases refused

end FactBase
