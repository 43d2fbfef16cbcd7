import MarkupSpec.Proofs.Build.OutermostNodes

/-!
# Sequences beside a node are built as a whole or not at all

What is built for a sequence beside a node comes into a new fragment first.  If that
fails at any place, all the nodes that were there before are as they were, and
their links too (`compile_atomic`).  Once all is built nothing can fail any more:
the home holds whatever the fragment holds, and the reference is still one of its
children.

This holds for functions too that return a sequence in the end (`Visit.leads`).
-/

namespace MarkupSpec

open Forest Edit Build

/-- Is the value a sequence, or a function that returns one in the end?  What fails before
that is known may be either. -/
def Visit.leads (scene : Scene) : Nat → Visit → Bool
  | 0, _ => true
  | budget + 1, visit =>
      match visit.part? scene with
      | none => true
      | some (.sequence _, _) => true
      | some (.callable function, world) =>
          match function.call scene.arguments world with
          | .ok value after => leads scene budget (visit.called value after)
          | .error _ _ => true
      | _ => false
termination_by structural budget => budget

/-- Does the visit meet a doctype? -/
def Visit.meetsDoctype (scene : Scene) (visit : Visit) : Bool :=
  match visit.part? scene with
  | some (.doctype .., _) => true
  | _ => false

section Members

variable {origin : Forest} {scene : Scene} {budget : Nat} {enclosing : Enclosing} {inside : Place}

/-- A build that meets no doctype weaves its nodes into new ones. -/
theorem Forest.Intact.stays_of_noDoctype (start : Visit) (intact : Intact origin start.world.forest)
    (within : start.place.target.Within origin start.world.forest)
    (noDoctype : ∀ visit ∈ visitsWithin scene budget start, visit.meetsDoctype scene = false) :
    Stays (Intact origin) (buildWithin scene budget start.value start.place) start.world :=
  intact.stays_buildWithin start within fun visit among children attributes world part => by
    have refused := noDoctype visit among
    simp [Visit.meetsDoctype, part] at refused

/-- So do the builds of the members of a sequence. -/
theorem Forest.Intact.stays_buildMembers : ∀ (items : List Value) (index : Nat)
    (last : Option NodeId) (world : World), Intact origin world.forest →
    inside.target.Within origin world.forest →
    (∀ visit ∈ memberVisits (visitsWithin scene budget) (buildWithin scene budget) enclosing inside
      index world items, visit.meetsDoctype scene = false) →
    Stays (Intact origin) (buildMembers (buildWithin scene budget) inside index last items) world
  | [], _, _, _, intact, _, _ => intact
  | item :: rest, index, last, world, intact, within, noDoctype => by
      rw [memberVisits] at noDoctype
      let member : Visit :=
        { value := item, place := inside.deeper (memberSegment index), world, enclosing }
      have here : Stays (Intact origin) (buildWithin scene budget member.value member.place) world :=
        intact.stays_of_noDoctype member within fun visit among =>
          noDoctype visit (List.mem_append_left _ among)
      show Ensures (buildMembers _ inside index last (item :: rest)) world _ _
      rw [buildMembers, MarkupSpec.ensures_bind]
      refine Ensures.of_run (fun node after run => ?_) fun cause after run => here.of_error run
      have grew := (grows_buildWithin scene budget member.value member.place world).of_ok run
      rw [run] at noDoctype
      exact Intact.stays_buildMembers rest (index + 1) (node <|> last) after (here.of_ok run)
        (within.later grew.size) fun visit among => noDoctype visit (List.mem_append_right _ among)

end Members

section Atomic

variable {scene : Scene} {before : Forest} {home : NodeId} {target : Target}

/-- When all members are built, their fragment is attached without fail. -/
theorem Target.Site.ensures_closeSequence {built : World} {last : Option NodeId}
    (site : target.Site before home) (beside : target.isUnder = false)
    (intact : Intact before built.forest)
    (isFragment : built.forest.isA Content.isFragment before.size) :
    Ensures (closeSequence target before.size last) built (fun _ _ => True)
      fun _ after => Intact before after.forest := by
  unfold closeSequence
  split
  · have there := site.reference beside
    have there' : built.forest.parent? target.reference = some home :=
      (intact.parent _ (lt_size_of_parent? there)).trans there
    have noDocument : built.forest.isA Content.isDocument home = false := by
      rw [isA, intact.content home site.inside]
      exact site.noDocument
    have differ : before.size ≠ home := (Nat.ne_of_lt site.inside).symm
    refine ensures_attach (fun _ after _ same => ?_) fun _ after same => same ▸ intact
    rw [ensures_edit, same]
    refine (placed_fragment differ intact.agrees isFragment
      ⟨noDocument, fun member among => ?_⟩ (intact.linked _ (Nat.le_refl _)) beside there'
      ((intact.appends site.inside).linked site.linked)).mono (fun _ _ _ => trivial)
      fun _ _ impossible => impossible.elim
    exact (intact.agrees.fits _ home there').of_fragment noDocument isFragment
      (intact.agrees.fits member _ (intact.agrees.parent _ member among))
  · trivial

/-- A build beside a node that comes to a sequence leaves all there was alone if it
fails. -/
theorem Visit.leads_atomic : ∀ (budget : Nat) (start : Visit), start.leads scene budget →
    start.place.target.isUnder = false →
    start.place.target.Site start.world.forest home →
    (∀ visit ∈ visitsWithin scene budget start, visit.meetsDoctype scene = false) →
    Ensures (buildWithin scene budget start.value start.place) start.world (fun _ _ => True)
      fun _ after => Intact start.world.forest after.forest
  | 0, _, _, _, site, _ => Intact.refl site.agrees
  | budget + 1, start, leads, beside, site, noDoctype => by
      have unchanged {after : World} (same : after.forest = start.world.forest) :
          Intact start.world.forest after.forest := by
        rw [same]
        exact Intact.refl site.agrees
      rw [visitsWithin] at noDoctype
      cases part : start.part? scene with
      | none =>
          exact (Visit.ensures_buildWithin_none part budget).mono (fun _ _ _ => trivial)
            fun _ _ same => unchanged same
      | some found =>
          obtain ⟨spec, world⟩ := found
          have same := Visit.forest_of_part? part
          have inner := fun visit among => noDoctype visit (List.mem_cons_of_mem start among)
          rw [part] at inner
          rw [Visit.leads, part] at leads
          rw [Visit.ensures_buildWithin part]
          cases spec with
          | sequence items =>
              dsimp only [innerVisits] at inner
              have opens : Stays (Intact start.world.forest) (openSequence scene start.place) world :=
                intact_openSequence (unchanged same) start.place
              show Ensures (buildSequence scene _ start.place items) world _ _
              rw [buildSequence, MarkupSpec.ensures_bind]
              refine Ensures.of_run (fun inside opened run => ?_) fun _ _ run => opens.of_error run
              rw [run] at inner
              obtain ⟨-, ⟨isUnder, -⟩ | ⟨-, isInside, added⟩⟩ :=
                (opens_openSequence scene start.place world).of_ok run
              · rw [beside] at isUnder
                cases isUnder
              rw [same] at isInside added
              have within : inside.target.Within start.world.forest opened.forest := by
                rw [isInside, added]
                exact ⟨Nat.le_refl _, by simp [Target.under]⟩
              have members := Intact.stays_buildMembers items 0 none opened (opens.of_ok run) within
                inner
              rw [MarkupSpec.ensures_bind]
              refine Ensures.of_run (fun last built run' => ?_) fun _ _ run' => members.of_error run'
              have grown := (grows_buildMembers (grows_buildWithin scene budget) inside items 0 none
                opened).of_ok run'
              have isFragment : built.forest.isA Content.isFragment start.world.forest.size := by
                rw [grown.isA_of_lt Content.isFragment_lasting (by rw [added]; simp), added]
                simp [isA, content?, Content.isFragment]
              rw [MarkupSpec.ensures_bind, isInside]
              exact (site.ensures_closeSequence beside (members.of_ok run') isFragment).mono
                (fun _ _ _ => trivial) fun _ _ intact => intact
          | callable function =>
              dsimp only [innerVisits] at inner
              show Ensures (function.call scene.arguments >>= fun value =>
                buildWithin scene budget value (start.place.deeper "()")) world _ _
              refine (Function.readsOnly_call function _).ensures_bind (fun value after run same' => ?_)
                fun _ after same' => unchanged (same'.trans same)
              have isSame : after.forest = start.world.forest := same'.trans same
              rw [run] at inner
              dsimp only at leads
              rw [run] at leads
              have atomic := Visit.leads_atomic budget (start.called value after) leads beside
                (show start.place.target.Site after.forest home from isSame ▸ site) inner
              rw [show (start.called value after).world.forest = start.world.forest from isSame]
                at atomic
              exact atomic
          | _ => cases leads

end Atomic

section Compile

variable {settings : Settings} {spec document arguments : Value} {mode : Mode} {reference : NodeId}
  {before after : World} {cause : Failure} {home : NodeId}

/-- Getting a build ready that goes by a node changes nothing. -/
theorem prepare_node (settings : Settings) (mode : Mode) (reference : NodeId)
    (document arguments : Value) (before : World) :
    Ensures (prepare settings (some (mode, .node reference)) document arguments) before
      (fun task start => start.forest = before.forest ∧ task.scene.settings = settings ∧
        task.target = { mode, reference })
      fun _ after => after.forest = before.forest := by
  rw [prepare]
  refine (readsOnly_spread arguments).ensures_bind (fun arguments after _ same => ?_)
    fun _ _ same => same
  refine (readsOnly_documentFor document reference).ensures_bind (fun id final _ same' => ?_)
    fun _ _ same' => same'.trans same
  rw [MarkupSpec.ensures_bind, ensures_discard]
  exact ensures_implicitParent (fun _ _ => ⟨same'.trans same, rfl, rfl⟩) fun _ => same'.trans same

/-- A build of a sequence beside a node that fails, wherever that is, leaves all the nodes
that were there as they were, with the same children, parents and siblings. -/
theorem compile_atomic (beside : mode ≠ .under)
    (isHome : before.forest.parent? reference = some home)
    (kind : before.forest.isA Content.isElement home ∨ before.forest.isA Content.isFragment home)
    (agrees : before.forest.Agrees) (linked : before.forest.Linked home)
    (leads : ∀ task start,
      prepare settings (some (mode, .node reference)) document arguments before = .ok task start →
      Visit.leads task.scene settings.budget
        { value := spec, place := { target := task.target }, world := start } ∧
      ∀ visit ∈ task.visits spec start, visit.meetsDoctype task.scene = false)
    (run : compile settings spec (some (mode, .node reference)) document arguments before =
      .error cause after) :
    ∀ id < before.forest.size,
      after.forest.content? id = before.forest.content? id ∧
      after.forest.children id = before.forest.children id ∧
      after.forest.parent? id = before.forest.parent? id ∧
      after.forest.next? id = before.forest.next? id ∧
      after.forest.previous? id = before.forest.previous? id := by
  have atomic : Ensures
      (compile settings spec (some (mode, .node reference)) document arguments) before
      (fun _ _ => True) fun _ after => Intact before.forest after.forest := by
    have ready := prepare_node settings mode reference document arguments before
    rw [compile, compileWithin, MarkupSpec.ensures_bind]
    refine Ensures.of_run (fun task start prepared => ?_) fun _ _ prepared => ?_
    · obtain ⟨leads, noDoctype⟩ := leads task start prepared
      obtain ⟨same, rfl, isTarget⟩ := ready.of_ok prepared
      have notUnder : task.target.isUnder = false := by
        rw [isTarget]
        simpa [Target.isUnder] using beside
      have site : task.target.Site start.forest home :=
        { isHome := by
            rw [Target.home?, notUnder, if_neg Bool.false_ne_true, same, isTarget]
            exact isHome
          inside := same ▸ (agrees.fits reference home isHome).homeInside
          noDocument := same ▸ kind.elim isDocument_of_isElement isDocument_of_isFragment
          agrees := same ▸ agrees
          linked := same ▸ linked }
      have built := Visit.leads_atomic _ _ leads notUnder site noDoctype
      rw [show World.forest _ = before.forest from same] at built
      rw [MarkupSpec.ensures_bind]
      exact built.mono (fun _ _ _ => trivial) fun _ _ intact => intact
    · rw [ready.of_error prepared]
      exact Intact.refl agrees
  have intact := atomic.of_error run
  exact fun id known => ⟨intact.content id known, intact.children id known, intact.parent id known,
    intact.next id known, intact.previous id known⟩

end Compile

/-- A function that returns an element and another one, inside of which a function
fails. -/
def failing : Value :=
  .function
    { id := 0, label := none
      body := .list
        [.map [(.null, .text "b")],
          .map [(.null, .list [.text "c", .function none (.fail "stop")])]] }

/-- The first of two children stays where it is, although what should replace it was
built in part. -/
theorem compile_atomic_failing :
    let world := worldAfter {} linkedRequests
    ∃ cause after,
      compile {} failing (some (.replacing, .node 4)) .null (.list []) world = .error cause after ∧
      world.forest.size + 3 = after.forest.size ∧ after.forest.children 1 = [4, 5] ∧
      after.forest.parent? 4 = some 1 ∧ after.forest.next? 4 = some 5 := by
  intro world
  have intact : Intact {} world.forest :=
    ((Reached.start rfl).requests (by decide +kernel)).intact
  have ready : endsIn (prepare {} (some (.replacing, .node 4)) .null (.list [])) world
      (fun task start => Visit.leads task.scene ({} : Settings).budget
          { value := failing, place := { target := task.target }, world := start } ∧
        ∀ visit ∈ task.visits failing start, visit.meetsDoctype task.scene = false)
      fun _ _ => False := by decide +kernel
  have fails : endsIn (compile {} failing (some (.replacing, .node 4)) .null (.list [])) world
      (fun _ _ => False) fun _ after => world.forest.size + 3 = after.forest.size := by
    decide +kernel
  cases run : compile {} failing (some (.replacing, .node 4)) .null (.list []) world with
  | ok => exact (done_of_endsIn fails run).elim
  | error cause after =>
      have unchanged := compile_atomic (by decide) (by decide +kernel) (.inl (by decide +kernel))
        intact.agrees (intact.linked 1 (Nat.zero_le 1))
        (fun _ _ => done_of_endsIn ready) run
      obtain ⟨-, children, -⟩ := unchanged 1 (by decide +kernel)
      obtain ⟨-, -, parent, next, -⟩ := unchanged 4 (by decide +kernel)
      have size := failed_of_endsIn fails run
      refine ⟨cause, after, rfl, size, ?_, ?_, ?_⟩
      · rw [children]
        decide +kernel
      · rw [parent]
        decide +kernel
      · rw [next]
        decide +kernel

end MarkupSpec
