import MarkupSpec.Proofs.Build.Steps
import MarkupSpec.Proofs.Namespace.ElementOrigins
import MarkupSpec.Proofs.Page.SpecAssembly

/-!
# Requests

What can be asked for is a new document, the nodes of a spec, or a page
(`Request`).  A request gets a build ready and does it; what getting ready and all
builds keep the request keeps (`stays_markup`).

A build for which there is no document makes nothing, so that nothing has to be known
of its target.
-/

namespace MarkupSpec

open Forest Edit Build

/-! ## Builds without a document -/

section NoDocument

variable {scene : Scene} {forest : Forest}

/-- Without a document to make nodes for no visit changes the forest. -/
theorem Visit.keeps_of_noDocument {visit : Visit}
    (noDocument : forest.isA Content.isDocument scene.document = false) :
    visit.Keeps scene (· = forest) where
  leaf spec world part isLeaf same := by
    subst same
    show Ensures (buildLeaf scene visit.place spec) world _ _
    rw [buildLeaf, MarkupSpec.ensures_bind]
    cases spec with
    | existing node =>
        show Ensures (edit (Edit.copy scene.document true node)) world _ _
        rw [ensures_edit, Edit.copy, MarkupSpec.ensures_bind, ensures_checkDocument]
        refine ⟨fun isDocument => ?_, fun _ => rfl⟩
        rw [noDocument] at isDocument
        cases isDocument
    | _ =>
        refine (addsLeaf_makeLeaf scene visit.place.path (by simp) world).mono
          (fun node after adds => ?_) fun _ _ same => same
        have isDocument := adds.1
        rw [noDocument] at isDocument
        cases isDocument
  doctype children attributes world part same := by
    subst same
    refine (readsOnly_leadingText _ _ _ _ _).stays_bind rfl fun _ _ _ same =>
      (readsOnly_identifier _ _ _ _ _).stays_bind same fun _ _ _ same =>
        (readsOnly_identifier _ _ _ _ _).stays_bind same fun systemId after _ same => ?_
    show Ensures (giveDoctype scene.document _ _ systemId) after _ _
    rw [giveDoctype, MarkupSpec.ensures_bind, ensures_edit, ensures_checkDocument, same]
    refine ⟨fun isDocument => ?_, fun _ => rfl⟩
    rw [noDocument] at isDocument
    cases isDocument
  element name attributes children world part same := by
    subst same
    refine (readsOnly_resolveElement _ _ _ _ _).stays_bind rfl fun found after _ same => ?_
    obtain ⟨near, resolution⟩ := found
    show Ensures (edit (createResolved scene.document resolution) >>= _) after _ _
    rw [MarkupSpec.ensures_bind, ensures_edit, same, ensures_createResolved]
    refine ⟨fun isDocument => ?_, fun _ => rfl⟩
    rw [noDocument] at isDocument
    cases isDocument
  opens items world part same := by
    subst same
    show Ensures (openSequence scene visit.place) world _ _
    rw [openSequence, MarkupSpec.ensures_bind]
    refine ensures_implicitParent (fun home _ => ?_) fun _ => rfl
    rw [MarkupSpec.ensures_bind, holderFor]
    split
    · rfl
    · rw [ensures_edit, ensures_create]
      refine ⟨fun isDocument => ?_, fun _ => rfl⟩
      rw [noDocument] at isDocument
      cases isDocument
  closes items world inside opened budget last built part same opens run same' := by
    subst same
    show Ensures (closeSequence _ _ last) built _ _
    unfold closeSequence
    split
    · rename_i attaches
      have beside : visit.place.target.isUnder = false := by
        simpa using (Bool.and_eq_true_iff.mp attaches).2
      -- The fragment was made, so there is a document.
      have isDocument :=
        (((grows_openSequence scene visit.place world).of_ok opens).2.2.2 beside).1
      rw [noDocument] at isDocument
      cases isDocument
    · exact same'

/-- Without a document to make nodes for a build leaves the forest as it is. -/
theorem stays_buildWithin_of_noDocument {world : World}
    (noDocument : world.forest.isA Content.isDocument scene.document = false) (budget : Nat)
    (value : Value) (place : Place) :
    Stays (· = world.forest) (buildWithin scene budget value place) world :=
  keeps_buildWithin budget { value, place, world }
    (fun _ _ => Visit.keeps_of_noDocument noDocument) rfl

end NoDocument

/-! ## Requests -/

/-- What can be asked for: a new document, the nodes of a spec, or a page. -/
inductive Request where
  | document (version : Value)
  | markup (settings : Settings) (spec document : Value) (keywords : Keywords) (arguments : Value)
  | page (page : Page) (settings : Settings)

namespace Request

/-- Do what is asked for. -/
def run : Request → Build Value
  | .document version => return .node (← newDocument version)
  | .markup settings spec root keywords arguments =>
      MarkupSpec.markup settings spec root keywords arguments
  | .page sheet settings => sheet.build settings

/-- The world that a request leaves behind, whether it ends well or fails. -/
def leaves (request : Request) (world : World) : World :=
  match request.run world with
  | .ok _ after => after
  | .error _ after => after

end Request

/-- The build that is got ready for a place that is given by keyword, and the world it
begins in. -/
def ready? (settings : Settings) (document : Value) (keywords : Keywords) (arguments : Value)
    (world : World) : Option (Task × World) :=
  match Mode.choose keywords with
  | .error _ => none
  | .ok where? =>
      match prepare settings where? document arguments world with
      | .ok task start => some (task, start)
      | .error _ _ => none

/-! ## What a request keeps -/

section Keeps

variable {I : Forest → Prop} {world : World} {settings : Settings} {spec document arguments : Value}

theorem stays_newDocument
    (adds : ∀ (forest : Forest) (version : Value), I forest →
      I (forest.add { content := .document version none, owner := none }))
    (holds : I world.forest) (version : Value) :
    Stays I (Request.document version).run world := by
  show Ensures (newDocument version >>= fun id => pure (Value.node id)) world _ _
  rw [MarkupSpec.ensures_bind, newDocument, ensures_edit]
  exact adds _ version holds

theorem stays_rootDocument
    (adds : ∀ (forest : Forest) (version : Value), I forest →
      I (forest.add { content := .document version none, owner := none }))
    (holds : I world.forest) (settings : Settings) (document : Value) :
    Stays I (rootDocument settings document) world := by
  show Ensures (rootDocument settings document) world _ _
  rw [rootDocument]
  split
  · rw [MarkupSpec.ensures_bind, ensures_edit]
    exact adds _ _ holds
  · exact holds

/-- A build is got ready with a place for its nodes.  If there is no document, the
reference may be missing. -/
theorem stays_prepare {where? : Option (Mode × Value)}
    (adds : ∀ (forest : Forest) (version : Value), I forest →
      I (forest.add { content := .document version none, owner := none }))
    (holds : I world.forest)
    (there : ∀ choice ∈ where?, ∀ id ∈ choice.2.node?, id < world.forest.size) :
    Ensures (prepare settings where? document arguments) world
      (fun task start => I start.forest ∧ task.scene.settings = settings ∧
        (start.forest.isA Content.isDocument task.scene.document →
          task.target.reference < start.forest.size) ∧
        ∃ home, task.target.home? start.forest = some home)
      fun _ after => I after.forest := by
  rw [prepare]
  refine (readsOnly_spread arguments).ensures_bind (fun arguments after _ same => ?_)
    fun _ after same => same ▸ holds
  have holds : I after.forest := same ▸ holds
  cases where? with
  | none =>
      rw [MarkupSpec.ensures_bind]
      refine (stays_rootDocument adds holds settings document).mono (fun root made holds => ?_)
        fun _ _ holds => holds
      refine (readsOnly_nodeOrNone root).ensures_bind (fun id final _ same => ?_)
        fun _ final same => same ▸ holds
      exact ⟨same ▸ holds, rfl, fun isDocument => lt_size_of_isA isDocument, id, rfl⟩
  | some choice =>
      obtain ⟨mode, reference⟩ := choice
      cases reference with
      | node reference =>
          have inside : reference < world.forest.size :=
            there (mode, .node reference) rfl reference rfl
          refine (readsOnly_documentFor document reference).ensures_bind
            (fun id final _ same' => ?_) fun _ final same => same ▸ holds
          have holds : I final.forest := same' ▸ holds
          rw [MarkupSpec.ensures_bind, ensures_discard]
          refine ensures_implicitParent (fun home isHome => ?_) fun _ => holds
          refine ⟨holds, rfl, fun _ => ?_, home, isHome⟩
          rw [same', same]
          exact inside
      | _ =>
          refine (readsOnly_quoted _).ensures_bind (fun _ final _ same => ?_)
            fun _ _ same => same ▸ holds
          show I final.forest
          rw [same]
          exact holds

/-- What getting ready and the build keep the whole of it keeps. -/
theorem stays_compile {where? : Option (Mode × Value)}
    (adds : ∀ (forest : Forest) (version : Value), I forest →
      I (forest.add { content := .document version none, owner := none }))
    (holds : I world.forest)
    (there : ∀ choice ∈ where?, ∀ id ∈ choice.2.node?, id < world.forest.size)
    (builds : ∀ task start, prepare settings where? document arguments world = .ok task start →
      I start.forest → task.target.reference < start.forest.size →
      ∀ home, task.target.home? start.forest = some home →
      Stays I (buildWithin task.scene task.scene.settings.budget spec { target := task.target })
        start) :
    Stays I (compile settings spec where? document arguments) world := by
  have ready : Ensures (prepare settings where? document arguments) world _ _ :=
    stays_prepare adds holds there
  show Ensures (compile settings spec where? document arguments) world _ _
  rw [compile, compileWithin, MarkupSpec.ensures_bind]
  refine Ensures.of_run (fun task start prepared => ?_) fun _ _ prepared => ready.of_error prepared
  obtain ⟨holds, rfl, inside, home, isHome⟩ := ready.of_ok prepared
  rw [MarkupSpec.ensures_bind]
  have built : Stays I (buildWithin task.scene task.scene.settings.budget spec
      { target := task.target }) start := by
    cases isDocument : start.forest.isA Content.isDocument task.scene.document with
    | false =>
        exact (stays_buildWithin_of_noDocument isDocument _ spec _).mono
          (fun _ _ same => same ▸ holds) fun _ _ same => same ▸ holds
    | true => exact builds task start prepared holds (inside isDocument) home isHome
  exact built.mono (fun _ _ holds => holds) fun _ _ holds => holds

/-- Keywords that a place is chosen from give no other. -/
theorem given_of_choose {keywords : Keywords} {where? : Option (Mode × Value)}
    (chosen : Mode.choose keywords = .ok where?) : keywords.given = where?.toList := by
  unfold Mode.choose at chosen
  split at chosen
  · rename_i none
    cases chosen
    exact none
  · rename_i single
    cases chosen
    exact single
  · cases chosen

/-- The keyword that is chosen is one that is given. -/
theorem mem_given_of_choose {keywords : Keywords} {where? : Option (Mode × Value)}
    (chosen : Mode.choose keywords = .ok where?) : ∀ choice ∈ where?, choice ∈ keywords.given := by
  intro choice isChoice
  rw [given_of_choose chosen]
  exact Option.mem_toList.mpr isChoice

/-- What is asked for by keyword keeps what getting ready and the build keep. -/
theorem stays_markup {keywords : Keywords}
    (adds : ∀ (forest : Forest) (version : Value), I forest →
      I (forest.add { content := .document version none, owner := none }))
    (holds : I world.forest)
    (there : ∀ entry ∈ keywords.given, ∀ id ∈ entry.2.node?, id < world.forest.size)
    (builds : ∀ task start, (task, start) ∈ ready? settings document keywords arguments world →
      I start.forest → task.target.reference < start.forest.size →
      ∀ home, task.target.home? start.forest = some home →
      Stays I (buildWithin task.scene task.scene.settings.budget spec { target := task.target })
        start) :
    Stays I (markup settings spec document keywords arguments) world := by
  show Ensures (markup settings spec document keywords arguments) world _ _
  rw [markup]
  cases chosen : Mode.choose keywords with
  | error cause => exact holds
  | ok where? =>
      refine stays_compile adds holds
        (fun choice isChoice => there choice (mem_given_of_choose chosen choice isChoice))
        fun task start prepared => builds task start ?_
      simp only [ready?, chosen, prepared]
      rfl

end Keeps

end MarkupSpec
