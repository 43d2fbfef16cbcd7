import MarkupSpec.Proofs.Build.EvenBuilds
import MarkupSpec.Proofs.Build.NodeOwners
import MarkupSpec.Proofs.Position.PairedBuilds
import MarkupSpec.Proofs.Session.Prologs

/-!
# A place is refused before anything is built

Keywords name no place if there are several, if the value of the one is no node, or if it goes
beside a node that has no parent (`Keywords.Misplaced`).  A request with such keywords fails
for that, and leaves the forest and the log as they are (`markup_refused`).

Whether there is a place is looked at once more whenever nodes are attached.  That never fails
late, since the reference has its place until then: nothing that is built before is put
elsewhere than under new nodes (`Forest.Steady`).  There is one way out of that.  A document
takes the doctypes of a spec in the place of the one that it remembers, and if the reference is
that one it is gone when the rest is attached (`refusal_late`).  Any other request that is
refused leaves the forest and the log as they were (`markup_refusal`).
-/

namespace MarkupSpec

open Forest Edit Build

/-! ## Refusals -/

/-- Does the failure say that the nodes have no place to go to? -/
def Failure.isRefusal (cause : Failure) : Bool :=
  cause.kind == .spec .severalPlaces || cause.kind == .spec .badReference

/-- The step did not fail for want of a place. -/
def Unrefused (cause : Failure) (_ : World) : Prop := cause.isRefusal = false

/-- A step that leaves the forest alone and does not ask for a place. -/
def Plain {α : Type} (step : Build α) : Prop :=
  ∀ world, Ensures step world (fun _ after => after.forest = world.forest) Unrefused

section Plain

variable {α β : Type} {world : World}

theorem Plain.ensures_bind {first : Build α} {next : α → Build β} {done : β → World → Prop}
    (plain : Plain first) (onNext : ∀ result after, after.forest = world.forest →
      Ensures (next result) after done Unrefused) :
    Ensures (first >>= next) world done Unrefused := by
  rw [MarkupSpec.ensures_bind]
  exact (plain world).mono (fun result after same => onNext result after same)
    fun _ _ other => other

theorem Plain.bind {first : Build α} {next : α → Build β} (onFirst : Plain first)
    (onNext : ∀ result, Plain (next result)) : Plain (first >>= next) := by
  intro world
  refine onFirst.ensures_bind fun result after same => ?_
  exact (onNext result after).mono (fun _ _ same' => same'.trans same) fun _ _ other => other

theorem plain_pure (result : α) : Plain (pure result : Build α) := fun _ => rfl

theorem plain_throw {cause : Failure} (other : cause.isRefusal = false) :
    Plain (throw cause : Build α) := fun _ => other

/-- An edit does not ask for a place. -/
theorem unrefused_edit (step : Edit α) (world : World) :
    Ensures (edit step) world (fun _ _ => True) Unrefused := by
  rw [ensures_edit]
  refine Ensures.of_run (fun _ _ _ => trivial) fun cause _ _ => ?_
  cases cause with
  | badAttribute cause => cases cause <;> rfl
  | _ => rfl

/-- Terms on which a run is compared with itself, which does not ask for a place. -/
def unrefusing : Likeness Failure World where
  excuse := fun _ => False
  causes := fun cause _ => cause.isRefusal = false
  states := fun world world' => ∃ notices, world' = { world with notices }

theorem plain_of_likewise {step : Build α} {R : α → Prop} (reads : ReadsOnly step)
    (likewise : Likewise unrefusing R step step) : Plain step := by
  intro world
  refine Ensures.of_run (fun result after run => reads.forest_of_ok run) fun cause after run => ?_
  have echoes := likewise world world ⟨_, rfl⟩
  rw [run] at echoes
  cases echoes with
  | failed other _ => exact other
  | excused excuse => exact excuse.elim

theorem likewise_named_unrefusing (name : String) (walk : List Walk) :
    Likewise unrefusing Anything (named name walk) (named name walk) := by
  refine Echo.bind_get ?_
  rintro world _ ⟨notices, rfl⟩
  dsimp only
  generalize world.names.lookup name = found
  split
  · exact .failed rfl ⟨_, rfl⟩
  · exact .ok ⟨rfl, trivial⟩ ⟨_, rfl⟩
  · have looks : Echo unrefusing (fun found found' => found' = found) Build.forest Build.forest := by
      rintro world _ ⟨notices, rfl⟩
      exact .ok rfl ⟨_, rfl⟩
    refine looks.bind (fun found found' same => ?_) world _ ⟨_, rfl⟩
    subst found'
    generalize found.walk? _ _ = reached
    cases reached with
    | none => exact Echo.throw rfl
    | some id => exact likewise_pure trivial
  · exact .failed rfl ⟨_, rfl⟩

/-- No value asks for a place. -/
theorem kindred_unrefusing : Kindred unrefusing Anything Anything where
  inherited :=
    { list := iff_of_true trivial fun _ _ => trivial
      tuple := iff_of_true trivial fun _ _ => trivial
      set := iff_of_true trivial fun _ _ => trivial
      map := iff_of_true trivial fun _ _ => ⟨trivial, trivial⟩
      bare := fun _ => trivial }
  causes := by
    intro cause cause' _ ofValue
    show (cause.kind == .spec .severalPlaces || cause.kind == .spec .badReference) = false
    cases isKind : cause.kind with
    | spec kind =>
        rw [isKind] at ofValue
        cases kind <;> first | rfl | cases ofValue
    | _ => rfl
  quoted := by
    rintro world _ ⟨_, rfl⟩ _ _
    rfl
  note := by
    rintro world _ ⟨_, rfl⟩ _ _
    exact ⟨_, rfl⟩
  log := by
    rintro world _ ⟨_, rfl⟩ _ _
    exact ⟨_, rfl⟩
  nextId := by
    rintro world _ ⟨_, rfl⟩
    exact ⟨rfl, fun _ => ⟨_, rfl⟩⟩
  remaining := by
    rintro world _ _ ⟨_, rfl⟩ _
    exact ⟨rfl, fun _ _ => trivial⟩
  setRemaining := by
    rintro world _ _ _ ⟨_, rfl⟩ _ _
    exact ⟨_, rfl⟩
  newStream := by
    rintro world _ _ ⟨_, rfl⟩ _
    exact ⟨rfl, trivial, _, rfl⟩
  named := fun _ => likewise_named_unrefusing _ _
  function := Iff.rfl
  parts := fun _ _ _ => trivial

end Plain

/-! ## Steps that do not ask for a place -/

section Steps

variable (scene : Scene) {path : List String} {spec : Spec} {children : List Value}
  {attributes : RawAttributes}

theorem plain_describe : Plain describe := fun _ => rfl

theorem plain_specContext (operation : String) : Plain (specContext spec path operation) :=
  fun _ => rfl

theorem plain_readPart (settings : Settings) (value : Value) (place : Place) :
    Plain (readPart settings value place) := by
  refine plain_of_likewise (readsOnly_readPart settings value place) (R := Anything) ?_
  refine (kindred_unrefusing.likewise_readPart ?_ trivial).mono fun _ _ => trivial
  unfold checkDepth
  split
  · exact likewise_pure trivial
  · split
    · exact (kindred_unrefusing.likewise_quoted trivial).bind fun _ _ => Echo.throw rfl
    · exact likewise_pure trivial

theorem plain_call (function : Function) (arguments : List Value) :
    Plain (function.call arguments) :=
  plain_of_likewise (function.readsOnly_call arguments)
    (kindred_unrefusing.likewise_call (fun _ _ => trivial) trivial)

theorem plain_flatten (arguments : List Value) (value : Value) : Plain (flatten arguments value) :=
  plain_of_likewise (readsOnly_flatten arguments value)
    (kindred_unrefusing.likewise_flatten (fun _ _ => trivial) trivial)

theorem plain_scopeAt : ∀ nodes : List NodeId, Plain (scopeAt nodes)
  | [] => plain_pure _
  | node :: behind => by
      have looks : Plain (edit (discard (Edit.look node))) := by
        intro world
        refine ((unrefused_edit _ world).and (?_ : Ensures _ world
          (fun _ after => after.forest = world.forest) fun _ _ => True)).mono
          (fun _ _ ends => ends.2) fun _ _ ends => ends.1
        rw [ensures_edit, MarkupSpec.ensures_discard, ensures_look]
        exact ⟨fun _ _ => rfl, fun _ => trivial⟩
      exact looks.bind fun _ => Plain.bind (fun _ => rfl) fun forest =>
        (plain_scopeAt behind).bind fun _ => plain_pure _

theorem plain_resolve (name : String) (nodes : List NodeId) (arguments : List Value)
    (context : Option ErrorContext) (level : ErrorLevel) :
    Plain (resolve name attributes nodes arguments context level) := by
  have flattens : Plain (flattenAttributes pure arguments attributes) :=
    plain_of_likewise (readsOnly_flattenAttributes arguments attributes)
      (kindred_unrefusing.likewise_flattenAttributes (fun _ _ => trivial) attributes
        fun _ _ => trivial)
  refine flattens.bind fun flat => ?_
  have ends (scope : List (String × String)) :
      Plain (resolutionOr name context level (resolveIn scope name (sortAttributes flat))) := by
    unfold resolutionOr
    split
    · exact plain_pure _
    · exact plain_throw rfl
  unfold resolveFlat
  dsimp only
  split
  · exact ends []
  · exact (plain_scopeAt nodes).bind ends

theorem plain_childrenText : Plain (childrenText scene children) :=
  plain_of_likewise (readsOnly_childrenText scene children)
    (kindred_unrefusing.likewise_childrenText ⟨rfl, rfl⟩ (fun _ _ => trivial) fun _ _ => trivial)

theorem plain_leadingText (kind : SpecialKind) :
    Plain (leadingText scene kind spec path children) :=
  plain_of_likewise (readsOnly_leadingText scene kind spec path children)
    (kindred_unrefusing.likewise_leadingText ⟨rfl, rfl⟩ (fun _ _ => trivial) kind
      fun _ _ => trivial)

theorem plain_identifier (index : Nat) (key : String) :
    Plain (identifier scene children index key attributes) :=
  plain_of_likewise (readsOnly_identifier scene children index key attributes)
    (kindred_unrefusing.likewise_identifier ⟨rfl, rfl⟩ (fun _ _ => trivial) index key
      (fun _ _ => trivial) fun _ _ => trivial)

theorem plain_pseudoAttributes (attributes : RawAttributes) :
    Plain (pseudoAttributes scene attributes) :=
  plain_of_likewise (readsOnly_pseudoAttributes scene attributes)
    (kindred_unrefusing.likewise_pseudoAttributes ⟨rfl, rfl⟩ (fun _ _ => trivial)
      fun _ _ => trivial)

end Steps

/-! ## Steps at a place that there is -/

section Building

variable {scene : Scene} {place : Place} {target : Target} {home : NodeId} {world : World}
  {path : List String} {spec : Spec} {children : List Value} {attributes : RawAttributes}

/-- The target has a home: it goes under a node, or beside one that has a parent. -/
abbrev Target.Housed (target : Target) (forest : Forest) : Prop :=
  ∃ home, target.home? forest = some home

theorem Target.housed_of_isUnder (isUnder : target.isUnder) (forest : Forest) :
    target.Housed forest := ⟨_, if_pos isUnder⟩

/-- Old nodes keep their parents, and so does the target keep its home. -/
theorem Target.Housed.intact {before after : Forest} (housed : target.Housed before)
    (intact : Intact before after) : target.Housed after := by
  obtain ⟨home, isHome⟩ := housed
  refine ⟨home, ?_⟩
  unfold home? at isHome ⊢
  split
  · rename_i isUnder
    rwa [if_pos isUnder] at isHome
  · rename_i beside
    rw [if_neg beside] at isHome
    rw [intact.parent _ (lt_size_of_parent? isHome), isHome]

theorem unrefused_attach (housed : target.Housed world.forest) (node : NodeId) :
    Ensures (attach target node) world (fun _ _ => True) Unrefused := by
  obtain ⟨home, isHome⟩ := housed
  exact ensures_attach_at isHome fun after _ _ => unrefused_edit _ after

theorem unrefused_resolveElement (housed : place.target.Housed world.forest) (name : Value) :
    Ensures (resolveElement scene place spec name attributes) world
      (fun _ after => after.forest = world.forest) Unrefused := by
  obtain ⟨home, isHome⟩ := housed
  refine (plain_specContext _).ensures_bind fun context later same => ?_
  refine (plain_flatten _ _).ensures_bind fun text later' same' => ?_
  have same := same'.trans same
  cases text with
  | none => rfl
  | some text =>
      dsimp only
      rw [← same] at isHome
      rw [MarkupSpec.ensures_bind, Ensures, Place.nearest_eq isHome]
      refine (plain_resolve text _ _ _ _).ensures_bind fun _ _ last => ?_
      exact last.trans same

theorem unrefused_makeElement (housed : place.target.Housed world.forest) (name : Value) :
    Ensures (makeElement scene place spec name attributes) world
      (fun made _ => made.inside.target.isUnder) Unrefused := by
  rw [makeElement, MarkupSpec.ensures_bind]
  refine (unrefused_resolveElement housed name).mono (fun found later same => ?_)
    fun _ _ other => other
  obtain ⟨near, resolution⟩ := found
  have creates : Ensures (edit (createResolved scene.document resolution)) later
      (fun _ after => place.target.Housed after.forest) fun _ _ => True := by
    rw [ensures_edit, ensures_createResolved, same]
    refine ⟨fun _ => ?_, fun _ => trivial⟩
    split
    · unfold Target.Housed Target.home? at housed ⊢
      simpa only [parent?_add] using housed
    · trivial
  rw [MarkupSpec.ensures_bind]
  refine ((unrefused_edit _ later).and creates).mono (fun element made ends => ?_)
    fun _ _ ends => ends.1
  rw [MarkupSpec.ensures_bind]
  exact (unrefused_attach ends.2 element).mono (fun _ _ _ => rfl) fun _ _ other => other

theorem unrefused_makeLeaf :
    Ensures (makeLeaf scene path spec) world (fun _ _ => True) Unrefused := by
  have creates (content : Content) (world : World) :
      Ensures (edit (Edit.create scene.document content)) world (fun _ _ => True) Unrefused :=
    unrefused_edit _ world
  unfold makeLeaf
  split
  · exact (plain_childrenText scene).ensures_bind fun _ later _ => creates _ later
  · exact (plain_childrenText scene).ensures_bind fun _ later _ => creates _ later
  · refine (plain_leadingText scene _).ensures_bind fun _ _ _ => ?_
    dsimp only
    split
    · exact (plain_pseudoAttributes scene _).ensures_bind fun _ later _ => creates _ later
    · exact (plain_childrenText scene).ensures_bind fun _ later _ => creates _ later
  · exact unrefused_edit _ world
  · exact plain_describe.ensures_bind fun _ later _ => creates _ later
  · rfl

theorem unrefused_buildLeaf (housed : Ensures (makeLeaf scene place.path spec) world
      (fun _ after => place.target.Housed after.forest) fun _ _ => True) :
    Ensures (buildLeaf scene place spec) world (fun _ _ => True) Unrefused := by
  rw [buildLeaf, MarkupSpec.ensures_bind]
  refine (unrefused_makeLeaf.and housed).mono (fun node after ends => ?_) fun _ _ ends => ends.1
  rw [MarkupSpec.ensures_bind]
  exact unrefused_attach ends.2 node

theorem unrefused_buildDoctype :
    Ensures (buildDoctype scene spec path children attributes) world (fun _ _ => True)
      Unrefused := by
  refine (plain_leadingText scene _).ensures_bind fun name _ _ => ?_
  refine (plain_identifier scene _ _).ensures_bind fun publicId _ _ => ?_
  refine (plain_identifier scene _ _).ensures_bind fun systemId later _ => ?_
  have names (root : Value) : Plain (doctypeName root) :=
    plain_of_likewise (readsOnly_doctypeName root) (kindred_unrefusing.likewise_doctypeName root)
  rw [giveDoctype, MarkupSpec.ensures_bind]
  refine (unrefused_edit _ later).mono (fun _ checked _ => ?_) fun _ _ other => other
  refine (names _).ensures_bind fun asked read _ => ?_
  rw [MarkupSpec.ensures_bind]
  refine (unrefused_edit _ read).mono (fun doctype made _ => ?_) fun _ _ other => other
  rw [MarkupSpec.ensures_bind]
  refine (silent_noticeReplaced _ _ made).mono (fun _ noted _ => ?_) fun _ _ failed => failed.elim
  rw [MarkupSpec.ensures_bind]
  exact (unrefused_edit _ noted).mono (fun _ _ _ => trivial) fun _ _ other => other

theorem unrefused_openSequence (housed : place.target.Housed world.forest) :
    Ensures (openSequence scene place) world (fun inside _ => inside.target.isUnder) Unrefused := by
  obtain ⟨home, isHome⟩ := housed
  rw [openSequence, MarkupSpec.ensures_bind, Ensures, implicitParent_eq isHome]
  dsimp only
  rw [MarkupSpec.ensures_bind, holderFor]
  split
  · rfl
  · exact (unrefused_edit _ world).mono (fun _ _ _ => rfl) fun _ _ other => other

theorem unrefused_closeSequence (housed : target.Housed world.forest) (holder : NodeId)
    (last : Option NodeId) :
    Ensures (closeSequence target holder last) world (fun _ _ => True) Unrefused := by
  unfold closeSequence
  split
  · exact unrefused_attach housed holder
  · trivial

end Building

/-! ## Builds under a node -/

section Under

variable {scene : Scene} {below : Builder}

/-- A builder that does not ask for a place as long as it builds under nodes. -/
def Builder.Welcome (below : Builder) : Prop :=
  ∀ value place world, Place.target place |>.isUnder →
    Ensures (below value place) world (fun _ _ => True) Unrefused

theorem unrefused_buildMembers (welcome : below.Welcome) {inside : Place}
    (isUnder : inside.target.isUnder) : ∀ (items : List Value) (index : Nat) (last : Option NodeId)
      (world : World),
      Ensures (buildMembers below inside index last items) world (fun _ _ => True) Unrefused
  | [], _, _, _ => trivial
  | item :: rest, index, last, world => by
      rw [buildMembers, MarkupSpec.ensures_bind]
      refine (welcome item (inside.deeper (memberSegment index)) world isUnder).mono
        (fun node after _ => ?_) fun _ _ other => other
      exact unrefused_buildMembers welcome isUnder rest _ _ after

/-- The children of an element that has its place are built under it. -/
theorem unrefused_buildElement (welcome : below.Welcome) {place : Place} {world : World}
    (housed : place.target.Housed world.forest) (spec : Spec) (name : Value)
    (attributes : RawAttributes) (children : List Value) :
    Ensures (buildElement scene below place spec name attributes children) world (fun _ _ => True)
      Unrefused := by
  rw [buildElement, MarkupSpec.ensures_bind]
  refine (unrefused_makeElement housed name).mono (fun made after isUnder => ?_)
    fun _ _ other => other
  split
  · trivial
  · rw [MarkupSpec.ensures_bind]
    exact (welcome (.list children) made.inside after isUnder).mono (fun _ _ _ => trivial)
      fun _ _ other => other

/-- A build under a node does not ask for a place. -/
theorem welcome_buildWithin (scene : Scene) : ∀ budget, Builder.Welcome (buildWithin scene budget)
  | 0, _, _, _, _ => rfl
  | budget + 1, value, place, world, isUnder => by
      have welcome := welcome_buildWithin scene budget
      have housed (forest : Forest) := place.target.housed_of_isUnder isUnder forest
      rw [buildWithin]
      refine (plain_readPart _ value place).ensures_bind fun found read _ => ?_
      cases found with
      | none => trivial
      | some spec =>
          cases spec with
          | sequence items =>
              show Ensures (buildSequence scene _ place items) read _ _
              rw [buildSequence_under isUnder]
              have inside : place.opened.target.isUnder := isUnder
              exact unrefused_buildMembers welcome inside items 0 none read
          | callable function =>
              refine (plain_call function scene.arguments).ensures_bind fun value called _ => ?_
              exact welcome value (place.deeper "()") called isUnder
          | element name attributes children =>
              exact unrefused_buildElement welcome (housed _) _ name attributes children
          | doctype children attributes =>
              show Ensures (buildDoctype scene _ place.path children attributes >>= _) read _ _
              rw [MarkupSpec.ensures_bind]
              exact unrefused_buildDoctype.mono (fun _ _ _ => trivial) fun _ _ other => other
          | comment | cdata | instruction | existing | text =>
              exact unrefused_buildLeaf
                (Ensures.of_run (fun _ _ _ => housed _) fun _ _ _ => trivial)

end Under

/-! ## The reference keeps its place -/

/-- A reference has a home, and it is not the doctype that this one remembers, if that is the
document of a build. -/
structure Forest.Steady (document reference home : NodeId) (forest : Forest) : Prop where
  intact : Intact {} forest
  there : forest.parent? reference = some home
  other : home = document → forest.doctype? document ≠ some reference

/-- A place under a node that is no document. -/
structure Place.Hosted (place : Place) (forest : Forest) : Prop where
  isUnder : place.target.isUnder
  inside : place.target.reference < forest.size
  noDocument : forest.isA Content.isDocument place.target.reference = false

section Steady

variable {document reference home : NodeId} {before after : Forest} {scene : Scene} {place : Place}
  {world : World}

theorem Place.Hosted.later {spared : NodeId → Prop} (hosted : place.Hosted before)
    (grows : Grows spared before after) : place.Hosted after where
  isUnder := hosted.isUnder
  inside := Nat.lt_of_lt_of_le hosted.inside grows.size
  noDocument := by
    rw [grows.isDocument]
    exact hosted.noDocument

theorem Edit.mem_placeBefore {new mark id : NodeId} {ids : List NodeId} (among : id ∈ ids) :
    id ∈ placeBefore new mark ids := by
  induction ids with
  | nil => cases among
  | cons first rest ih =>
      unfold placeBefore
      grind

theorem Edit.mem_placeInstead {new mark id : NodeId} {ids : List NodeId} (among : id ∈ ids)
    (other : mark ≠ id) : id ∈ placeInstead new mark ids := by
  induction ids with
  | nil => cases among
  | cons first rest ih =>
      unfold placeInstead
      grind

/-- Only the doctype that is remembered makes room for a new one. -/
theorem Forest.mem_seating {node id : NodeId} (among : id ∈ before.children document)
    (other : currentDoctype? before document ≠ some id) : id ∈ before.seating document node := by
  unfold seating
  split
  · rename_i old isOld
    refine mem_placeInstead among ?_
    rintro rfl
    exact other isOld
  · split
    · exact mem_placeBefore among
    · exact List.mem_append_left _ among

/-- Only a document remembers a doctype. -/
theorem Forest.doctype?_of_noDocument (noDocument : before.isA Content.isDocument home = false) :
    before.doctype? home = none := by
  unfold isA at noDocument
  unfold doctype?
  split
  · rename_i version doctype content
    rw [content] at noDocument
    cases noDocument
  · rfl

/-- New nodes may be placed elsewhere unless they are right under a document. -/
theorem Forest.Fresh.loaded {node : NodeId} (fresh : Fresh before node after)
    (agrees : after.Agrees) :
    Loaded (fun id => after.isA Content.isDocument id = false)
      (fun id => before.size ≤ id ∧ after.Movable id) after where
  children id isPlaced isFragment child among := by
    have there := agrees.parent id child among
    refine ⟨?_, fun parent there' => ?_⟩
    · by_contra early
      rw [fresh.intact.parent _ (Nat.lt_of_not_le early)] at there
      have homeInside := (fresh.intact.source.fits child id there).homeInside
      exact absurd homeInside (Nat.not_lt.mpr isPlaced.1)
    · rw [there] at there'
      cases there'
      exact isDocument_of_isFragment isFragment
  parent _ isPlaced := isPlaced.2

/-- Only new nodes are placed when one of them is attached under a node that is no document. -/
theorem Place.Hosted.shifts_attach {target : Target} {node : NodeId}
    (hosted : Place.Hosted { target } before) (fresh : Fresh before node world.forest) :
    Ensures (attach target node) world
      (fun _ after => Shifts (fun id => world.forest.isA Content.isDocument id = false)
        (fun id => before.size ≤ id ∧ world.forest.Movable id) (fun _ => False) world.forest
        after.forest)
      fun _ after => Shifts (fun id => world.forest.isA Content.isDocument id = false)
        (fun id => before.size ≤ id ∧ world.forest.Movable id) (fun _ => False) world.forest
        after.forest := by
  have noDocument : world.forest.isA Content.isDocument target.reference = false := by
    rw [isA, fresh.intact.content _ hosted.inside]
    exact hosted.noDocument
  refine MarkupSpec.shifts_attach ⟨Nat.le_of_eq fresh.number.symm, fresh.movable⟩
    (fun home isHome => ?_) (fun _ isDocument => ?_) fun isReplacing => ?_
  · rw [Target.home?, if_pos hosted.isUnder] at isHome
    cases isHome
    exact noDocument
  · rw [noDocument] at isDocument
    cases isDocument
  · have isUnder := hosted.isUnder
    simp [Target.isUnder, isReplacing] at isUnder

namespace Forest.Steady

/-- What is made leaves it alone. -/
theorem later (steady : Steady document reference home before) (made : Intact before after) :
    Steady document reference home after where
  intact := steady.intact.trans made
  there := by
    rw [made.parent _ (lt_size_of_parent? steady.there)]
    exact steady.there
  other := by
    rintro rfl
    have inside := (steady.intact.agrees.fits _ _ steady.there).homeInside
    unfold doctype?
    rw [made.content _ inside]
    exact steady.other rfl

/-- So do moves of other nodes to places under nodes that are no documents. -/
theorem moved {placed : NodeId → Prop} (steady : Steady document reference home before)
    (moves : Moves (fun id => before.isA Content.isDocument id = false) placed (fun _ => False)
      before after)
    (other : ¬ placed reference) (intact : Intact {} after) :
    Steady document reference home after where
  intact := intact
  there := by
    rcases moves.parent reference with same | ⟨-, isPlaced | gone⟩ | ⟨_, -, -, isPlaced⟩
    · exact same.trans steady.there
    · exact absurd isPlaced other
    · exact gone.elim
    · exact absurd isPlaced other
  other := by
    rintro rfl
    cases isDocument : before.isA Content.isDocument home with
    | true =>
        unfold doctype?
        rw [(moves.rest home (by simp [isDocument])).1]
        exact steady.other rfl
    | false =>
        rw [← moves.isDocument] at isDocument
        rw [doctype?_of_noDocument isDocument]
        exact (Option.some_ne_none _).symm

/-- A new node gets its place under a node that is no document. -/
theorem attach {node : NodeId} {target : Target} (steady : Steady document reference home before)
    (fresh : Fresh before node world.forest) (hosted : Place.Hosted { target } before) :
    Stays (Steady document reference home) (attach target node) world := by
  have steady' := steady.later fresh.intact
  have old := lt_size_of_parent? steady.there
  have intact : Stays (Intact {}) (MarkupSpec.attach target node) world :=
    intact_attach_fresh steady.intact ⟨Nat.zero_le _, hosted.inside⟩ fresh
  refine (intact.and (hosted.shifts_attach fresh)).mono (fun _ after ends => ?_)
    fun _ after ends => ?_
  all_goals
    exact steady'.moved (ends.2 (fresh.loaded steady'.intact.agrees))
      (fun isPlaced => absurd isPlaced.1 (Nat.not_le.mpr old)) ends.1

end Forest.Steady

open Forest (Steady)

theorem steady_giveDoctype (steady : Steady document reference home world.forest) (root : Value)
    (publicId systemId : Option String) :
    Stays (Steady document reference home) (giveDoctype document root publicId systemId) world := by
  show Ensures (giveDoctype document root publicId systemId) world _ _
  rw [giveDoctype, MarkupSpec.ensures_bind, ensures_edit, ensures_checkDocument]
  refine ⟨fun isDocument => ?_, fun _ => steady⟩
  refine (readsOnly_doctypeName root).ensures_bind (fun asked after _ same => ?_)
    fun _ after same => same ▸ steady
  rw [MarkupSpec.ensures_bind, ensures_edit, same, createDoctype, ensures_create]
  refine ⟨fun _ => ?_, fun _ => steady⟩
  have old := lt_size_of_parent? steady.there
  have early := lt_size_of_isA isDocument
  generalize isContent : Content.doctype _ publicId systemId = content
  have fresh := fresh_add steady.intact.agrees content (some document)
  have steady' := steady.later fresh.intact
  have isDoctype :
      (world.forest.add { content, owner := some document }).isA Content.isDoctype
        world.forest.size := by
    rw [isA, content?_add, if_pos rfl, ← isContent]
    rfl
  have isDocument' :
      (world.forest.add { content, owner := some document }).isA Content.isDocument document := by
    rw [isA, fresh.intact.content _ early]
    exact isDocument
  refine (readsOnly_noticeReplaced document root).ensures_bind (fun _ final _ same => ?_)
    fun _ final same => same ▸ steady'
  rw [MarkupSpec.ensures_bind, ensures_edit, same]
  refine (seats_placeDoctype steady'.intact isDocument' isDoctype fresh.top early).mono
    (fun _ after ends => ?_) fun _ _ failed => failed.elim
  obtain ⟨-, frames, row, current⟩ := ends
  have agrees := frames.intact.agrees
  refine ⟨frames.intact, ?_, fun _ => ?_⟩
  · have among := steady'.intact.agrees.child _ _ steady'.there
    refine agrees.parent _ _ ?_
    by_cases isHome : home = document
    · subst isHome
      rw [row]
      refine mem_seating among fun isCurrent => ?_
      exact steady'.other rfl ((currentDoctype?_eq_some steady'.intact.agrees).mp isCurrent).1
    · rw [frames.children home (steady'.intact.agrees.fits _ _ steady'.there).homeInside isHome]
      exact among
  · rw [((currentDoctype?_eq_some agrees).mp current).1]
    intro same
    exact absurd (Option.some.inj same) (Nat.ne_of_gt old)

theorem steady_buildLeaf (steady : Steady document reference home world.forest)
    (hosted : place.Hosted world.forest) (spec : Spec) :
    Stays (Steady document reference home) (buildLeaf scene place spec) world := by
  show Ensures (buildLeaf scene place spec) world _ _
  rw [buildLeaf, MarkupSpec.ensures_bind]
  refine (fresh_makeLeaf scene place.path spec steady.intact.agrees).mono
    (fun node after fresh => ?_) fun _ _ made => steady.later made
  rw [MarkupSpec.ensures_bind]
  exact (steady.attach fresh ⟨hosted.isUnder, hosted.inside, hosted.noDocument⟩).mono
    (fun _ _ steady => steady) fun _ _ steady => steady

theorem steady_makeElement (steady : Steady document reference home world.forest)
    (hosted : place.Hosted world.forest) (spec : Spec) (name : Value) (attributes : RawAttributes) :
    Stays (Steady document reference home) (makeElement scene place spec name attributes) world :=
  ensures_makeElement_attach steady.intact.agrees
    (fun _ _ tag made added => by
      have fresh : Fresh world.forest world.forest.size made.forest :=
        added ▸ fresh_add steady.intact.agrees _ _
      exact (steady.attach fresh ⟨hosted.isUnder, hosted.inside, hosted.noDocument⟩).mono
        (fun _ _ steady => steady) fun _ _ steady => steady)
    fun _ _ made => steady.later made

/-- A visit under a node that is no document leaves the reference where it is. -/
theorem Visit.keeps_steady {visit : Visit} (hosted : visit.place.Hosted visit.world.forest) :
    visit.Keeps scene (Steady scene.document reference home) where
  leaf spec _ part _ steady :=
    steady_buildLeaf steady (Visit.forest_of_part? part ▸ hosted) spec
  doctype _ _ _ _ steady :=
    (readsOnly_leadingText _ _ _ _ _).stays_bind steady fun _ _ _ steady =>
      (readsOnly_identifier _ _ _ _ _).stays_bind steady fun _ _ _ steady =>
        (readsOnly_identifier _ _ _ _ _).stays_bind steady fun _ _ _ steady =>
          steady_giveDoctype steady _ _ _
  element name attributes _ _ part steady :=
    steady_makeElement steady (Visit.forest_of_part? part ▸ hosted) _ name attributes
  opens _ _ _ steady := by
    refine ensures_openSequence (fun _ => steady) (fun _ beside _ _ => ?_) fun _ => steady
    rw [hosted.isUnder] at beside
    cases beside
  closes _ _ inside _ _ last built _ _ _ _ steady := by
    show Ensures (closeSequence visit.place.target inside.target.reference last) built _ _
    rw [closeSequence, hosted.isUnder, Bool.not_true, Bool.and_false, if_neg Bool.false_ne_true]
    exact steady

/-- All visits of a build under a node that is no document are under such nodes. -/
theorem hosted_of_visit {start visit : Visit} {budget : Nat}
    (hosted : start.place.Hosted start.world.forest)
    (among : visit ∈ visitsWithin scene budget start) : visit.place.Hosted visit.world.forest := by
  refine visits_induct (P := fun place world _ => place.Hosted world.forest) (H := fun _ => True)
    (fun _ _ _ _ hosted => ⟨hosted.isUnder, hosted.inside, hosted.noDocument⟩)
    (fun _ _ _ _ hosted same => same ▸ hosted) ?_ ?_ ?_ budget start hosted (fun _ _ => trivial)
    visit among
  · intro place world inside after _ hosted run
    have opens : Ensures (openSequence scene place) world
        (fun inside after => inside.Hosted after.forest) fun _ _ => True := by
      refine ensures_openSequence (fun _ => ⟨rfl, hosted.inside, hosted.noDocument⟩)
        (fun _ beside _ _ => ?_) fun _ => trivial
      rw [hosted.isUnder] at beside
      cases beside
    exact opens.of_ok run
  · intro budget value place segment world node after _ hosted _ run
    have grows := grows_buildWithin scene budget value (place.deeper segment) world
    exact hosted.later (grows.of_ok run)
  · intro visit made after hosted _ isMade
    obtain ⟨spec, name, attributes, world, -, run⟩ := Visit.makeElement_of_made? isMade
    obtain ⟨isNext, size⟩ :=
      (size_makeElement scene visit.place spec name attributes world).of_ok run
    obtain ⟨grows, -, isInside⟩ :=
      (grows_makeElement scene visit.place spec name attributes world).of_ok run
    rw [isNext] at isInside
    refine ⟨by rw [isInside]; rfl, ?_, ?_⟩
    · rw [isInside, size]
      exact Nat.lt_succ_self _
    · rw [isInside]
      exact grows.noDocument _ (Nat.le_refl _)

theorem steady_buildWithin {value : Value} {budget : Nat}
    (steady : Steady scene.document reference home world.forest)
    (hosted : place.Hosted world.forest) :
    Stays (Steady scene.document reference home) (buildWithin scene budget value place) world :=
  keeps_buildWithin budget { value, place, world }
    (fun _ among => Visit.keeps_steady (hosted_of_visit hosted among)) steady

theorem steady_buildMembers {budget : Nat} {inside : Place} :
    ∀ (items : List Value) (index : Nat) (last : Option NodeId) (world : World),
      Steady scene.document reference home world.forest → inside.Hosted world.forest →
      Stays (Steady scene.document reference home)
        (buildMembers (buildWithin scene budget) inside index last items) world
  | [], _, _, _, steady, _ => steady
  | item :: rest, index, last, world, steady, hosted => by
      show Ensures (buildMembers _ inside index last (item :: rest)) world _ _
      rw [buildMembers, MarkupSpec.ensures_bind]
      have here : (inside.deeper (memberSegment index)).Hosted world.forest :=
        ⟨hosted.isUnder, hosted.inside, hosted.noDocument⟩
      have stays : Stays (Steady scene.document reference home)
          (buildWithin scene budget item (inside.deeper (memberSegment index))) world :=
        steady_buildWithin steady here
      have both := Ensures.and stays
        (grows_buildWithin scene budget item (inside.deeper (memberSegment index)) world)
      refine both.mono (fun node after ends => ?_) fun _ _ ends => ends.1
      exact steady_buildMembers rest (index + 1) (node <|> last) after ends.1 (hosted.later ends.2)

end Steady

/-! ## Builds beside a node -/

/-- A build beside a node that has a parent, and is not a doctype that the document of the build
remembers, does not ask for a place in vain. -/
theorem unrefused_beside (scene : Scene) {home : NodeId} : ∀ (budget : Nat) (value : Value)
    (place : Place) (world : World), place.target.isUnder = false →
      Steady scene.document place.target.reference home world.forest →
      Ensures (buildWithin scene budget value place) world (fun _ _ => True) Unrefused
  | 0, _, _, _, _, _ => rfl
  | budget + 1, value, place, world, beside, steady => by
      have isHome {forest : Forest}
          (steady : Steady scene.document place.target.reference home forest) :
          place.target.Housed forest := ⟨home, by rw [Target.home?, beside]; exact steady.there⟩
      rw [buildWithin]
      refine (plain_readPart _ value place).ensures_bind fun found read same => ?_
      rw [← same] at steady
      cases found with
      | none => trivial
      | some spec =>
          cases spec with
          | sequence items =>
              have opens : Ensures (openSequence scene place) read
                  (fun inside after => inside.Hosted after.forest ∧
                    Steady scene.document place.target.reference home after.forest)
                  fun _ _ => True := by
                refine ensures_openSequence (fun isUnder => ?_) (fun _ _ _ _ => ⟨⟨rfl, ?_, ?_⟩, ?_⟩)
                  fun _ => trivial
                · rw [beside] at isUnder
                  cases isUnder
                · simp [Target.under]
                · simp [Target.under, isA, content?, Content.isDocument]
                · exact steady.later (fresh_add steady.intact.agrees _ _).intact
              show Ensures (buildSequence scene _ place items) read _ _
              rw [buildSequence, MarkupSpec.ensures_bind]
              refine ((unrefused_openSequence (isHome steady)).and opens).mono
                (fun inside opened ends => ?_) fun _ _ ends => ends.1
              obtain ⟨isUnder, hosted, steady⟩ := ends
              rw [MarkupSpec.ensures_bind]
              have builds := (unrefused_buildMembers (welcome_buildWithin scene budget) isUnder
                items 0 none opened).and (steady_buildMembers items 0 none opened steady hosted)
              refine builds.mono (fun last built ends => ?_) fun _ _ ends => ends.1
              rw [MarkupSpec.ensures_bind]
              exact (unrefused_closeSequence (isHome ends.2) _ last).mono (fun _ _ _ => trivial)
                fun _ _ other => other
          | callable function =>
              refine (plain_call function scene.arguments).ensures_bind fun value called same => ?_
              rw [← same] at steady
              exact unrefused_beside scene budget value (place.deeper "()") called beside steady
          | element name attributes children =>
              exact unrefused_buildElement (welcome_buildWithin scene budget) (isHome steady) _ name
                attributes children
          | doctype children attributes =>
              show Ensures (buildDoctype scene _ place.path children attributes >>= _) read _ _
              rw [MarkupSpec.ensures_bind]
              exact unrefused_buildDoctype.mono (fun _ _ _ => trivial) fun _ _ other => other
          | comment | cdata | instruction | existing | text =>
              refine unrefused_buildLeaf ((fresh_makeLeaf scene place.path _
                steady.intact.agrees).mono (fun _ _ fresh => ?_) fun _ _ _ => trivial)
              exact (isHome steady).intact fresh.intact

/-! ## Getting ready -/

/-- Nothing was built and nothing was called. -/
structure World.Untouched (before after : World) : Prop where
  forest : after.forest = before.forest
  calls : after.calls = before.calls

theorem untouched : Follows World.Untouched where
  refl _ := ⟨rfl, rfl⟩
  trans first second := ⟨second.forest.trans first.forest, second.calls.trans first.calls⟩

theorem untouched_spread (arguments : Value) : Keeps World.Untouched (spread arguments) := by
  have gives (items : List Value) : Keeps World.Untouched (pure items : Build (List Value)) :=
    .pure untouched items
  have fails (cause : Failure) : Keeps World.Untouched (throw cause : Build (List Value)) :=
    .throw untouched cause
  unfold spread
  split
  any_goals exact gives _
  split
  · unfold members
    split
    · exact gives _
    · exact gives _
    · unfold rangeMembers
      dsimp only
      split
      · exact fails _
      · split
        · exact fails _
        · exact gives _
    · exact fun _ => ⟨rfl, rfl⟩
    · exact gives _
  · exact fails _

/-- The value of a keyword is no node, or one without a parent that nodes are to go beside. -/
def Forest.LacksPlace (forest : Forest) (choice : Mode × Value) : Prop :=
  choice.2.isNode = false ∨
    choice.1 ≠ .under ∧ ∃ id ∈ choice.2.node?, forest.parent? id = none

/-- Keywords name no place if there are several, or if the value of the one lacks a place. -/
def Keywords.Misplaced (keywords : Keywords) (forest : Forest) : Prop :=
  2 ≤ keywords.given.length ∨ ∃ choice ∈ keywords.given, forest.LacksPlace choice

section Requests

variable {settings : Settings} {where? : Option (Mode × Value)} {document arguments spec : Value}
  {keywords : Keywords} {world : World}

/-- A build that does not get ready has done nothing, and if it was refused its value lacks a
place.  A build that is ready goes under a node, or beside a node that has a parent. -/
theorem ready_or_untouched : Ensures (prepare settings where? document arguments) world
    (fun task start => task.target.isUnder ∨ ∃ choice ∈ where?,
      choice.2.node? = some task.target.reference ∧ start.forest = world.forest ∧
        task.target.Housed start.forest)
    fun cause after => world.Untouched after ∧
      (cause.isRefusal → ∃ choice ∈ where?, world.forest.LacksPlace choice) := by
  have spreads : Plain (spread arguments) :=
    plain_of_likewise (readsOnly_spread arguments) (kindred_unrefusing.likewise_spread trivial)
  rw [prepare, MarkupSpec.ensures_bind]
  refine ((untouched_spread arguments world).and (spreads world)).mono
    (fun given read ends => ?_) fun cause _ ends => ⟨ends.1, fun refusal => ?_⟩
  · obtain ⟨idle, -⟩ := ends
    cases where? with
    | none =>
        have root : Ensures (rootDocument settings document) read (fun _ _ => True)
            fun _ _ => False := by
          unfold rootDocument
          split
          · trivial
          · trivial
        rw [MarkupSpec.ensures_bind]
        refine root.mono (fun value made _ => ?_) fun _ _ failed => failed.elim
        cases value with
        | node id => exact .inl rfl
        | _ => exact .inl rfl
    | some choice =>
        obtain ⟨mode, value⟩ := choice
        cases value with
        | node reference =>
            have finds : Ensures (documentFor document reference) read (fun _ after => after = read)
                fun cause after => after = read ∧ cause.isRefusal = false := by
              unfold documentFor
              split
              · rw [MarkupSpec.ensures_bind, ensures_forest]
                split
                · rfl
                · exact ⟨rfl, rfl⟩
              · cases document with
                | node => rfl
                | _ => rfl
            rw [MarkupSpec.ensures_bind]
            refine finds.mono (fun id found same => ?_) fun cause after ends => ?_
            · subst same
              rw [MarkupSpec.ensures_bind, ensures_discard]
              by_cases housed : Target.Housed { mode, reference } found.forest
              · obtain ⟨home, isHome⟩ := housed
                rw [Ensures, implicitParent_eq isHome]
                exact .inr ⟨_, rfl, rfl, idle.forest, home, isHome⟩
              · refine ensures_implicitParent (fun home isHome => absurd ⟨home, isHome⟩ housed)
                  fun _ => ⟨idle, fun _ => ⟨_, rfl, .inr ⟨?_, reference, rfl, ?_⟩⟩⟩
                · rintro rfl
                  exact housed (Target.housed_of_isUnder rfl _)
                · by_contra parented
                  obtain ⟨home, there⟩ := Option.ne_none_iff_exists'.mp parented
                  rw [← idle.forest] at there
                  refine housed ⟨if mode = .under then reference else home, ?_⟩
                  unfold Target.home? Target.isUnder
                  cases mode with
                  | under => rfl
                  | _ => exact there
            · obtain ⟨rfl, other⟩ := ends
              refine ⟨idle, fun refusal => ?_⟩
              rw [other] at refusal
              cases refusal
        | _ => exact ⟨idle, fun _ => ⟨_, rfl, .inl rfl⟩⟩
  · have other : cause.isRefusal = false := ends.2
    rw [other] at refusal
    cases refusal

/-- There is no place beside a node without a parent. -/
theorem refused_implicitParent {target : Target} (beside : target.mode ≠ .under)
    (inside : target.reference < world.forest.size)
    (orphan : world.forest.parent? target.reference = none) :
    Ensures (implicitParent target) world (fun _ _ => False) fun cause _ => cause.isRefusal := by
  rw [implicitParent, if_neg (by simpa [Target.isUnder] using beside), parentBeside,
    MarkupSpec.ensures_bind, ensures_edit, ensures_look]
  refine ⟨fun node there => ?_, fun gone => ?_⟩
  · rw [parent?_of_node? there] at orphan
    rw [orphan]
    rfl
  · obtain ⟨node, there⟩ := node?_of_lt inside
    rw [gone] at there
    cases there

/-- A build at a value that lacks a place is refused, once the arguments are spread. -/
theorem refused_prepare {choice : Mode × Value} (owned : world.forest.Owned)
    (lacks : world.forest.LacksPlace choice)
    (known : ∀ id ∈ choice.2.node?, id < world.forest.size)
    (spreads : Ensures (spread arguments) world (fun _ _ => True) fun _ _ => False) :
    Ensures (prepare settings (some choice) document arguments) world (fun _ _ => False)
      fun cause _ => cause.isRefusal := by
  obtain ⟨mode, value⟩ := choice
  rw [prepare, MarkupSpec.ensures_bind]
  refine ((untouched_spread arguments world).and spreads).mono (fun given read ends => ?_)
    fun _ _ ends => ends.2.elim
  have same : read.forest = world.forest := ends.1.forest
  cases value with
  | node reference =>
      obtain isValue | ⟨beside, id, isId, orphan⟩ := lacks
      · cases isValue
      · cases isId
        have finds : Ensures (documentFor document reference) read (fun _ after => after = read)
            fun _ _ => False := by
          unfold documentFor
          split
          · obtain ⟨owner, isOwner, -⟩ := owned reference (known reference rfl)
            rw [MarkupSpec.ensures_bind, ensures_forest, same, isOwner]
            rfl
          · cases document with
            | node => rfl
            | _ => rfl
        rw [MarkupSpec.ensures_bind]
        refine finds.mono (fun id found isRead => ?_) fun _ _ failed => failed.elim
        subst isRead
        rw [MarkupSpec.ensures_bind, ensures_discard]
        rw [← same] at orphan
        refine (refused_implicitParent beside ?_ orphan).mono (fun _ _ failed => failed.elim)
          fun _ _ refusal => refusal
        rw [same]
        exact known reference rfl
  | _ => rfl

/-- Keywords fail only if there are several. -/
theorem several_of_choose {cause : SpecCause} (chosen : Mode.choose keywords = .error cause) :
    cause.kind = .severalPlaces ∧ 2 ≤ keywords.given.length := by
  unfold Mode.choose at chosen
  split at chosen
  · cases chosen
  · cases chosen
  · rename_i given none single
    cases chosen
    refine ⟨rfl, ?_⟩
    rcases isGiven : keywords.given with _ | ⟨choice, _ | ⟨next, rest⟩⟩
    · exact absurd isGiven none
    · exact absurd isGiven (single choice)
    · simp

/-- A request whose keywords name no place is refused, and leaves everything as it is. -/
theorem markup_refused (reached : Reached world) (misplaced : keywords.Misplaced world.forest)
    (known : ∀ entry ∈ keywords.given, ∀ id ∈ entry.2.node?, id < world.forest.size)
    (spreads : Ensures (spread arguments) world (fun _ _ => True) fun _ _ => False) :
    Ensures (markup settings spec document keywords arguments) world (fun _ _ => False)
      fun cause after => cause.isRefusal ∧ world.Untouched after := by
  rw [markup]
  cases chosen : Mode.choose keywords with
  | error cause =>
      obtain ⟨isKind, -⟩ := several_of_choose chosen
      exact ⟨by simp [Failure.isRefusal, Failure.kind, isKind], rfl, rfl⟩
  | ok where? =>
      have given := given_of_choose chosen
      obtain several | ⟨choice, among, lacks⟩ := misplaced
      · rw [given] at several
        cases where? with
        | none => cases several
        | some choice => exact absurd several (by simp)
      · have isChoice : where? = some choice := by
          rw [given] at among
          simpa using among
        subst isChoice
        show Ensures (compile settings spec (some choice) document arguments) world _ _
        rw [compile, compileWithin, MarkupSpec.ensures_bind]
        refine ((refused_prepare reached.owned lacks (known choice among) spreads).and
          ready_or_untouched).mono (fun _ _ ends => ends.1.elim) fun _ _ ends => ⟨ends.1, ends.2.1⟩

/-- A request that fails for want of a place has built nothing and called nothing, and it had
indeed none, whatever the spec, unless its reference is a doctype that a document remembers. -/
theorem markup_refusal (reached : Reached world)
    (other : ∀ entry ∈ keywords.given, ∀ id ∈ entry.2.node?, ∀ document,
      currentDoctype? world.forest document ≠ some id) :
    Ensures (markup settings spec document keywords arguments) world (fun _ _ => True)
      fun cause after => cause.isRefusal →
        world.Untouched after ∧ keywords.Misplaced world.forest := by
  rw [markup]
  cases chosen : Mode.choose keywords with
  | error cause => exact fun _ => ⟨⟨rfl, rfl⟩, .inl (several_of_choose chosen).2⟩
  | ok where? =>
      have given := mem_given_of_choose chosen
      show Ensures (compile settings spec where? document arguments) world _ _
      rw [compile, compileWithin, MarkupSpec.ensures_bind]
      refine ready_or_untouched.mono (fun task start ready => ?_) fun cause after ends refusal => ?_
      · rw [MarkupSpec.ensures_bind]
        have builds : Ensures
            (buildWithin task.scene settings.budget spec { target := task.target }) start
            (fun _ _ => True) Unrefused := by
          cases under : task.target.isUnder with
          | true => exact welcome_buildWithin _ _ _ _ _ under
          | false =>
              obtain isUnder | ⟨choice, isChoice, isReference, same, home, isHome⟩ := ready
              · rw [under] at isUnder
                cases isUnder
              · rw [Target.home?, under, if_neg Bool.false_ne_true] at isHome
                refine unrefused_beside _ _ _ _ _ under ⟨same ▸ reached.intact, isHome, ?_⟩
                rintro rfl isDoctype
                refine other choice (given choice isChoice) _ isReference task.scene.document ?_
                rw [← same]
                have agrees := (same ▸ reached.intact : Intact {} start.forest).agrees
                exact (currentDoctype?_eq_some agrees).mpr ⟨isDoctype, agrees.child _ _ isHome⟩
        refine builds.mono (fun _ _ _ => trivial) fun cause _ plain refusal => ?_
        rw [plain] at refusal
        cases refusal
      · obtain ⟨choice, isChoice, lacks⟩ := ends.2 refusal
        exact ⟨ends.1, .inr ⟨choice, given choice isChoice, lacks⟩⟩

end Requests

/-- A document that remembers a doctype. -/
def doctypeRequests : List Request :=
  [.document .null,
    .markup {} (.map [(.text "#doctype", .text "html")]) .null { under := .node 0 } (.list [])]

/-- Another doctype, and a comment whose text is asked for. -/
def anotherDoctype : Value :=
  .list [.map [(.text "#doctype", .text "svg")],
    .map [(.text "#comment", .function { id := 0, label := some "text", body := .text "c" })]]

/-- Beside the doctype that its document remembers, the new one takes the place that the comment
was to go by: the request is refused after the document was changed and a function was called. -/
theorem refusal_late :
    endsIn (markup {} anotherDoctype .null { before := .node 1 } (.list []))
      (worldAfter {} doctypeRequests) (fun _ _ => False) fun cause after =>
        cause.isRefusal ∧ (worldAfter {} doctypeRequests).forest.children 0 = [1] ∧
          after.forest.children 0 = [3] ∧ after.calls.size = 1 := by
  decide +kernel

end MarkupSpec
