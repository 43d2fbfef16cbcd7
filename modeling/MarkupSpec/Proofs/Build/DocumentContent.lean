import MarkupSpec.Proofs.Build.DisplacedElements
import MarkupSpec.Proofs.Build.ElementContent
import MarkupSpec.Proofs.Build.Intact
import MarkupSpec.Proofs.Flatten.Idempotence
import MarkupSpec.Proofs.Forest.KeptNodes
import MarkupSpec.Proofs.Position.TwinDoctypes

/-!
# What comes under a document

A document takes an element in the place of the one it has, and a doctype in front of that.  As
long as it has none of both, whatever comes there comes behind its children, and no other node
gets another content (`Forest.Extends`): an instruction (`instruction_buildInstruction`), a doctype
(`extends_giveDoctype`), or an element, which is empty then and has room for more
(`Visit.Crowns`).
-/

namespace MarkupSpec

open Forest Edit Build

/-! ## Behind the children -/

/-- A document has got more children behind those it had, and of the nodes that were there no other
one has another content. -/
structure Forest.Extends (document : NodeId) (nodes : List NodeId) (before after : Forest) :
    Prop where
  intact : Intact {} after
  isDocument : after.isA Content.isDocument document
  size : before.size ≤ after.size
  row : after.children document = before.children document ++ nodes
  new : ∀ id ∈ nodes, before.size ≤ id
  content : ∀ id < before.size, id ≠ document → after.content? id = before.content? id

namespace Forest.Extends

variable {document : NodeId} {nodes more : List NodeId} {before middle after : Forest}

theorem refl (intact : Intact {} before) (isDocument : before.isA Content.isDocument document) :
    Extends document [] before before where
  intact := intact
  isDocument := isDocument
  size := Nat.le_refl _
  row := (List.append_nil _).symm
  new _ none := absurd none List.not_mem_nil
  content _ _ _ := rfl

theorem trans (onFirst : Extends document nodes before middle)
    (onSecond : Extends document more middle after) :
    Extends document (nodes ++ more) before after where
  intact := onSecond.intact
  isDocument := onSecond.isDocument
  size := Nat.le_trans onFirst.size onSecond.size
  row := by rw [onSecond.row, onFirst.row, List.append_assoc]
  new id among := (List.mem_append.mp among).elim (onFirst.new id)
    fun late => Nat.le_trans onFirst.size (onSecond.new id late)
  content id known other := by
    rw [onSecond.content id (Nat.lt_of_lt_of_le known onFirst.size) other,
      onFirst.content id known other]

/-- What comes later leaves the nodes that came as they are. -/
theorem content_later (onFirst : Extends document nodes before middle)
    (onSecond : Extends document more middle after) (inside : document < before.size) {id : NodeId}
    (among : id ∈ nodes) : after.content? id = middle.content? id := by
  refine onSecond.content id ?_ (Nat.ne_of_gt (Nat.lt_of_lt_of_le inside (onFirst.new id among)))
  exact onFirst.intact.agrees.lt_size_of_mem (onFirst.row ▸ List.mem_append_right _ among)

/-- What is done below a node that was not there before does not show. -/
theorem below {home : NodeId} (extended : Extends document nodes before middle)
    (intact : Intact {} after) (inside : document < before.size) (new : before.size ≤ home)
    (appends : Appends home more middle after) : Extends document nodes before after where
  intact := intact
  isDocument := by
    rw [isA, appends.content document (Nat.lt_of_lt_of_le inside extended.size)]
    exact extended.isDocument
  size := Nat.le_trans extended.size appends.size
  row := by
    rw [appends.children document (Nat.lt_of_lt_of_le inside extended.size)
      (Nat.ne_of_lt (Nat.lt_of_lt_of_le inside new)) (Option.some_ne_none _).symm]
    exact extended.row
  new := extended.new
  content id known other := by
    rw [appends.content id (Nat.lt_of_lt_of_le known extended.size),
      extended.content id known other]

end Forest.Extends

/-- The document is without an element. -/
def Forest.IsRootless (forest : Forest) (document : NodeId) : Prop :=
  ∀ id ∈ forest.children document, forest.isA Content.isElement id = false

namespace Forest.IsRootless

variable {forest before after : Forest} {document node : NodeId}

theorem rootElement?_eq (rootless : forest.IsRootless document) :
    forest.rootElement? document = none :=
  List.find?_eq_none.mpr fun id among => by simp [rootless id among]

/-- What was made leaves a document without an element. -/
theorem grown (rootless : before.IsRootless document) (intact : Intact before after)
    (inside : document < before.size) : after.IsRootless document := by
  intro id among
  rw [intact.children document inside] at among
  rw [isA, intact.content id (intact.source.lt_size_of_mem among)]
  exact rootless id among

/-- A document stays without an element if what comes there is none. -/
theorem extended (rootless : before.IsRootless document) (intact : Intact {} before)
    (extended : Extends document [node] before after)
    (noElement : after.isA Content.isElement node = false) : after.IsRootless document := by
  intro id among
  rw [extended.row] at among
  rcases List.mem_append.mp among with early | late
  · have above := (intact.under id document (Nat.zero_le _) (intact.agrees.parent _ _ early)).2
    rw [isA, extended.content id (intact.agrees.lt_size_of_mem early) (Nat.ne_of_gt above)]
    exact rootless id early
  · rw [List.mem_singleton.mp late]
    exact noElement

end Forest.IsRootless

/-- A document that had no children has none of the doctypes from before. -/
theorem Forest.Extends.unseated {document : NodeId} {nodes : List NodeId} {before after : Forest}
    (extended : Extends document nodes before after) (knows : before.KnowsDoctypes)
    (empty : before.children document = [])
    (same : after.content? document = before.content? document) :
    currentDoctype? after document = none := by
  rw [Option.eq_none_iff_forall_ne_some]
  intro doctype isSeated
  obtain ⟨remembers, among⟩ := (currentDoctype?_eq_some extended.intact.agrees).mp isSeated
  rw [extended.row, empty, List.nil_append] at among
  rw [doctype?_of_content same] at remembers
  exact absurd (knows document doctype remembers) (Nat.not_lt.mpr (extended.new doctype among))

section Attach

variable {world : World} {before : Forest} {document node : NodeId}

/-- A new node comes behind the children of a document without an element. -/
theorem extends_attach (intact : Intact {} before)
    (isDocument : before.isA Content.isDocument document) (rootless : before.IsRootless document)
    (fresh : Fresh before node world.forest)
    (noFragment : world.forest.isA Content.isFragment node = false) :
    Ensures (attach (.under document) node) world
      (fun _ after => Extends document [node] before after.forest ∧
        Alters document (before.children document ++ [node]) none none world.forest after.forest)
      fun _ _ => True := by
  have inside := lt_size_of_isA isDocument
  have row := fresh.intact.children document inside
  have alters : Ensures (attach (.under document) node) world
      (fun _ after => Alters document (before.children document ++ [node]) none none world.forest
        after.forest) fun _ _ => True := by
    refine ensures_attach (fun _ later _ same => ?_) fun _ _ _ => trivial
    show Ensures (edit (attachUnder document node)) later _ _
    rw [ensures_edit, same, attachUnder, MarkupSpec.ensures_bind, ensures_discard, ensures_look]
    refine ⟨fun _ _ => ?_, fun _ => trivial⟩
    rw [MarkupSpec.ensures_bind, ensures_look]
    refine ⟨fun found there => ?_, fun _ => trivial⟩
    rw [(isA_of_node? there).symm.trans noFragment, if_neg Bool.false_ne_true]
    refine (arrives_one fresh.intact.agrees noFragment fresh.top).mono (fun _ after arrives => ?_)
      fun _ _ _ => trivial
    rw [← row]
    cases arrives with
    | last alters => exact alters
    | root _ old _ _ _ _ isRoot _ =>
        rw [(rootless.grown fresh.intact inside).rootElement?_eq] at isRoot
        cases isRoot
  have within : (Target.under document).Within {} before := ⟨Nat.zero_le _, inside⟩
  have stays : Ensures (attach (.under document) node) world (fun _ after => Intact {} after.forest)
      fun _ after => Intact {} after.forest := intact_attach_fresh intact within fresh
  refine (alters.and stays).mono (fun _ after ends => ?_) fun _ _ _ => trivial
  obtain ⟨alters, intact'⟩ := ends
  have whole := fresh.intact.alters alters
  refine ⟨⟨intact', ?_, whole.size, whole.row, fun id among => ?_,
    fun id known _ => whole.content id known⟩, alters⟩
  · rw [isA, whole.content document inside]
    exact isDocument
  · rw [List.mem_singleton.mp among]
    exact Nat.le_of_eq fresh.number.symm

end Attach

/-! ## What is made -/

/-- A text that is not empty comes to itself. -/
theorem flatten_text {content : String} (isText : content ≠ "") (arguments : List Value) :
    flatten arguments (.text content) = pure (some content) := flattenWithin_text isText

theorem leadingText_text {content : String} (isText : content ≠ "") (scene : Scene)
    (kind : SpecialKind) (spec : Spec) (path : List String) (rest : List Value) :
    leadingText scene kind spec path (.text content :: rest) = pure content := by
  unfold leadingText
  rw [List.head?_cons, Option.getD_some]
  dsimp only
  rw [flatten_text isText, pure_bind]

section Make

variable {scene : Scene} {world : World} {document : NodeId} {name : String}

/-- An instruction has its first child for its name. -/
theorem instruction_buildInstruction (isText : name ≠ "") (spec : Spec) (path : List String)
    (attributes : RawAttributes) :
    Ensures (buildInstruction scene spec path [.text name] attributes) world
      (fun node after => node = world.forest.size ∧ ∃ data, after.forest =
        world.forest.add { content := .instruction name data, owner := some scene.document })
      fun _ _ => True := by
  unfold buildInstruction
  rw [leadingText_text isText, pure_bind]
  refine (readsOnly_pseudoAttributes _ _).ensures_bind (fun pairs after _ same => ?_)
    fun _ _ _ => trivial
  rw [pure_bind, ensures_edit, ensures_create, same]
  exact ⟨fun _ => ⟨rfl, _, rfl⟩, fun _ => trivial⟩

/-- A doctype comes behind the children of a document that has neither a doctype nor an
element. -/
theorem extends_giveDoctype (intact : Intact {} world.forest)
    (isDocument : world.forest.isA Content.isDocument document)
    (rootless : world.forest.IsRootless document)
    (unseated : currentDoctype? world.forest document = none) (isText : name ≠ "")
    (publicId systemId : Option String) :
    Ensures (giveDoctype document (.text name) publicId systemId) world
      (fun node after => Extends document [node] world.forest after.forest ∧
        after.forest.content? node =
          some (.doctype (some (Text.splitColon name).2) publicId systemId))
      fun _ _ => True := by
  have inside := lt_size_of_isA isDocument
  have asked : doctypeName (.text name) = pure (some name) := by
    unfold doctypeName
    rw [if_pos (by simpa [Value.isTrue] using isText)]
    rfl
  have shown : ((some name).filter (· != "")).map (fun name => (Text.splitColon name).2) =
      some (Text.splitColon name).2 := by simp [Option.filter, isText]
  rw [giveDoctype, MarkupSpec.ensures_bind, ensures_edit, ensures_checkDocument]
  refine ⟨fun _ => ?_, fun _ => trivial⟩
  rw [asked, pure_bind, MarkupSpec.ensures_bind, ensures_edit, createDoctype, ensures_create, shown]
  refine ⟨fun _ => ?_, fun _ => trivial⟩
  have fresh := fresh_add intact.agrees
    (.doctype (some (Text.splitColon name).2) publicId systemId) (some document)
  refine (readsOnly_noticeReplaced document _).ensures_bind (fun _ noted _ same => ?_)
    fun _ _ _ => trivial
  rw [MarkupSpec.ensures_bind, ensures_edit, same]
  have intact' := intact.trans fresh.intact
  have isDocument' := isDocument
  rw [isA, ← fresh.intact.content document inside] at isDocument'
  have row := fresh.intact.children document inside
  have seat : (world.forest.add
        { content := .doctype (some (Text.splitColon name).2) publicId systemId
          owner := some document }).seating document world.forest.size =
      world.forest.children document ++ [world.forest.size] := by
    rw [Forest.seating, currentDoctype?_congr intact.agrees intact'.agrees
      (fresh.intact.content document inside) row, unseated]
    dsimp only
    rw [(rootless.grown fresh.intact inside).rootElement?_eq, row]
  refine (seats_placeDoctype intact' isDocument' (by simp [isA, content?, Content.isDoctype])
    fresh.top inside).mono (fun _ after ends => ?_) fun _ _ _ => trivial
  obtain ⟨size, frames, isRow, -⟩ := ends
  refine ⟨{ intact := frames.intact, isDocument := ?_, size := ?_, row := isRow.trans seat
            new := fun id among => Nat.le_of_eq (List.mem_singleton.mp among).symm
            content := fun id known other => ?_ }, ?_⟩
  · rw [frames.isA_of_lt Content.isDocument_lasting (lt_size_of_isA isDocument')]
    exact isDocument'
  · exact Nat.le_trans fresh.intact.size (Nat.le_of_eq size.symm)
  · rw [frames.content id (Nat.lt_of_lt_of_le known fresh.intact.size) other,
      fresh.intact.content id known]
  · rw [frames.content _ fresh.inside (Nat.ne_of_gt inside)]
    simp [content?]

end Make

/-! ## Visits under a document -/

/-- The element that a visit makes is the first one of a document, and is empty. -/
structure Visit.Crowns (visit : Visit) (document : NodeId) (made : Made) (after : World) :
    Prop where
  element : made.element = visit.world.forest.size
  inside : made.inside.target = .under made.element
  extended : Extends document [made.element] visit.world.forest after.forest
  empty : after.forest.children made.element = []
  site : (Target.under made.element).Site after.forest made.element

namespace Visit

variable {scene : Scene} {visit : Visit} {document : NodeId} {name : String}
  {attributes : RawAttributes} {children : List Value} {last : Option NodeId} {after : World}
  (under : visit.place.target = .under document) (intact : Intact {} visit.world.forest)
  (isDocument : visit.world.forest.isA Content.isDocument document)
  (rootless : visit.world.forest.IsRootless document)

include under intact isDocument rootless

theorem Runs.instruction (runs : visit.Runs scene last after)
    (reads : visit.value.IsReadAs scene.settings (.instruction [.text name] attributes))
    (isText : name ≠ "") :
    ∃ node data, Extends document [node] visit.world.forest after.forest ∧
      after.forest.content? document = visit.world.forest.content? document ∧
      after.forest.content? node = some (.instruction name data) := by
  obtain ⟨read, part⟩ := runs.part reads
  have same := visit.forest_of_part? part
  have builds : buildLeaf scene visit.place (.instruction [.text name] attributes) read =
      .ok last after := runs.builds part
  obtain ⟨node, made, makes, rest⟩ := bind_eq_ok.mp builds
  obtain ⟨_, _, attaches, rest⟩ := bind_eq_ok.mp rest
  cases rest
  obtain ⟨rfl, data, added⟩ := (instruction_buildInstruction isText _ _ attributes).of_ok makes
  rw [same] at added attaches
  rw [under] at attaches
  have fresh : Fresh visit.world.forest visit.world.forest.size made.forest :=
    added ▸ fresh_add intact.agrees _ _
  obtain ⟨extended, alters⟩ := (extends_attach intact isDocument rootless fresh
    (by simp [added, isA, content?, Content.isFragment])).of_ok attaches
  have inside := lt_size_of_isA isDocument
  refine ⟨_, data, extended, ?_, ?_⟩
  · rw [alters.content _ (Nat.lt_of_lt_of_le inside fresh.intact.size),
      fresh.intact.content document inside]
  · rw [alters.content _ fresh.inside]
    simp [added, content?]

omit under in
theorem Runs.doctype (isScene : scene.document = document) (runs : visit.Runs scene last after)
    (reads : visit.value.IsReadAs scene.settings (.doctype (.text name :: children) attributes))
    (unseated : currentDoctype? visit.world.forest document = none) (isText : name ≠ "") :
    ∃ node publicId systemId, Extends document [node] visit.world.forest after.forest ∧
      after.forest.content? node =
        some (.doctype (some (Text.splitColon name).2) publicId systemId) := by
  obtain ⟨read, part⟩ := runs.part reads
  obtain ⟨node, made, gives, rest⟩ := bind_eq_ok.mp (runs.builds part)
  cases rest
  unfold buildDoctype at gives
  rw [leadingText_text isText, pure_bind] at gives
  obtain ⟨publicId, _, isPublic, gives⟩ := bind_eq_ok.mp gives
  obtain ⟨systemId, read', isSystem, gives⟩ := bind_eq_ok.mp gives
  have same : read'.forest = visit.world.forest :=
    ((readsOnly_identifier _ _ _ _ _).forest_of_ok isSystem).trans
      (((readsOnly_identifier _ _ _ _ _).forest_of_ok isPublic).trans (visit.forest_of_part? part))
  rw [isScene] at gives
  rw [← same] at intact isDocument rootless unseated ⊢
  obtain ⟨extended, content⟩ :=
    (extends_giveDoctype intact isDocument rootless unseated isText publicId systemId).of_ok gives
  exact ⟨node, publicId, systemId, extended, content⟩

theorem crowns_of_made? {made : Made} (isMade : visit.made? scene = some (made, after)) :
    visit.Crowns document made after := by
  obtain ⟨spec, name, attributes, world, same, run⟩ := makeElement_of_made? isMade
  rw [← same] at intact isDocument rootless
  have inside := lt_size_of_isA isDocument
  have crowns : Ensures (makeElement scene visit.place spec name attributes) world
      (fun made after => made.element = world.forest.size ∧
        made.inside.target = .under made.element ∧
        Extends document [made.element] world.forest after.forest ∧
        after.forest.children made.element = [] ∧
        (Target.under made.element).Site after.forest made.element) fun _ _ => True := by
    refine ensures_makeElement_attach intact.agrees (fun near resolution tag grown added => ?_)
      fun _ _ _ => trivial
    have fresh : Fresh world.forest world.forest.size grown.forest :=
      added ▸ fresh_add intact.agrees _ _
    rw [under]
    refine (extends_attach intact isDocument rootless fresh
      (by simp [added, isA, content?, Content.isFragment])).mono (fun _ after ends => ?_)
      fun _ _ _ => trivial
    obtain ⟨extended, alters⟩ := ends
    have empty : after.forest.children world.forest.size = [] := by
      rw [alters.children _ fresh.inside (Nat.ne_of_gt inside) (Option.some_ne_none _).symm, added,
        children_add, children_eq_nil (Nat.le_refl _)]
    refine ⟨rfl, rfl, extended, empty,
      .under (Nat.lt_of_lt_of_le fresh.inside alters.size) ?_ alters.agrees empty⟩
    rw [isA, alters.content _ fresh.inside]
    simp [added, content?, Content.isDocument]
  obtain ⟨element, isInside, extended, empty, site⟩ := crowns.of_ok run
  rw [same] at element extended
  exact ⟨element, isInside, extended, empty, site⟩

end Visit

end MarkupSpec
