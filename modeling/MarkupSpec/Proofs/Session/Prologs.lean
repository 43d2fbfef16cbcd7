import MarkupSpec.Proofs.Build.Atomic
import MarkupSpec.Proofs.Forest.DocumentProlog

/-!
# Documents that are built under

As long as nodes go under documents, or beside nodes that are not right under a document,
every document keeps its prolog: it has at most one element, no doctype but the one that
it remembers, and that in front of the element.  This is so whatever is built, existing
nodes, several roots and several doctypes included, and however that ends
(`Session.prologs`).

Beside a child of a document none of this is seen to: nodes are put there whatever the
document has already.
-/

namespace MarkupSpec

open Forest Edit Build

/-- The target goes under a node, or beside one that is not right under a document. -/
def Target.Apart (target : Target) (forest : Forest) : Prop :=
  target.isUnder ∨ forest.Movable target.reference

instance (forest : Forest) (id : NodeId) : Decidable (forest.Movable id) :=
  inferInstanceAs (Decidable (∀ home ∈ forest.parent? id, forest.isA Content.isDocument home = false))

instance (target : Target) (forest : Forest) : Decidable (target.Apart forest) :=
  inferInstanceAs (Decidable (target.isUnder ∨ forest.Movable target.reference))

/-! ## Making nodes -/

/-- Copies are no doctypes. -/
theorem Edit.noDoctype_copy (document : NodeId) (deep : Bool) (id : NodeId) (forest : Forest) :
    Ensures (copy document deep id) forest
      (fun copy after => after.isA Content.isDoctype copy = false) fun _ _ => True := by
  have below (content : Content) (noDoctype : content.isDoctype = false) (members : List NodeId)
      (depth : Nat) :
      Ensures (do
        if deep then copyInto (copyWithin document deep depth) forest.size members
        pure forest.size : Edit NodeId) (forest.add { content, owner := some document })
        (fun copy after => after.isA Content.isDoctype copy = false) fun _ _ => True := by
    have made : (forest.add { content, owner := some document }).isA Content.isDoctype forest.size =
        false := by simpa [isA, content?] using noDoctype
    split
    · rw [ensures_bind]
      refine (grows_copyInto (grows_copyWithin document deep depth) members (Grows.refl _)).mono
        (fun _ after grew => ?_) fun _ _ _ => trivial
      show after.isA Content.isDoctype forest.size = false
      rw [grew.isA_of_lt Content.isDoctype_lasting (by simp)]
      exact made
    · exact made
  rw [copy, ensures_bind, ensures_checkDocument]
  refine ⟨fun _ => ?_, fun _ => trivial⟩
  rw [ensures_bind, ensures_get, copyWithin, ensures_bind, ensures_look]
  refine ⟨fun node _ => ?_, fun _ => trivial⟩
  dsimp only
  split
  · rw [ensures_bind, createElement, ensures_create]
    refine ⟨fun _ => ?_, fun _ => trivial⟩
    rw [ensures_bind, ensures_setAll]
    split
    · exact below _ rfl _ _
    · trivial
  · rw [ensures_bind, ensures_create]
    exact ⟨fun _ => below _ rfl _ _, fun _ => trivial⟩
  · trivial
  · trivial
  · rename_i noElement noFragment noDocument noDoctype
    rw [ensures_create]
    refine ⟨fun _ => ?_, fun _ => trivial⟩
    cases content : node.content with
    | doctype => exact absurd content (noDoctype _ _ _)
    | _ => simp [isA, content?, Content.isDoctype]

/-- What is made without parts is no doctype. -/
theorem noDoctype_makeLeaf (scene : Scene) (path : List String) (spec : Spec) (world : World) :
    Ensures (makeLeaf scene path spec) world
      (fun node after => after.forest.isA Content.isDoctype node = false) fun _ _ => True := by
  by_cases copied : ∃ id, spec = .existing id
  · obtain ⟨id, rfl⟩ := copied
    show Ensures (edit (Edit.copy scene.document true id)) world _ _
    rw [ensures_edit]
    exact noDoctype_copy scene.document true id world.forest
  · refine (addsLeaf_makeLeaf scene path (fun id same => copied ⟨id, same⟩) world).mono
      (fun node after adds => ?_) fun _ _ _ => trivial
    obtain ⟨-, rfl, content, isLeaf, added⟩ := adds
    rw [added]
    cases content <;> simp_all [isA, content?, Content.isLeaf, Content.isDoctype]

/-- Nodes are made, and none of them is a document. -/
theorem Forest.Composed.made {before after : Forest} (composed : before.Composed)
    (grown : Intact before after)
    (noDocument : ∀ id, before.size ≤ id → after.isA Content.isDocument id = false) :
    after.Composed :=
  composed.grown grown fun document late isDocument => by
    rw [noDocument document late] at isDocument
    cases isDocument

theorem Forest.Composed.add {before : Forest} (composed : before.Composed) {content : Content}
    (owner : Option NodeId) (noDocument : content.isDocument = false) :
    (before.add { content, owner }).Composed :=
  composed.made (fresh_add composed.intact.agrees content owner).intact
    (grows_add noDocument).noDocument

/-- A new document has nothing under it and remembers no doctype. -/
theorem Forest.Composed.add_document {before : Forest} (composed : before.Composed)
    (version : Value) :
    (before.add { content := .document version none, owner := none }).Composed := by
  refine composed.grown (fresh_add composed.intact.agrees _ _).intact fun document late isDocument => ?_
  have isLast : document = before.size := by
    have inside := lt_size_of_isA isDocument
    rw [size_add] at inside
    exact Nat.le_antisymm (Nat.le_of_lt_succ inside) late
  have empty : (before.add { content := .document version none, owner := none }).children document =
      [] := by simp [children, isLast]
  have forgets : (before.add { content := .document version none, owner := none }).doctype? document =
      none := by simp [doctype?, content?, isLast]
  unfold HasProlog
  rw [empty, forgets]
  exact Prolog.nil _ _

/-! ## Steps of a build -/

section Steps

variable {scene : Scene} {place : Place} {target : Target} {node document : NodeId} {world : World}

/-- Nodes that go beside a node elsewhere leave the rows of documents alone. -/
theorem prologs_attach_beside (composed : world.forest.Composed)
    (beside : target.isUnder = false) (apart : world.forest.Movable target.reference)
    (movable : world.forest.Movable node) : Stays Prologs (attach target node) world := by
  have agrees := composed.intact.agrees
  have loaded : Loaded (fun id => world.forest.isA Content.isDocument id = false)
      world.forest.Movable world.forest :=
    { children := fun id _ isFragment child among home there => by
        rw [agrees.parent id child among] at there
        cases there
        exact isDocument_of_isFragment isFragment
      parent := fun id movable => movable }
  refine (moves_attach agrees movable (fun home isHome => ?_) loaded).mono
    (fun _ _ ends => composed.prologs.moved ends.1 fun _ noDocument => noDocument)
    fun _ _ ends => composed.prologs.moved ends.1 fun _ noDocument => noDocument
  rw [Target.home?, if_neg (by simp [beside])] at isHome
  exact apart home isHome

/-- A node that was just made gets its place. -/
theorem composed_attach (composed : world.forest.Composed) (apart : target.Apart world.forest)
    (lower : target.reference < node) (movable : world.forest.Movable node)
    (noDoctype : world.forest.isA Content.isDoctype node = false) :
    Stays Composed (attach target node) world := by
  cases isUnder : target.isUnder with
  | true =>
      refine ensures_attach (fun _ after _ same => ?_) fun _ after same => same ▸ composed
      rw [ensures_edit, same, Target.eq_under isUnder]
      exact (composed_attachUnder composed lower movable noDoctype).mono
        (fun _ _ composed => composed) fun _ _ composed => composed
  | false =>
      have elsewhere := apart.resolve_left (by simp [isUnder])
      exact ((intact_attach composed.intact (Nat.zero_le _) lower movable).and
        (prologs_attach_beside composed isUnder elsewhere movable)).mono
        (fun _ _ ends => ⟨ends.1, ends.2⟩) fun _ _ ends => ⟨ends.1, ends.2⟩

/-- A node that is not right under a document does not come under one. -/
theorem Target.Apart.later {before after : Forest} {spared : NodeId → Prop}
    (apart : target.Apart before) (known : target.reference < before.size)
    (grew : Grows spared before after) : target.Apart after := by
  refine apart.imp_right fun movable home there => ?_
  rcases grew.parent _ known with same | ⟨gone, -⟩
  · rw [same] at there
    rw [grew.isDocument]
    exact movable home there
  · rw [there] at gone
    cases gone

theorem composed_attach_fresh {before : Forest} (composed : before.Composed)
    (apart : target.Apart before) (known : target.reference < before.size)
    (fresh : Fresh before node world.forest) (grew : Grows Nobody before world.forest)
    (noDoctype : world.forest.isA Content.isDoctype node = false) :
    Stays Composed (attach target node) world :=
  composed_attach (composed.made fresh.intact grew.noDocument) (apart.later known grew)
    (fresh.number ▸ known) fresh.movable noDoctype

theorem composed_buildLeaf (composed : world.forest.Composed)
    (apart : place.target.Apart world.forest) (known : place.target.reference < world.forest.size)
    (spec : Spec) : Stays Composed (buildLeaf scene place spec) world := by
  show Ensures (buildLeaf scene place spec) world _ _
  rw [buildLeaf, MarkupSpec.ensures_bind]
  refine (((fresh_makeLeaf scene place.path spec composed.intact.agrees).and
    (makes_makeLeaf scene place.path spec world)).and
    (noDoctype_makeLeaf scene place.path spec world)).mono (fun node after ends => ?_)
    fun _ _ ends => composed.made ends.1.1 ends.1.2.noDocument
  obtain ⟨⟨fresh, grew, -⟩, noDoctype⟩ := ends
  rw [MarkupSpec.ensures_bind]
  exact (composed_attach_fresh composed apart known fresh grew noDoctype).mono
    (fun _ _ composed => composed) fun _ _ composed => composed

theorem composed_makeElement (composed : world.forest.Composed)
    (apart : place.target.Apart world.forest) (known : place.target.reference < world.forest.size)
    (spec : Spec) (name : Value) (attributes : RawAttributes) :
    Stays Composed (makeElement scene place spec name attributes) world := by
  -- An element that cannot be made may still have been added.
  have ends : Ensures (makeElement scene place spec name attributes) world
      (fun _ after => after.forest.Composed)
      fun _ after => after.forest.Composed ∨ Intact world.forest after.forest :=
    ensures_makeElement_attach composed.intact.agrees
      (fun _ _ tag made added =>
        (composed_attach_fresh composed apart known
          (added ▸ fresh_add composed.intact.agrees _ _)
          (added ▸ grows_add rfl)
          (by simp [added, isA, content?, Content.isDoctype])).mono
          (fun _ _ composed => composed) fun _ _ composed => .inl composed)
      fun _ _ kept => .inr kept
  refine (ends.and (grows_makeElement scene place spec name attributes world)).mono
    (fun _ _ ends => ends.1) fun _ after ends => ?_
  obtain ⟨composed' | kept, grew⟩ := ends
  · exact composed'
  · exact composed.made kept grew.noDocument

/-- A document that is given a doctype remembers it, and no other one is there. -/
theorem composed_giveDoctype (composed : world.forest.Composed) (root : Value)
    (publicId systemId : Option String) :
    Stays Composed (giveDoctype document root publicId systemId) world := by
  show Ensures (giveDoctype document root publicId systemId) world _ _
  rw [giveDoctype, MarkupSpec.ensures_bind, ensures_edit, ensures_checkDocument]
  refine ⟨fun isDocument => ?_, fun _ => composed⟩
  refine (readsOnly_doctypeName root).ensures_bind (fun asked after _ same => ?_)
    fun _ after same => same ▸ composed
  rw [MarkupSpec.ensures_bind, ensures_edit, same, createDoctype, ensures_create]
  refine ⟨fun _ => ?_, fun _ => composed⟩
  have made (content : Content) (isDoctype : content.isDoctype) :
      (world.forest.add { content, owner := some document }).Composed :=
    composed.add _ (by cases content <;> first | rfl | cases isDoctype)
  refine (readsOnly_noticeReplaced document root).ensures_bind (fun _ final _ same => ?_)
    fun _ final same => same ▸ made _ rfl
  rw [MarkupSpec.ensures_bind, ensures_edit, same]
  have inside := lt_size_of_isA isDocument
  have ready (content : Content) (isDoctype : content.isDoctype) :
      (world.forest.add { content, owner := some document }).Ready document world.forest.size :=
    { inside := by simp
      lower := inside
      movable := (fresh_add composed.intact.agrees content _).movable
      noFragment := by
        simpa [isA, content?] using Content.isFragment_of_isDoctype isDoctype }
  have isDocument' (content : Content) :
      (world.forest.add { content, owner := some document }).isA Content.isDocument document := by
    rw [isA, (fresh_add composed.intact.agrees content _).intact.content document inside]
    exact isDocument
  exact ((intact_placeDoctype (made _ rfl).intact (Nat.zero_le _) (ready _ rfl)).and
    (prologs_placeDoctype (made _ rfl) (isDocument' _)
      (by simp [isA, content?, Content.isDoctype]) (ready _ rfl))).mono
    (fun _ _ ends => ⟨ends.1, ends.2⟩) fun _ _ ends => ⟨ends.1, ends.2⟩

theorem composed_openSequence (composed : world.forest.Composed) (place : Place) :
    Stays Composed (openSequence scene place) world :=
  ensures_openSequence (fun _ => composed) (fun _ _ _ _ => composed.add _ rfl) fun _ => composed

/-- A fragment that holds what was built for a sequence gives it its place. -/
theorem composed_closeSequence {inside : Place} {opened built : World} {budget : Nat}
    {items : List Value} {last : Option NodeId}
    (apart : place.target.Apart world.forest) (known : place.target.reference < world.forest.size)
    (opens : openSequence scene place world = .ok inside opened)
    (builds : buildMembers (buildWithin scene budget) inside 0 none items opened = .ok last built)
    (composed : built.forest.Composed) :
    Stays Composed (closeSequence place.target inside.target.reference last) built := by
  show Ensures (closeSequence _ _ last) built _ _
  unfold closeSequence
  split
  · rename_i attaches
    have beside : place.target.isUnder = false := by
      simpa using (Bool.and_eq_true_iff.mp attaches).2
    obtain ⟨grew, -, -, holds⟩ := (grows_openSequence scene place world).of_ok opens
    obtain ⟨-, isHolder, added⟩ := holds beside
    have grown :=
      (grows_buildMembers (grows_buildWithin scene budget) inside items 0 none opened).of_ok builds
    have isFragment : built.forest.isA Content.isFragment inside.target.reference := by
      rw [isHolder, grown.isA_of_lt Content.isFragment_lasting (by rw [added]; simp), added]
      simp [isA, content?, Content.isFragment]
    refine composed_attach composed
      ((apart.later known grew).later (Nat.lt_of_lt_of_le known grew.size) grown)
      (isHolder ▸ known) (fun home there => ?_)
      (isA_of_isA (fun {content} is => by cases content <;> first | rfl | cases is) isFragment)
    have noFragment := (composed.intact.agrees.fits _ home there).isFragment
    rw [isFragment] at noFragment
    cases noFragment
  · exact composed

/-- A visit at a target that goes under a node, or beside one elsewhere, keeps the forest
composed. -/
theorem Visit.keeps_composed {visit : Visit} (apart : visit.place.target.Apart visit.world.forest)
    (known : visit.place.target.reference < visit.world.forest.size) :
    visit.Keeps scene Composed where
  leaf spec _ part _ composed :=
    have same := Visit.forest_of_part? part
    composed_buildLeaf composed (same ▸ apart) (same ▸ known) spec
  doctype _ _ _ _ composed :=
    (readsOnly_leadingText _ _ _ _ _).stays_bind composed fun _ _ _ composed =>
      (readsOnly_identifier _ _ _ _ _).stays_bind composed fun _ _ _ composed =>
        (readsOnly_identifier _ _ _ _ _).stays_bind composed fun _ _ _ composed =>
          composed_giveDoctype composed _ _ _
  element name attributes _ _ part composed :=
    have same := Visit.forest_of_part? part
    composed_makeElement composed (same ▸ apart) (same ▸ known) _ name attributes
  opens _ _ _ composed := composed_openSequence composed visit.place
  closes _ _ _ _ _ _ _ part _ opens builds composed :=
    have same := Visit.forest_of_part? part
    composed_closeSequence (same ▸ apart) (same ▸ known) opens builds composed

end Steps

/-! ## Builds -/

/-- All visits of a build that goes under a node, or beside one elsewhere, do so. -/
theorem apart_of_visit {scene : Scene} {start visit : Visit} {budget : Nat}
    (apart : start.place.target.Apart start.world.forest)
    (among : visit ∈ visitsWithin scene budget start) :
    visit.place.target.Apart visit.world.forest := by
  refine visits_induct (P := fun place world _ => place.target.Apart world.forest)
    (H := fun _ => True) (fun _ _ _ _ apart => apart) (fun _ _ _ _ apart same => same ▸ apart)
    (fun _ _ _ _ _ _ run => .inl ?_) (fun _ _ _ _ _ _ _ _ _ isUnder _ => .inl isUnder)
    (fun visit made after _ _ isMade => .inl ?_) budget start apart (fun _ _ => trivial) visit among
  · exact ((grows_openSequence scene _ _).of_ok run).2.1
  · obtain ⟨spec, name, attributes, world, -, run⟩ := Visit.makeElement_of_made? isMade
    obtain ⟨-, -, isInside⟩ :=
      (grows_makeElement scene visit.place spec name attributes world).of_ok run
    rw [isInside]
    rfl

/-- A build that goes under a node, or beside one elsewhere, keeps the forest composed,
however it ends. -/
theorem composed_buildWithin {scene : Scene} {budget : Nat} (start : Visit)
    (composed : start.world.forest.Composed) (apart : start.place.target.Apart start.world.forest)
    (known : start.place.target.reference < start.world.forest.size) :
    Stays Composed (buildWithin scene budget start.value start.place) start.world :=
  have within : start.place.target.Within {} start.world.forest := ⟨Nat.zero_le _, known⟩
  keeps_buildWithin budget start
    (fun _ among => Visit.keeps_composed (apart_of_visit apart among)
      (within_of_visit (Nat.zero_le _) within among).inside)
    composed

section Requests

variable {world : World}

/-- A place goes under a node, or beside one that is not right under a document. -/
def Choice.Apart (world : World) (choice : Mode × Value) : Prop :=
  ∀ id ∈ choice.2.node?, id < world.forest.size ∧
    Target.Apart { mode := choice.1, reference := id } world.forest

instance (world : World) (choice : Mode × Value) : Decidable (Choice.Apart world choice) :=
  inferInstanceAs (Decidable (∀ id ∈ choice.2.node?, id < world.forest.size ∧
    Target.Apart { mode := choice.1, reference := id } world.forest))

/-- A build that is ready goes under a node, or by the node of its place in the forest as it
was. -/
theorem prepare_target (settings : Settings) (where? : Option (Mode × Value))
    (document arguments : Value) (before : World) :
    Ensures (prepare settings where? document arguments) before
      (fun task start => task.target.isUnder ∨ ∃ choice ∈ where?, ∃ id ∈ choice.2.node?,
        task.target = { mode := choice.1, reference := id } ∧ start.forest = before.forest)
      fun _ _ => True := by
  cases where? with
  | none =>
      rw [prepare]
      refine (readsOnly_spread arguments).ensures_bind (fun _ after _ _ => ?_) fun _ _ _ => trivial
      rw [MarkupSpec.ensures_bind]
      refine Ensures.of_run (fun root made _ => ?_) fun _ _ _ => trivial
      exact (readsOnly_nodeOrNone root).ensures_bind (fun _ _ _ _ => .inl rfl) fun _ _ _ => trivial
  | some choice =>
      obtain ⟨mode, reference⟩ := choice
      cases reference with
      | node id =>
          exact (prepare_node settings mode id document arguments before).mono
            (fun _ _ ready => .inr ⟨_, rfl, id, rfl, ready.2.2, ready.1⟩) fun _ _ _ => trivial
      | _ =>
          rw [prepare]
          exact (readsOnly_spread arguments).ensures_bind (fun _ _ _ _ =>
            (readsOnly_quoted _).ensures_bind (fun _ _ _ _ => trivial) fun _ _ _ => trivial)
            fun _ _ _ => trivial

theorem composed_compile {settings : Settings} {spec : Value} {where? : Option (Mode × Value)}
    {document arguments : Value} (composed : world.forest.Composed)
    (apart : ∀ choice ∈ where?, Choice.Apart world choice) :
    Stays Composed (compile settings spec where? document arguments) world :=
  stays_compile (fun _ version composed => composed.add_document version) composed
    (fun choice isChoice id isNode => (apart choice isChoice id isNode).1)
    fun task start prepared composed inside _ _ => by
      refine composed_buildWithin
        { value := spec, place := { target := task.target }, world := start } composed ?_ inside
      rcases (prepare_target settings where? document arguments world).of_ok prepared with
        isUnder | ⟨choice, isChoice, id, isNode, isTarget, same⟩
      · exact .inl isUnder
      · show task.target.Apart start.forest
        rw [isTarget, same]
        exact (apart choice isChoice id isNode).2

theorem composed_markup {settings : Settings} {spec document : Value} {keywords : Keywords}
    {arguments : Value} (composed : world.forest.Composed)
    (apart : ∀ entry ∈ keywords.given, Choice.Apart world entry) :
    Stays Composed (markup settings spec document keywords arguments) world := by
  show Ensures (markup settings spec document keywords arguments) world _ _
  rw [markup]
  cases chosen : Mode.choose keywords with
  | error cause => exact composed
  | ok where? =>
      exact composed_compile composed fun choice isChoice =>
        apart choice (mem_given_of_choose chosen choice isChoice)

/-- The request goes under a node, or beside one that is not right under a document. -/
def Request.Apart (world : World) : Request → Prop
  | .markup _ _ _ keywords _ => ∀ entry ∈ keywords.given, Choice.Apart world entry
  | .document _ | .page .. => True

instance (world : World) : (request : Request) → Decidable (request.Apart world)
  | .markup _ _ _ keywords _ =>
      inferInstanceAs (Decidable (∀ entry ∈ keywords.given, Choice.Apart world entry))
  | .document _ | .page .. => inferInstanceAs (Decidable True)

theorem Request.composed_run {request : Request} (composed : world.forest.Composed)
    (apart : request.Apart world) : Stays Composed request.run world := by
  cases request with
  | document version =>
      exact stays_newDocument (fun _ version composed => composed.add_document version) composed
        version
  | markup settings spec document keywords arguments => exact composed_markup composed apart
  | page page settings =>
      exact (Page.readsOnly_spec page settings.marker).stays_bind composed fun _ _ _ composed =>
        composed_markup composed nofun

end Requests

/-! ## Sessions -/

/-- The worlds that requests and builds lead to, from one without nodes, if none of these
goes beside a node right under a document.  Between them anything may change but the
forest. -/
inductive ReachedApart : World → Prop where
  | start {world : World} (empty : world.forest = {}) : ReachedApart world
  | meanwhile {before after : World} (reached : ReachedApart before)
      (same : after.forest = before.forest) : ReachedApart after
  | request {world : World} (reached : ReachedApart world) (request : Request)
      (apart : request.Apart world) : ReachedApart (request.leaves world)
  | compile {world : World} (reached : ReachedApart world) (settings : Settings) (spec : Value)
      (where? : Option (Mode × Value)) (document arguments : Value)
      (apart : ∀ choice ∈ where?, Choice.Apart world choice) :
      ReachedApart (world.after (compile settings spec where? document arguments))

theorem ReachedApart.composed {world : World} (reached : ReachedApart world) :
    world.forest.Composed := by
  induction reached with
  | start empty =>
      rw [empty]
      exact ⟨Intact.refl wellNamed_empty.agrees, nofun⟩
  | meanwhile _ same composed => exact same ▸ composed
  | request _ request apart composed =>
      exact request.leaves_eq _ ▸ (request.composed_run composed apart).after
  | compile _ settings spec where? document arguments apart composed =>
      exact (composed_compile composed apart).after

/-- Whatever was built under nodes, or beside nodes that are not right under a document,
and however it ended, every document has at most one element, no doctype but the one that
it remembers, and that one in front of the element. -/
theorem reachedApart_prologs {world : World} (reached : ReachedApart world) :
    world.forest.Prologs :=
  reached.composed.prologs

/-- A document that is built in with two elements around a doctype, and under which a build
of another doctype, a copy of the element and a text fails at the text. -/
def composedRequests : List Request :=
  [.document .null,
    .markup {} (.list [.map [(.null, .text "a")], .map [(.text "#doctype", .text "html")],
      .map [(.null, .text "b")]]) (.node 0) {} (.list []),
    .markup {} (.list [.map [(.text "#doctype", .text "svg")], .node 3, .text "t"]) .null
      { under := .node 0 } (.list [])]

/-- The document is left with its second doctype, in front of the copy. -/
theorem reachedApart_prologs_composedRequests :
    (worldAfter {} composedRequests).forest.children 0 = [4, 5] ∧
      (worldAfter {} composedRequests).forest.doctype? 0 = some 4 ∧
      (worldAfter {} composedRequests).forest.parent? 6 = none ∧
      (worldAfter {} composedRequests).forest.Prologs := by
  refine ⟨by decide +kernel, by decide +kernel, by decide +kernel, reachedApart_prologs ?_⟩
  rw [composedRequests, worldAfter, worldAfter, worldAfter, worldAfter]
  refine (((ReachedApart.start rfl).request _ ?_).request _ ?_).request _ ?_
  · trivial
  · decide +kernel
  · decide +kernel

end MarkupSpec
