import MarkupSpec.Proofs.Session.WellLinked

/-!
# Every node belongs to a document

A node is made for a document and belongs to it from then on, wherever it gets its place
(`belongs_buildWithin`).  So in every forest that requests and builds lead to each node belongs
to a document that is there (`Reached.owned`).

Only documents make nodes, and no edit that gives a node its place changes what it belongs
to, however it ends.  Both are said at once of every step (`Forest.Owns`).
-/

namespace MarkupSpec

open Forest Edit Build

namespace Forest

/-- Every node belongs to a document that is there, or is one. -/
def Owned (forest : Forest) : Prop :=
  ∀ id < forest.size, ∃ document, forest.documentOf? id = some document ∧
    forest.isA Content.isDocument document

/-- Nodes belong to the documents that they belonged to before, and all of them to one if that
was so before. -/
structure Owns (before after : Forest) : Prop where
  belongs : ∀ {id document}, before.documentOf? id = some document →
    after.documentOf? id = some document
  owned : before.Owned → after.Owned

theorem Owns.refl (forest : Forest) : Owns forest forest := ⟨id, id⟩

theorem Owns.trans {first second third : Forest} (onFirst : Owns first second)
    (onSecond : Owns second third) : Owns first third :=
  ⟨fun belongs => onSecond.belongs (onFirst.belongs belongs),
    fun owned => onSecond.owned (onFirst.owned owned)⟩

variable {forest : Forest}

/-- Nodes belong to the same documents after changes of their links and of what does not
last of their contents. -/
theorem Owns.update {id : NodeId} {step : Node → Node}
    (content : ∀ node, (step node).content.lasting = node.content.lasting)
    (owner : ∀ node, (step node).owner = node.owner) : Owns forest (forest.update id step) := by
  have kind (node : Node) : (step node).content.isDocument = node.content.isDocument := by
    rw [← Content.isDocument_lasting, content, Content.isDocument_lasting]
  have same (other : NodeId) :
      (forest.update id step).documentOf? other = forest.documentOf? other := by
    rw [documentOf?, documentOf?, node?_update]
    by_cases here : id = other
    · rw [if_pos here]
      cases forest.node? other with
      | none => rfl
      | some node => simp [kind, owner]
    · rw [if_neg here]
  refine ⟨fun belongs => (same _).trans belongs, fun owned other inside => ?_⟩
  rw [size_update] at inside
  obtain ⟨document, belongs, isDocument⟩ := owned other inside
  refine ⟨document, (same other).trans belongs, ?_⟩
  rw [isA_of_lasting (content?_update_lasting content) Content.isDocument_lasting]
  exact isDocument

theorem Owned.add_node {node : Node} (owned : forest.Owned)
    (belongs : node.content.isDocument ∨
      ∃ document, node.owner = some document ∧ forest.isA Content.isDocument document) :
    (forest.add node).Owned := by
  have later {document : NodeId} (isDocument : forest.isA Content.isDocument document) :
      (forest.add node).isA Content.isDocument document := by
    rw [isA, content?, node?_add, if_neg (Nat.ne_of_lt (lt_size_of_isA isDocument))]
    exact isDocument
  intro id inside
  by_cases last : id = forest.size
  · subst last
    by_cases isDocument : node.content.isDocument
    · exact ⟨forest.size, by simp [documentOf?, isDocument], by simp [isA, content?, isDocument]⟩
    · obtain ⟨document, owner, there⟩ := belongs.resolve_left isDocument
      exact ⟨document, by simp [documentOf?, isDocument, owner], later there⟩
  · rw [size_add] at inside
    obtain ⟨document, belongs, isDocument⟩ :=
      owned id (Nat.lt_of_le_of_ne (Nat.le_of_lt_succ inside) last)
    refine ⟨document, ?_, later isDocument⟩
    rw [documentOf?, node?_add, if_neg last]
    exact belongs

/-- A new node does not change what the other ones belong to. -/
theorem Owns.add_node {node : Node}
    (belongs : node.content.isDocument ∨
      ∃ document, node.owner = some document ∧ forest.isA Content.isDocument document) :
    Owns forest (forest.add node) := by
  refine ⟨fun {id document} there => ?_, fun owned => owned.add_node belongs⟩
  have inside : id ≠ forest.size := by
    rintro rfl
    rw [documentOf?, node?_eq_none (Nat.le_refl _)] at there
    cases there
  rw [documentOf?, node?_add, if_neg inside]
  exact there

end Forest

/-! ## Edits -/

namespace Edit

/-- After the step nodes belong to the documents that they belonged to. -/
abbrev KeepsOwned {α : Type} (step : Edit α) : Prop := Keeps Owns step

theorem owning : Follows Owns := ⟨Owns.refl, Owns.trans⟩

theorem keepsOwned_change {id : NodeId} {step : Node → Node}
    (content : ∀ node, (step node).content.lasting = node.content.lasting)
    (owner : ∀ node, (step node).owner = node.owner) : KeepsOwned (change id step) :=
  .modify fun _ => .update content owner

theorem keepsOwned_look (id : NodeId) : KeepsOwned (look id) := by
  intro forest
  rw [ensures_look]
  exact ⟨fun _ _ => .refl forest, fun _ => .refl forest⟩

theorem keepsOwned_onSome {step : NodeId → Edit Unit} (kept : ∀ id, KeepsOwned (step id))
    (id : Option NodeId) : KeepsOwned (onSome id step) := by
  cases id with
  | none => exact .pure owning _
  | some id => exact kept id

theorem keepsOwned_setNext (id : NodeId) (next : Option NodeId) : KeepsOwned (setNext id next) :=
  keepsOwned_change (fun _ => rfl) fun _ => rfl

theorem keepsOwned_setPrevious (id : NodeId) (previous : Option NodeId) :
    KeepsOwned (setPrevious id previous) :=
  keepsOwned_change (fun _ => rfl) fun _ => rfl

theorem keepsOwned_unlink (parent child : NodeId) : KeepsOwned (unlink parent child) :=
  .bind owning (keepsOwned_change (fun _ => rfl) fun _ => rfl) fun _ =>
    keepsOwned_change (fun _ => rfl) fun _ => rfl

theorem keepsOwned_removeClosing (parent child : NodeId) :
    KeepsOwned (removeClosing parent child) := by
  have closes : KeepsOwned (closeGap child) :=
    .bind owning (keepsOwned_look child) fun _ =>
      .bind owning (keepsOwned_onSome (fun _ => keepsOwned_setPrevious _ _) _) fun _ =>
        keepsOwned_onSome (fun _ => keepsOwned_setNext _ _) _
  refine .bind owning (keepsOwned_look parent) fun above => ?_
  split
  · exact .bind owning closes fun _ => keepsOwned_unlink parent child
  · exact .throw owning _

theorem keepsOwned_release (parent child : NodeId) : KeepsOwned (release parent child) := by
  refine .bind owning (keepsOwned_look parent) fun above => ?_
  split
  · split
    · exact keepsOwned_unlink parent child
    · exact .throw owning _
  · exact keepsOwned_removeClosing parent child

theorem keepsOwned_detach (child : NodeId) : KeepsOwned (detach child) :=
  .bind owning (keepsOwned_look child) fun _ =>
    keepsOwned_onSome (fun _ => keepsOwned_release _ child) _

theorem keepsOwned_checkKind (parent child : NodeId) : KeepsOwned (checkKind parent child) := by
  refine .bind owning (keepsOwned_look parent) fun above =>
    .bind owning (keepsOwned_look child) fun below => ?_
  split
  · exact .pure owning _
  · exact .throw owning _

theorem keepsOwned_linkLast (parent child : NodeId) : KeepsOwned (linkLast parent child) :=
  .bind owning (keepsOwned_look parent) fun _ =>
    .bind owning (keepsOwned_onSome (fun _ => .bind owning (keepsOwned_setPrevious _ _) fun _ =>
      keepsOwned_setNext _ _) _) fun _ =>
      .bind owning (keepsOwned_change (fun _ => rfl) fun _ => rfl) fun _ =>
        keepsOwned_change (fun _ => rfl) fun _ => rfl

theorem keepsOwned_appendOne (parent child : NodeId) : KeepsOwned (appendOne parent child) := by
  have checks : KeepsOwned (checkRoot parent child) := by
    refine .bind owning (.get owning) fun forest => ?_
    split
    · exact .throw owning _
    · exact .pure owning _
  exact .bind owning (keepsOwned_checkKind parent child) fun _ =>
    .bind owning (keepsOwned_detach child) fun _ =>
      .bind owning checks fun _ => keepsOwned_linkLast parent child

theorem keepsOwned_appendChild (parent child : NodeId) :
    KeepsOwned (appendChild parent child) := by
  refine .bind owning (keepsOwned_look parent) fun above => ?_
  split
  · unfold refuseChildren
    split
    · exact .throw owning _
    · exact .throw owning _
  · refine .bind owning (keepsOwned_look child) fun below => ?_
    split
    · exact .forM owning fun member _ => keepsOwned_appendOne parent member
    · exact keepsOwned_appendOne parent child

theorem keepsOwned_linkBefore (parent child mark : NodeId) :
    KeepsOwned (linkBefore parent child mark) :=
  .bind owning (keepsOwned_look parent) fun _ =>
    .bind owning (keepsOwned_change (fun _ => rfl) fun _ => rfl) fun _ =>
      .bind owning (keepsOwned_setNext _ _) fun _ =>
        .bind owning (keepsOwned_setPrevious _ _) fun _ =>
          .bind owning (keepsOwned_onSome (fun _ => keepsOwned_setNext _ _) _) fun _ =>
            .bind owning (keepsOwned_setPrevious _ _) fun _ =>
              keepsOwned_change (fun _ => rfl) fun _ => rfl

theorem keepsOwned_insertOne (parent child : NodeId) (mark : Option NodeId) :
    KeepsOwned (insertOne parent child mark) := by
  refine .bind owning (keepsOwned_checkKind parent child) fun _ =>
    .bind owning (keepsOwned_detach child) fun _ => ?_
  cases mark with
  | none => exact keepsOwned_appendChild parent child
  | some mark =>
      refine .bind owning (keepsOwned_look parent) fun above => ?_
      split
      · exact keepsOwned_linkBefore parent child mark
      · exact .throw owning _

theorem keepsOwned_insertBefore (parent child : NodeId) (mark : Option NodeId) :
    KeepsOwned (insertBefore parent child mark) := by
  refine .bind owning (keepsOwned_look child) fun below => ?_
  split
  · exact .forM owning fun member _ => keepsOwned_insertOne parent member mark
  · exact keepsOwned_insertOne parent child mark

theorem keepsOwned_linkInstead (parent new old : NodeId) :
    KeepsOwned (linkInstead parent new old) :=
  .bind owning (keepsOwned_look old) fun _ =>
    .bind owning (keepsOwned_change (fun _ => rfl) fun _ => rfl) fun _ =>
      .bind owning (keepsOwned_change (fun _ => rfl) fun _ => rfl) fun _ =>
        .bind owning (keepsOwned_change (fun _ => rfl) fun _ => rfl) fun _ =>
          .bind owning (keepsOwned_look new) fun _ =>
            .bind owning (keepsOwned_onSome (fun _ => keepsOwned_setNext _ _) _) fun _ =>
              .bind owning (keepsOwned_look new) fun _ =>
                keepsOwned_onSome (fun _ => keepsOwned_setPrevious _ _) _

theorem keepsOwned_replaceChild (parent new old : NodeId) :
    KeepsOwned (replaceChild parent new old) := by
  have one : KeepsOwned (replaceOne parent new old) := by
    refine .bind owning (keepsOwned_checkKind parent new) fun _ => ?_
    split
    · exact .pure owning _
    · refine .bind owning (keepsOwned_detach new) fun _ =>
        .bind owning (keepsOwned_look parent) fun above => ?_
      split
      · exact keepsOwned_linkInstead parent new old
      · exact .throw owning _
  refine .bind owning (keepsOwned_look new) fun below => ?_
  split
  · exact .bind owning (keepsOwned_look old) fun _ =>
      .bind owning (keepsOwned_release parent old) fun _ => keepsOwned_insertBefore parent new _
  · exact one

theorem keepsOwned_parentOf (id : NodeId) : KeepsOwned (parentOf id) := by
  refine .bind owning (keepsOwned_look id) fun node => ?_
  split
  · exact .pure owning _
  · exact .throw owning _

theorem keepsOwned_insertAfterSibling (node sibling : NodeId) :
    KeepsOwned (insertAfterSibling node sibling) :=
  .bind owning (keepsOwned_parentOf sibling) fun home =>
    .bind owning (keepsOwned_look sibling) fun _ => keepsOwned_insertBefore home node _

theorem keepsOwned_insertChain : ∀ (members : List NodeId) (previous : NodeId),
    KeepsOwned (insertChain previous members)
  | [], _ => .pure owning _
  | member :: rest, previous =>
      .bind owning (keepsOwned_insertAfterSibling member previous) fun _ =>
        keepsOwned_insertChain rest member

theorem keepsOwned_remove (node : NodeId) : KeepsOwned (remove node) := by
  rw [remove_eq]
  exact .bind owning (keepsOwned_parentOf node) fun home =>
    .bind owning (keepsOwned_removeClosing home node) fun _ =>
      keepsOwned_change (lasting_forgetting node) (forgetting_owner node)

theorem keepsOwned_replaceSibling (sibling node : NodeId) :
    KeepsOwned (replaceSibling sibling node) := by
  refine .bind owning (keepsOwned_look node) fun below => ?_
  split
  · split
    · exact keepsOwned_remove sibling
    · exact .bind owning (keepsOwned_parentOf sibling) fun home =>
        .bind owning (keepsOwned_replaceChild home _ sibling) fun _ => keepsOwned_insertChain _ _
  · exact .bind owning (keepsOwned_parentOf sibling) fun home =>
      keepsOwned_replaceChild home node sibling

theorem keepsOwned_checkDocument (document : NodeId) : KeepsOwned (checkDocument document) := by
  refine .bind owning (keepsOwned_look document) fun node => ?_
  split
  · exact .pure owning _
  · exact .throw owning _

theorem keepsOwned_attachOneUnder (home node : NodeId) : KeepsOwned (attachOneUnder home node) := by
  have root : KeepsOwned (setRoot home node) := by
    refine .bind owning (.bind owning (keepsOwned_checkDocument home) fun _ =>
      .bind owning (.get owning) fun _ => .pure owning _) fun root => ?_
    cases root with
    | none => exact keepsOwned_appendChild home node
    | some old =>
        dsimp only
        split
        · exact .pure owning _
        · exact keepsOwned_replaceChild home node old
  refine .bind owning (keepsOwned_look home) fun above =>
    .bind owning (keepsOwned_look node) fun below => ?_
  split
  · exact root
  · exact keepsOwned_appendChild home node

theorem keepsOwned_place (target : Target) (node : NodeId) : KeepsOwned (place target node) := by
  obtain ⟨mode, reference⟩ := target
  cases mode with
  | under =>
      refine .bind owning (.discard (keepsOwned_look reference)) fun _ =>
        .bind owning (keepsOwned_look node) fun below => ?_
      split
      · exact .forM owning fun member _ => keepsOwned_attachOneUnder reference member
      · exact keepsOwned_attachOneUnder reference node
  | before =>
      exact .bind owning (keepsOwned_parentOf reference) fun home =>
        keepsOwned_insertBefore home node _
  | after => exact keepsOwned_insertAfterSibling node reference
  | replacing => exact keepsOwned_replaceSibling reference node

theorem keepsOwned_placeDoctype (document doctype : NodeId) :
    KeepsOwned (placeDoctype document doctype) := by
  have remembers : KeepsOwned (change document (remembering doctype)) :=
    keepsOwned_change (lasting_remembering doctype) (remembering_owner doctype)
  refine .bind owning (.get owning) fun forest => ?_
  dsimp only
  split
  · exact .bind owning (keepsOwned_replaceChild document doctype _) fun _ => remembers
  · split
    · exact .bind owning (keepsOwned_insertBefore document doctype _) fun _ => remembers
    · exact .bind owning (keepsOwned_appendChild document doctype) fun _ => remembers

/-! ## Making nodes -/

/-- Nodes are made for documents. -/
theorem keepsOwned_create (document : NodeId) (content : Content) :
    KeepsOwned (create document content) := by
  intro forest
  rw [ensures_create]
  exact ⟨fun isDocument => .add_node (.inr ⟨document, rfl, isDocument⟩), fun _ => .refl forest⟩

/-- An element that is made with its attributes is one node more. -/
theorem keepsOwned_createElement {α : Type} {document : NodeId} {name : String}
    {namespaceUri : Option String} {entries : List Attribute.Entry} {next : NodeId → Edit α}
    (onNext : ∀ element, KeepsOwned (next element)) :
    KeepsOwned (createElement document name namespaceUri >>= fun element =>
      setAll element entries >>= fun _ => next element) := by
  intro forest
  rw [ensures_bind, createElement, ensures_create]
  refine ⟨fun isDocument => ?_, fun _ => .refl forest⟩
  have made (tag : Tag) :
      Owns forest (forest.add { content := .element tag, owner := some document }) :=
    .add_node (.inr ⟨document, rfl, isDocument⟩)
  rw [ensures_bind, ensures_setAll]
  split
  · rename_i tag _
    exact (onNext forest.size _).mono (fun _ _ later => (made tag).trans later)
      fun _ _ later => (made tag).trans later
  · rename_i tag _
    exact made tag

theorem keepsOwned_createResolved (document : NodeId) (resolution : Resolution) :
    KeepsOwned (createResolved document resolution) :=
  keepsOwned_createElement fun _ => .pure owning _

theorem keepsOwned_copyInto {copy : NodeId → Edit NodeId} (copies : ∀ id, KeepsOwned (copy id))
    (parent : NodeId) : ∀ members : List NodeId, KeepsOwned (copyInto copy parent members)
  | [] => .pure owning _
  | child :: rest =>
      .bind owning (copies child) fun _ =>
        .bind owning (keepsOwned_appendChild parent _) fun _ =>
          keepsOwned_copyInto copies parent rest

theorem keepsOwned_copyWithin (document : NodeId) (deep : Bool) :
    ∀ (depth : Nat) (id : NodeId), KeepsOwned (copyWithin document deep depth id)
  | 0, _ => .throw owning _
  | depth + 1, id => by
      have below (copy : NodeId) (members : List NodeId) : KeepsOwned (do
          if deep then copyInto (copyWithin document deep depth) copy members
          pure copy : Edit NodeId) := by
        split
        · exact .bind owning (keepsOwned_copyInto (keepsOwned_copyWithin document deep depth) _ _)
            fun _ => .pure owning _
        · exact .pure owning _
      refine .bind owning (keepsOwned_look id) fun node => ?_
      dsimp only
      split
      · exact keepsOwned_createElement fun copy => below copy node.children
      · exact .bind owning (keepsOwned_create _ _) fun copy => below copy node.children
      · exact .throw owning _
      · exact .throw owning _
      · exact keepsOwned_create _ _

theorem keepsOwned_copy (document : NodeId) (deep : Bool) (id : NodeId) :
    KeepsOwned (copy document deep id) :=
  .bind owning (keepsOwned_checkDocument document) fun _ =>
    .bind owning (.get owning) fun _ => keepsOwned_copyWithin document deep _ id

end Edit

/-! ## Steps of a build -/

/-- After the step nodes belong to the documents that they belonged to. -/
abbrev BuildsOwned {α : Type} (step : Build α) : Prop :=
  Keeps (fun before after : World => Owns before.forest after.forest) step

namespace BuildsOwned

theorem follows : Follows fun before after : World => Owns before.forest after.forest :=
  ⟨fun world => .refl world.forest, fun onFirst onSecond => onFirst.trans onSecond⟩

variable {α β : Type}

theorem of_readsOnly {step : Build α} (reads : ReadsOnly step) : BuildsOwned step := by
  have owns {world after : World} (same : SameForest world after) :
      Owns world.forest after.forest := by
    rw [show after.forest = world.forest from same]
    exact .refl _
  exact fun world => (reads world).mono (fun _ _ => owns) fun _ _ => owns

theorem edit {step : Edit α} (kept : KeepsOwned step) : BuildsOwned (Build.edit step) := by
  intro world
  rw [ensures_edit]
  exact kept world.forest

theorem pure (result : α) : BuildsOwned (pure result : Build α) := Keeps.pure follows result

theorem bind {first : Build α} {next : α → Build β} (onFirst : BuildsOwned first)
    (onNext : ∀ result, BuildsOwned (next result)) : BuildsOwned (first >>= next) :=
  Keeps.bind follows onFirst onNext

/-- A step that only reads, and what goes on from there. -/
theorem reads_bind {first : Build α} {next : α → Build β} (reads : ReadsOnly first)
    (onNext : ∀ result, BuildsOwned (next result)) : BuildsOwned (first >>= next) :=
  bind (of_readsOnly reads) onNext

/-- What follows nodes to the documents that they belong to stays. -/
theorem stays {step : Build α} {world : World} {I : Forest → Prop} (builds : BuildsOwned step)
    (onOwns : ∀ {before after}, Owns before after → I before → I after)
    (holds : I world.forest) : Stays I step world :=
  (builds world).mono (fun _ _ owns => onOwns owns holds) fun _ _ owns => onOwns owns holds

end BuildsOwned

section Steps

variable {scene : Scene}

theorem buildsOwned_attach (target : Target) (node : NodeId) : BuildsOwned (attach target node) :=
  .reads_bind (.discard (readsOnly_implicitParent target)) fun _ =>
    .reads_bind (readsOnly_remark _ _ _) fun _ => .edit (keepsOwned_place target node)

theorem buildsOwned_makeLeaf (scene : Scene) (path : List String) (spec : Spec) :
    BuildsOwned (makeLeaf scene path spec) := by
  have creates (content : Content) : BuildsOwned (edit (create scene.document content)) :=
    .edit (keepsOwned_create _ _)
  cases spec with
  | comment children => exact .reads_bind (readsOnly_childrenText _ _) fun _ => creates _
  | cdata children => exact .reads_bind (readsOnly_childrenText _ _) fun _ => creates _
  | instruction children attributes =>
      refine .reads_bind (readsOnly_leadingText _ _ _ _ _) fun target => ?_
      dsimp only
      split
      · exact .reads_bind (readsOnly_pseudoAttributes _ _) fun _ =>
          .reads_bind (readsOnly_pure _) fun _ => creates _
      · exact .reads_bind (readsOnly_childrenText _ _) fun _ => creates _
  | existing node => exact .edit (keepsOwned_copy _ _ _)
  | text value => exact .reads_bind readsOnly_describe fun _ => creates _
  | _ => exact .of_readsOnly (readsOnly_throw _)

theorem buildsOwned_buildLeaf (place : Place) (spec : Spec) :
    BuildsOwned (buildLeaf scene place spec) :=
  .bind (buildsOwned_makeLeaf _ _ _) fun _ =>
    .bind (buildsOwned_attach _ _) fun _ => .pure _

theorem buildsOwned_buildDoctype (spec : Spec) (path : List String) (children : List Value)
    (attributes : RawAttributes) : BuildsOwned (buildDoctype scene spec path children attributes) :=
  .reads_bind (readsOnly_leadingText _ _ _ _ _) fun _ =>
    .reads_bind (readsOnly_identifier _ _ _ _ _) fun _ =>
      .reads_bind (readsOnly_identifier _ _ _ _ _) fun _ =>
        .bind (.edit (keepsOwned_checkDocument _)) fun _ =>
          .reads_bind (readsOnly_doctypeName _) fun _ =>
            .bind (.edit (keepsOwned_create _ _)) fun _ =>
              .reads_bind (readsOnly_noticeReplaced _ _) fun _ =>
                .bind (.edit (keepsOwned_placeDoctype _ _)) fun _ =>
                  .pure _

theorem buildsOwned_makeElement (place : Place) (spec : Spec) (name : Value)
    (attributes : RawAttributes) : BuildsOwned (makeElement scene place spec name attributes) :=
  .reads_bind (readsOnly_resolveElement _ _ _ _ _) fun _ =>
    .bind (.edit (keepsOwned_createResolved _ _)) fun _ =>
      .bind (buildsOwned_attach _ _) fun _ => .pure _

theorem buildsOwned_openSequence (place : Place) : BuildsOwned (openSequence scene place) := by
  refine .reads_bind (readsOnly_implicitParent _) fun parent =>
    .bind ?_ fun _ => .pure _
  unfold holderFor
  split
  · exact .pure _
  · exact .edit (keepsOwned_create _ _)

theorem buildsOwned_closeSequence (target : Target) (holder : NodeId) (last : Option NodeId) :
    BuildsOwned (closeSequence target holder last) := by
  unfold closeSequence
  split
  · exact buildsOwned_attach _ _
  · exact .pure _

theorem Visit.keeps_of_owns {I : Forest → Prop}
    (onOwns : ∀ {before after}, Owns before after → I before → I after) (visit : Visit) :
    visit.Keeps scene I where
  leaf spec _ _ _ := (buildsOwned_buildLeaf visit.place spec).stays onOwns
  doctype children attributes _ _ := (buildsOwned_buildDoctype _ _ children attributes).stays onOwns
  element name attributes _ _ _ := (buildsOwned_makeElement visit.place _ name attributes).stays onOwns
  opens _ _ _ := (buildsOwned_openSequence visit.place).stays onOwns
  closes _ _ _ _ _ _ _ _ _ _ _ := (buildsOwned_closeSequence _ _ _).stays onOwns

/-- A node belongs to the same document before a build and after it, however it ends. -/
theorem belongs_buildWithin {budget : Nat} {value : Value} {place : Place} {world : World}
    {id document : NodeId} (belongs : world.forest.documentOf? id = some document) :
    Stays (fun forest => forest.documentOf? id = some document)
      (buildWithin scene budget value place) world :=
  keeps_buildWithin budget { value, place, world }
    (fun visit _ => visit.keeps_of_owns fun owns => owns.belongs) belongs

end Steps

/-! ## Requests -/

section Requests

variable {world : World}

theorem Forest.Owned.add_document {forest : Forest} (owned : forest.Owned) (version : Value) :
    (forest.add { content := .document version none, owner := none }).Owned :=
  owned.add_node (.inl rfl)

theorem owned_compile {settings : Settings} {spec : Value} {where? : Option (Mode × Value)}
    {document arguments : Value} (owned : world.forest.Owned)
    (known : ∀ choice ∈ where?, ∀ id ∈ choice.2.node?, id < world.forest.size) :
    Stays Owned (compile settings spec where? document arguments) world :=
  stays_compile (fun _ version owned => owned.add_document version) owned known
    fun task start _ owned _ _ _ =>
      keeps_buildWithin _ { value := spec, place := { target := task.target }, world := start }
        (fun visit _ => visit.keeps_of_owns fun owns => owns.owned) owned

theorem owned_markup {settings : Settings} {spec document : Value} {keywords : Keywords}
    {arguments : Value} (owned : world.forest.Owned)
    (known : ∀ entry ∈ keywords.given, ∀ id ∈ entry.2.node?, id < world.forest.size) :
    Stays Owned (markup settings spec document keywords arguments) world := by
  show Ensures (markup settings spec document keywords arguments) world _ _
  rw [markup]
  cases chosen : Mode.choose keywords with
  | error cause => exact owned
  | ok where? =>
      exact owned_compile owned fun choice isChoice =>
        known choice (mem_given_of_choose chosen choice isChoice)

theorem Request.owned_run {request : Request} (owned : world.forest.Owned)
    (known : request.Known world) : Stays Owned request.run world := by
  cases request with
  | document version =>
      exact stays_newDocument (fun _ version owned => owned.add_document version) owned version
  | markup settings spec document keywords arguments => exact owned_markup owned known
  | page page settings =>
      refine (Page.readsOnly_spec page settings.marker).stays_bind owned fun _ _ _ owned =>
        owned_markup owned fun entry given => ?_
      cases given

/-- Whatever was asked for before, every node belongs to a document. -/
theorem Reached.owned (reached : Reached world) : world.forest.Owned := by
  induction reached with
  | start empty =>
      intro id inside
      rw [empty] at inside
      exact absurd inside (Nat.not_lt_zero id)
  | meanwhile _ same ih => exact same ▸ ih
  | request _ request known ih => exact request.leaves_eq _ ▸ (request.owned_run ih known).after
  | compile _ settings spec where? document arguments known ih => exact (owned_compile ih known).after

end Requests

end MarkupSpec
