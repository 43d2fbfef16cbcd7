import MarkupSpec.Proofs.Build.NodeOwners

/-!
# Children belong where their parents do

A build makes its nodes for one document, that it is given or that the node it goes by belongs
to (`documentAsked?`).  As long as the node that a build goes by belongs to that document, no
child comes to belong to another document than its parent (`reachedAtHome_owners`).

What carries this is that only nodes of the one document are placed, and only under nodes of
that document: a fragment that is attached belongs to it, and so do the children that it
has, since they belong where their parent does (`Together.loaded`).
-/

namespace MarkupSpec

open Forest Edit Build

namespace Forest

/-- The document that a node was made for, if it was made for one. -/
def owner? (forest : Forest) (id : NodeId) : Option NodeId := (forest.node? id).bind Node.owner

/-- Every child was made for the document that its parent is, or was made for. -/
def OwnersAgree (forest : Forest) : Prop :=
  ∀ child home, forest.parent? child = some home → forest.owner? child = forest.documentOf? home

/-- What is no document belongs to the document that it was made for. -/
theorem owner?_eq {forest : Forest} {id : NodeId}
    (noDocument : forest.isA Content.isDocument id = false) :
    forest.owner? id = forest.documentOf? id := by
  rw [owner?, documentOf?]
  cases there : forest.node? id with
  | none => rfl
  | some node =>
      rw [isA_of_node? there] at noDocument
      simp [noDocument]

/-- All nodes belong to documents, and children where their parents do. -/
structure Together (forest : Forest) : Prop where
  owned : forest.Owned
  parent : ∀ child home, forest.parent? child = some home →
    forest.documentOf? child = forest.documentOf? home
  children : ∀ home, ∀ child ∈ forest.children home,
    child < forest.size ∧ forest.documentOf? child = forest.documentOf? home

variable {before forest after : Forest} {document : NodeId}

/-- What is at home in one document may be placed there as a whole. -/
theorem Together.loaded (together : forest.Together) (document : NodeId) :
    Loaded (forest.documentOf? · = some document) (forest.documentOf? · = some document)
      forest where
  children id isPlaced _ child among := (together.children id child among).2.trans isPlaced
  parent id isPlaced home there := (together.parent id home there).symm.trans isPlaced

/-- Nodes of one document that are placed under nodes of it belong where these do. -/
theorem Together.moved {dropped : NodeId → Prop} (together : before.Together)
    (owns : Owns before after)
    (moves : Moves (before.documentOf? · = some document) (before.documentOf? · = some document)
      dropped before after) : after.Together where
  owned := owns.owned together.owned
  parent child home there := by
    rcases moves.parent child with same | ⟨gone, -⟩ | ⟨other, here, isHome, isPlaced⟩
    · rw [same] at there
      obtain ⟨owner, belongs, -⟩ := together.owned child (lt_size_of_parent? there)
      have beside := (together.parent child home there).symm.trans belongs
      rw [owns.belongs belongs, owns.belongs beside]
    · rw [there] at gone
      cases gone
    · rw [there] at here
      cases here
      rw [owns.belongs isPlaced, owns.belongs isHome]
  children home child among := by
    rw [moves.size]
    rcases moves.children home child among with among | ⟨isHome, isPlaced⟩
    · obtain ⟨inside, same⟩ := together.children home child among
      obtain ⟨owner, belongs, -⟩ := together.owned child inside
      refine ⟨inside, ?_⟩
      rw [owns.belongs belongs, owns.belongs (same.symm.trans belongs)]
    · refine ⟨?_, by rw [owns.belongs isPlaced, owns.belongs isHome]⟩
      rcases Nat.lt_or_ge child before.size with inside | beyond
      · exact inside
      · rw [documentOf?, node?_eq_none beyond] at isPlaced
        cases isPlaced

theorem isA_add {test : Content → Bool} {node : Node} {id : NodeId} (passes : forest.isA test id) :
    (forest.add node).isA test id := by
  rw [isA, content?, node?_add, if_neg (Nat.ne_of_lt (lt_size_of_isA passes))]
  exact passes

/-- A new node has no relatives yet. -/
theorem Together.add_node {content : Content} {owner : Option NodeId} (together : forest.Together)
    (belongs : content.isDocument ∨
      ∃ document, owner = some document ∧ forest.isA Content.isDocument document) :
    (forest.add { content, owner }).Together := by
  have owns : Owns forest (forest.add { content, owner }) := .add_node belongs
  have old {id home : NodeId} (inside : id < forest.size)
      (same : forest.documentOf? id = forest.documentOf? home) :
      (forest.add { content, owner }).documentOf? id =
        (forest.add { content, owner }).documentOf? home := by
    obtain ⟨document, belongs, -⟩ := together.owned id inside
    rw [owns.belongs belongs, owns.belongs (same.symm.trans belongs)]
  refine ⟨owns.owned together.owned, fun child home there => ?_, fun home child among => ?_⟩
  · rw [parent?, node?_add] at there
    split at there
    · cases there
    · exact old (lt_size_of_parent? there) (together.parent child home there)
  · rw [Forest.children, node?_add] at among
    by_cases last : home = forest.size
    · rw [if_pos last] at among
      cases among
    · rw [if_neg last] at among
      obtain ⟨inside, same⟩ := together.children home child among
      rw [size_add]
      exact ⟨Nat.lt_succ_of_lt inside, old inside same⟩

/-- Children belong where their parents do, and all nodes from a number on to one document. -/
structure Dedicated (start document : NodeId) (forest : Forest) : Prop where
  together : forest.Together
  early : start ≤ forest.size
  made : ∀ id, start ≤ id → id < forest.size → forest.documentOf? id = some document

variable {start : NodeId}

theorem Dedicated.moved {dropped : NodeId → Prop} (dedicated : before.Dedicated start document)
    (owns : Owns before after)
    (shifts : Shifts (before.documentOf? · = some document)
      (before.documentOf? · = some document) dropped before after) :
    after.Dedicated start document := by
  have moves := shifts (dedicated.together.loaded document)
  refine ⟨dedicated.together.moved owns moves, ?_, fun id new inside => ?_⟩
  · rw [moves.size]
    exact dedicated.early
  · rw [moves.size] at inside
    exact owns.belongs (dedicated.made id new inside)

/-- A document belongs to itself. -/
theorem documentOf?_of_isDocument (isDocument : forest.isA Content.isDocument document) :
    forest.documentOf? document = some document := by
  rw [isA, content?] at isDocument
  rw [documentOf?]
  cases there : forest.node? document with
  | none => simp [there] at isDocument
  | some node =>
      have isDocument : node.content.isDocument := by simpa [there] using isDocument
      simp [isDocument]

theorem documentOf?_add_self {content : Content} (noDocument : content.isDocument = false) :
    (forest.add { content, owner := some document }).documentOf? forest.size = some document := by
  simp [documentOf?, noDocument]

theorem Dedicated.add_node (content : Content) (dedicated : forest.Dedicated start document)
    (isDocument : forest.isA Content.isDocument document)
    (noDocument : content.isDocument = false) :
    (forest.add { content, owner := some document }).Dedicated start document := by
  have owner : content.isDocument ∨ ∃ owner, some document = some owner ∧
      forest.isA Content.isDocument owner := .inr ⟨document, rfl, isDocument⟩
  refine ⟨dedicated.together.add_node owner, ?_, fun id new inside => ?_⟩
  · rw [size_add]
    exact Nat.le_succ_of_le dedicated.early
  · rw [size_add] at inside
    rcases Nat.lt_succ_iff_lt_or_eq.mp inside with old | rfl
    · exact (Owns.add_node owner).belongs (dedicated.made id new old)
    · exact documentOf?_add_self noDocument

end Forest

/-! ## Making nodes and giving them their place -/

section Edits

variable {start document : NodeId} {forest : Forest}

/-- An edit that places only nodes of the one document, and only under nodes of it, keeps
children where their parents belong. -/
theorem dedicated_shift {α : Type} {step : Edit α} (dropped : NodeId → Prop)
    (dedicated : forest.Dedicated start document) (owns : KeepsOwned step)
    (shifts : Ensures step forest
      (fun _ => Shifts (forest.documentOf? · = some document)
        (forest.documentOf? · = some document) dropped forest)
      fun _ => Shifts (forest.documentOf? · = some document)
        (forest.documentOf? · = some document) dropped forest) :
    Ensures step forest (fun _ => Dedicated start document) fun _ => Dedicated start document :=
  ((owns forest).and shifts).mono (fun _ _ ends => dedicated.moved ends.1 ends.2)
    fun _ _ ends => dedicated.moved ends.1 ends.2

theorem dedicated_appendChild {parent child : NodeId} (dedicated : forest.Dedicated start document)
    (isHome : forest.documentOf? parent = some document)
    (belongs : forest.documentOf? child = some document) :
    Ensures (appendChild parent child) forest (fun _ => Dedicated start document)
      fun _ => Dedicated start document :=
  dedicated_shift (fun _ => True) dedicated (keepsOwned_appendChild parent child)
    (shiftsOnly_appendChild isHome belongs forest)

/-- Copies are made for the document, and so are those of what is below. -/
abbrev Copies (start document : NodeId) (copy : NodeId → Edit NodeId) : Prop :=
  ∀ id {forest : Forest}, forest.Dedicated start document →
    Ensures (copy id) forest
      (fun made after => after.Dedicated start document ∧ after.documentOf? made = some document)
      fun _ after => after.Dedicated start document

theorem dedicated_copyInto {copy : NodeId → Edit NodeId} {parent : NodeId}
    (copies : Copies start document copy) (owns : ∀ id, KeepsOwned (copy id)) :
    ∀ (members : List NodeId) {forest : Forest}, forest.Dedicated start document →
      forest.documentOf? parent = some document →
      Ensures (copyInto copy parent members) forest
        (fun _ => Dedicated start document) fun _ => Dedicated start document
  | [], _, dedicated, _ => dedicated
  | child :: rest, forest, dedicated, isHome => by
      rw [copyInto, ensures_bind]
      refine ((copies child dedicated).and (owns child forest)).mono
        (fun made copied ends => ?_) fun _ _ ends => ends.1
      obtain ⟨⟨dedicated, belongs⟩, owned⟩ := ends
      have isHome := owned.belongs isHome
      rw [ensures_bind]
      refine ((dedicated_appendChild dedicated isHome belongs).and
        (keepsOwned_appendChild parent made copied)).mono (fun _ _ ends => ?_)
          fun _ _ ends => ends.1
      exact dedicated_copyInto copies owns rest ends.1 (ends.2.belongs isHome)

theorem dedicated_copyWithin (deep : Bool) :
    ∀ depth : Nat, Copies start document (copyWithin document deep depth)
  | 0, _, _, dedicated => dedicated
  | depth + 1, id, forest, dedicated => by
      have into (copy : NodeId) (members : List NodeId) {forest : Forest}
          (dedicated : forest.Dedicated start document)
          (belongs : forest.documentOf? copy = some document) :
          Ensures (do
            if deep then copyInto (copyWithin document deep depth) copy members
            pure copy : Edit NodeId) forest
            (fun made after => after.Dedicated start document ∧
              after.documentOf? made = some document)
            fun _ after => after.Dedicated start document := by
        split
        · rw [ensures_bind]
          exact ((dedicated_copyInto (dedicated_copyWithin deep depth)
            (keepsOwned_copyWithin document deep depth) members dedicated belongs).and
            (keepsOwned_copyInto (keepsOwned_copyWithin document deep depth) copy members
              forest)).mono (fun _ _ ends => ⟨ends.1, ends.2.belongs belongs⟩)
                fun _ _ ends => ends.1
        · exact ⟨dedicated, belongs⟩
      rw [copyWithin, ensures_bind, ensures_look]
      refine ⟨fun node there => ?_, fun _ => dedicated⟩
      dsimp only
      split
      · rw [ensures_bind, createElement, ensures_create]
        refine ⟨fun isDocument => ?_, fun _ => dedicated⟩
        rw [ensures_bind, ensures_setAll]
        split
        · exact into _ _ (dedicated.add_node _ isDocument rfl) (documentOf?_add_self rfl)
        · exact dedicated.add_node _ isDocument rfl
      · rw [ensures_bind, ensures_create]
        exact ⟨fun isDocument =>
          into _ _ (dedicated.add_node _ isDocument rfl) (documentOf?_add_self rfl),
          fun _ => dedicated⟩
      · exact dedicated
      · exact dedicated
      · rename_i noElement noFragment noDocument noDoctype
        have kind : node.content.isDocument = false := by
          cases content : node.content with
          | document version doctype => exact absurd content (noDocument version doctype)
          | _ => rfl
        rw [ensures_create]
        exact ⟨fun isDocument => ⟨dedicated.add_node _ isDocument kind, documentOf?_add_self kind⟩,
          fun _ => dedicated⟩

end Edits

/-! ## Builds -/

section Builds

variable {scene : Scene} {start node : NodeId} {world : World}

/-- The home of a place belongs where the node belongs that the place goes by. -/
theorem Forest.Together.home? {forest : Forest} {document : NodeId} {target : Target}
    (together : forest.Together) (belongs : forest.documentOf? target.reference = some document)
    (home : NodeId) (isHome : target.home? forest = some home) :
    forest.documentOf? home = some document := by
  unfold Target.home? at isHome
  split at isHome
  · cases isHome
    exact belongs
  · exact (together.parent _ home isHome).symm.trans belongs

theorem dedicated_attach {target : Target} {document : NodeId}
    (dedicated : world.forest.Dedicated start document)
    (byReference : world.forest.documentOf? target.reference = some document)
    (belongs : world.forest.documentOf? node = some document) :
    Stays (Dedicated start document) (attach target node) world := by
  have shifts : Ensures (attach target node) world
      (fun _ after => Shifts (world.forest.documentOf? · = some document)
        (world.forest.documentOf? · = some document) (fun _ => True) world.forest after.forest)
      fun _ after => Shifts (world.forest.documentOf? · = some document)
        (world.forest.documentOf? · = some document) (fun _ => True) world.forest after.forest :=
    shifts_attach belongs (dedicated.together.home? byReference) (fun _ _ _ => trivial)
      fun _ => trivial
  exact ((buildsOwned_attach target node world).and shifts).mono
    (fun _ _ ends => dedicated.moved ends.1 ends.2) fun _ _ ends => dedicated.moved ends.1 ends.2

theorem dedicated_makeLeaf (path : List String) (spec : Spec)
    (dedicated : world.forest.Dedicated start scene.document) :
    Ensures (makeLeaf scene path spec) world
      (fun node after => after.forest.Dedicated start scene.document ∧
        after.forest.documentOf? node = some scene.document)
      fun _ after => after.forest.Dedicated start scene.document := by
  by_cases copied : ∃ id, spec = .existing id
  · obtain ⟨id, rfl⟩ := copied
    show Ensures (edit (Edit.copy scene.document true id)) world _ _
    rw [ensures_edit, Edit.copy, MarkupSpec.ensures_bind, ensures_checkDocument]
    exact ⟨fun _ => dedicated_copyWithin true _ id dedicated, fun _ => dedicated⟩
  · refine (addsLeaf_makeLeaf scene path (fun id same => copied ⟨id, same⟩) world).mono
      (fun node after adds => ?_) fun _ after same => ?_
    · obtain ⟨isDocument, rfl, content, isLeaf, added⟩ := adds
      have kind : content.isDocument = false := by
        cases content <;> simp_all [Content.isLeaf, Content.isDocument]
      rw [added]
      exact ⟨dedicated.add_node _ isDocument kind, documentOf?_add_self kind⟩
    · rw [same]
      exact dedicated

theorem dedicated_buildLeaf {place : Place} (spec : Spec)
    (dedicated : world.forest.Dedicated start scene.document)
    (byReference : world.forest.documentOf? place.target.reference = some scene.document) :
    Stays (Dedicated start scene.document) (buildLeaf scene place spec) world := by
  show Ensures (buildLeaf scene place spec) world _ _
  rw [buildLeaf, MarkupSpec.ensures_bind]
  refine ((dedicated_makeLeaf place.path spec dedicated).and
    (buildsOwned_makeLeaf scene place.path spec world)).mono (fun node after ends => ?_)
    fun _ _ ends => ends.1
  obtain ⟨⟨dedicated, belongs⟩, owns⟩ := ends
  rw [MarkupSpec.ensures_bind]
  exact (dedicated_attach dedicated (owns.belongs byReference) belongs).mono
    (fun _ _ dedicated => dedicated) fun _ _ dedicated => dedicated

theorem dedicated_giveDoctype {document : NodeId} (root : Value)
    (publicId systemId : Option String) (dedicated : world.forest.Dedicated start document) :
    Stays (Dedicated start document) (giveDoctype document root publicId systemId) world := by
  show Ensures (giveDoctype document root publicId systemId) world _ _
  rw [giveDoctype, MarkupSpec.ensures_bind, ensures_edit, ensures_checkDocument]
  refine ⟨fun isDocument => ?_, fun _ => dedicated⟩
  refine (readsOnly_doctypeName root).ensures_bind (fun asked after _ same => ?_)
    fun _ after same => same ▸ dedicated
  rw [MarkupSpec.ensures_bind, ensures_edit, createDoctype, ensures_create, same]
  refine ⟨fun _ => ?_, fun _ => dedicated⟩
  have made (shown : Option String) :=
    dedicated.add_node (.doctype shown publicId systemId) isDocument rfl
  refine (readsOnly_noticeReplaced document root).ensures_bind (fun _ final _ same => ?_)
    fun _ after same => same ▸ made _
  have belongs : final.forest.documentOf? world.forest.size = some document := by
    rw [same]
    exact documentOf?_add_self rfl
  have isHome : final.forest.documentOf? document = some document := by
    refine documentOf?_of_isDocument ?_
    rw [same]
    exact isA_add isDocument
  rw [MarkupSpec.ensures_bind, ensures_edit]
  exact (dedicated_shift (fun _ => True) (same ▸ made _)
    (keepsOwned_placeDoctype document _)
    (shifts_placeDoctype isHome belongs fun _ _ => trivial)).mono
    (fun _ _ dedicated => dedicated) fun _ _ dedicated => dedicated

theorem dedicated_buildDoctype (spec : Spec) (path : List String) (children : List Value)
    (attributes : RawAttributes) (dedicated : world.forest.Dedicated start scene.document) :
    Stays (Dedicated start scene.document) (buildDoctype scene spec path children attributes)
      world :=
  (readsOnly_leadingText _ _ _ _ _).stays_bind dedicated fun _ _ _ dedicated =>
    (readsOnly_identifier _ _ _ _ _).stays_bind dedicated fun _ _ _ dedicated =>
      (readsOnly_identifier _ _ _ _ _).stays_bind dedicated fun _ _ _ dedicated =>
        dedicated_giveDoctype _ _ _ dedicated

theorem dedicated_makeElement {place : Place} (spec : Spec) (name : Value)
    (attributes : RawAttributes) (dedicated : world.forest.Dedicated start scene.document)
    (byReference : world.forest.documentOf? place.target.reference = some scene.document) :
    Stays (Dedicated start scene.document) (makeElement scene place spec name attributes)
      world := by
  refine (readsOnly_resolveElement scene place spec name attributes).ensures_bind
    (fun found after _ same => ?_) fun _ after same => same ▸ dedicated
  obtain ⟨near, resolution⟩ := found
  rw [MarkupSpec.ensures_bind, ensures_edit, same, ensures_createResolved]
  refine ⟨fun isDocument => ?_, fun _ => dedicated⟩
  have made (tag : Tag) := dedicated.add_node (.element tag) isDocument rfl
  split
  · rename_i tag _
    have byReference := (Owns.add_node (.inr ⟨scene.document, rfl, isDocument⟩) :
      Owns world.forest (world.forest.add
        { content := .element tag, owner := some scene.document })).belongs byReference
    rw [MarkupSpec.ensures_bind]
    exact (dedicated_attach (made tag) byReference (documentOf?_add_self rfl)).mono
      (fun _ _ dedicated => dedicated) fun _ _ dedicated => dedicated
  · exact made _

theorem dedicated_openSequence (place : Place)
    (dedicated : world.forest.Dedicated start scene.document) :
    Stays (Dedicated start scene.document) (openSequence scene place) world :=
  ensures_openSequence (fun _ => dedicated)
    (fun _ _ _ isDocument => dedicated.add_node _ isDocument rfl) fun _ => dedicated

/-- The place inside of a sequence goes by a node of the document. -/
theorem belongs_openSequence {place : Place}
    (byReference : world.forest.documentOf? place.target.reference = some scene.document) :
    Ensures (openSequence scene place) world
      (fun inside opened => opened.forest.documentOf? inside.target.reference = some scene.document)
      fun _ _ => True :=
  ensures_openSequence (fun _ => byReference) (fun _ _ _ _ => documentOf?_add_self rfl)
    fun _ => trivial

/-- The place inside of an element goes by the element, which is made for the document. -/
theorem belongs_makeElement (place : Place) (spec : Spec) (name : Value)
    (attributes : RawAttributes) :
    Ensures (makeElement scene place spec name attributes) world
      (fun made after =>
        after.forest.documentOf? made.inside.target.reference = some scene.document)
      fun _ _ => True := by
  refine (readsOnly_resolveElement scene place spec name attributes).ensures_bind
    (fun found after _ same => ?_) fun _ _ _ => trivial
  obtain ⟨near, resolution⟩ := found
  rw [MarkupSpec.ensures_bind, ensures_edit, same, ensures_createResolved]
  refine ⟨fun _ => ?_, fun _ => trivial⟩
  split
  · rw [MarkupSpec.ensures_bind]
    exact (buildsOwned_attach place.target world.forest.size _).mono
      (fun _ _ owns => owns.belongs (documentOf?_add_self rfl)) fun _ _ _ => trivial
  · trivial

/-- Nodes belong to the same documents before a build and after it. -/
theorem buildsOwned_buildWithin (budget : Nat) (value : Value) (place : Place) :
    BuildsOwned (buildWithin scene budget value place) := fun world =>
  keeps_buildWithin (I := Owns world.forest) budget { value, place, world }
    (fun visit _ => visit.keeps_of_owns fun later owns => owns.trans later) (.refl world.forest)

theorem buildsOwned_buildMembers (budget : Nat) (place : Place) :
    ∀ (items : List Value) (index : Nat) (last : Option NodeId),
      BuildsOwned (buildMembers (buildWithin scene budget) place index last items)
  | [], _, _ => .pure _
  | _ :: rest, index, _ =>
      .bind (buildsOwned_buildWithin budget _ _) fun _ =>
        buildsOwned_buildMembers budget place rest (index + 1) _

/-- Every place that a build comes to goes by a node of the document that the build is for. -/
theorem belongs_of_visit {budget : Nat} {first visit : Visit}
    (byReference : first.world.forest.documentOf? first.place.target.reference =
      some scene.document)
    (among : visit ∈ visitsWithin scene budget first) :
    visit.world.forest.documentOf? visit.place.target.reference = some scene.document := by
  refine visits_induct (H := fun _ => True)
    (P := fun place world _ =>
      world.forest.documentOf? place.target.reference = some scene.document)
    (fun _ _ _ _ belongs => belongs) (fun _ _ _ _ belongs same => same ▸ belongs)
    (fun place world inside opened _ belongs run => (belongs_openSequence belongs).of_ok run)
    (fun _ _ _ _ _ _ _ _ belongs _ run => (belongs_buildWithin belongs).of_ok run)
    (fun visit made after _ _ isMade => ?_) budget first byReference (fun _ _ => trivial) visit
    among
  obtain ⟨spec, name, attributes, read, -, run⟩ := Visit.makeElement_of_made? isMade
  exact (belongs_makeElement visit.place spec name attributes).of_ok run

theorem Visit.keeps_dedicated {visit : Visit}
    (byReference : visit.world.forest.documentOf? visit.place.target.reference =
      some scene.document) : visit.Keeps scene (Dedicated start scene.document) where
  leaf spec world part _ dedicated :=
    dedicated_buildLeaf spec dedicated (Visit.forest_of_part? part ▸ byReference)
  doctype children attributes _ _ := dedicated_buildDoctype _ _ children attributes
  element name attributes _ _ part dedicated :=
    dedicated_makeElement _ name attributes dedicated (Visit.forest_of_part? part ▸ byReference)
  opens _ _ _ := dedicated_openSequence visit.place
  closes items world inside opened budget last built part dedicated opens members later := by
    show Ensures (closeSequence visit.place.target inside.target.reference last) built _ _
    unfold closeSequence
    split
    · have byReference := Visit.forest_of_part? part ▸ byReference
      have opens' : BuildsOwned (openSequence scene visit.place) := buildsOwned_openSequence _
      have opening := (opens' world).of_ok opens
      have owns := (buildsOwned_buildMembers budget inside items 0 none opened).of_ok members
      exact dedicated_attach later (owns.belongs (opening.belongs byReference))
        (owns.belongs ((belongs_openSequence byReference).of_ok opens))
    · exact later

/-- All that a build makes belongs to the document that it is for, and children belong where their
parents do, however the build ends. -/
theorem dedicated_buildWithin {budget : Nat} (first : Visit)
    (dedicated : first.world.forest.Dedicated start scene.document)
    (byReference : first.world.forest.documentOf? first.place.target.reference =
      some scene.document) :
    Stays (Dedicated start scene.document) (buildWithin scene budget first.value first.place)
      first.world :=
  keeps_buildWithin budget first
    (fun _ among => Visit.keeps_dedicated (belongs_of_visit byReference among)) dedicated

end Builds

/-! ## Requests -/

/-- The document that nodes are asked for: the one that is given, or that of the node to go by, or
else the one that is made next. -/
def documentAsked? (forest : Forest) (where? : Option (Mode × Value)) (document : Value) :
    Option NodeId :=
  match document, where? with
  | .node id, _ => some id
  | .null, some (_, .node reference) => forest.documentOf? reference
  | .null, none => some forest.size
  | _, _ => none

/-- The node to go by exists, and if a document is given it belongs to that. -/
def Choice.AtHome (world : World) (document : Value) (choice : Mode × Value) : Prop :=
  ∀ reference ∈ choice.2.node?, reference < world.forest.size ∧
    ∀ id ∈ document.node?, world.forest.isA Content.isDocument id →
      world.forest.documentOf? reference = some id

instance (world : World) (document : Value) (choice : Mode × Value) :
    Decidable (Choice.AtHome world document choice) :=
  inferInstanceAs (Decidable (∀ reference ∈ choice.2.node?, reference < world.forest.size ∧
    ∀ id ∈ document.node?, world.forest.isA Content.isDocument id →
      world.forest.documentOf? reference = some id))

/-- All nodes that a call makes, other than documents, are made for the document that it is asked
for. -/
def Forest.MadeFor (asked : Option NodeId) (before after : Forest) : Prop :=
  ∀ id, before.size ≤ id → id < after.size → after.isA Content.isDocument id = false →
    ∃ document, asked = some document ∧ after.owner? id = some document

section Requests

variable {world : World} {settings : Settings} {spec document arguments : Value}
  {where? : Option (Mode × Value)}

theorem Forest.Dedicated.madeFor {document : NodeId} {asked : Option NodeId}
    {before after : Forest} (dedicated : after.Dedicated before.size document)
    (isAsked : asked = some document) : MadeFor asked before after := by
  intro id new inside noDocument
  exact ⟨document, isAsked, (owner?_eq noDocument).trans (dedicated.made id new inside)⟩

theorem Forest.madeFor_self (asked : Option NodeId) (forest : Forest) :
    MadeFor asked forest forest :=
  fun _ new inside => absurd inside (Nat.not_lt.mpr new)

/-- Without new nodes all that is asked of these holds. -/
theorem Forest.Together.dedicated {forest : Forest} (together : forest.Together)
    (document : NodeId) : forest.Dedicated forest.size document :=
  ⟨together, Nat.le_refl _, fun _ new inside => absurd inside (Nat.not_lt.mpr new)⟩

theorem Forest.documentOf?_add_document {forest : Forest} {version : Value} :
    (forest.add { content := .document version none, owner := none }).documentOf? forest.size =
      some forest.size := by
  simp [documentOf?, Content.isDocument]

/-- A new document is all that is made before a build begins. -/
theorem Forest.Together.dedicated_document {forest : Forest} (together : forest.Together)
    (version : Value) :
    (forest.add { content := .document version none, owner := none }).Dedicated forest.size
      forest.size := by
  refine ⟨together.add_node (.inl rfl), ?_, fun id new inside => ?_⟩
  · rw [size_add]
    exact Nat.le_succ _
  · rw [size_add] at inside
    obtain rfl : id = forest.size := Nat.le_antisymm (Nat.le_of_lt_succ inside) new
    exact documentOf?_add_document

theorem Value.eq_null_of_isNull {value : Value} (isNull : value.isNull) : value = .null := by
  cases value with
  | null => rfl
  | _ => cases isNull

/-- A value that is no node stands for no document. -/
theorem isDocument_nodeOrNone (value : Value) :
    Ensures (nodeOrNone value) world
      (fun id after => after = world ∧
        (world.forest.isA Content.isDocument id → value = .node id)) fun _ _ => False := by
  have beyond : world.forest.isA Content.isDocument world.forest.size = false := by
    rw [isA, content?_eq_none (Nat.le_refl _)]
    rfl
  cases value with
  | node id => exact ⟨rfl, fun _ => rfl⟩
  | _ =>
      exact ⟨rfl, fun isDocument =>
        absurd (beyond.symm.trans isDocument) Bool.false_ne_true⟩

/-- The document that a build is for is the one that is asked for, if there is one. -/
theorem isDocument_documentFor (document : Value) (mode : Mode) (reference : NodeId) :
    Ensures (documentFor document reference) world
      (fun id after => after = world ∧ (world.forest.isA Content.isDocument id →
        documentAsked? world.forest (some (mode, .node reference)) document = some id))
      fun _ after => after = world := by
  rw [documentFor]
  split
  · rename_i isNull
    obtain rfl := Value.eq_null_of_isNull isNull
    rw [MarkupSpec.ensures_bind, ensures_forest]
    split
    · rename_i id belongs
      exact ⟨rfl, fun _ => belongs⟩
    · rfl
  · refine (isDocument_nodeOrNone document).mono
      (fun id after ends => ⟨ends.1, fun isDocument => ?_⟩) fun _ _ => False.elim
    rw [ends.2 isDocument]
    rfl

/-- A build is got ready for the document that is asked for, at a place that goes by a node of
it. -/
theorem prepare_dedicated (together : world.forest.Together)
    (atHome : ∀ choice ∈ where?, Choice.AtHome world document choice) :
    Ensures (prepare settings where? document arguments) world
      (fun task start => task.scene.settings = settings ∧
        (start.forest.isA Content.isDocument task.scene.document = false ∧
            start.forest = world.forest ∨
          start.forest.Dedicated world.forest.size task.scene.document ∧
            start.forest.documentOf? task.target.reference = some task.scene.document ∧
            documentAsked? world.forest where? document = some task.scene.document))
      fun _ after => after.forest = world.forest := by
  rw [prepare]
  refine (readsOnly_spread arguments).ensures_bind (fun arguments after _ same => ?_)
    fun _ _ same => same
  cases where? with
  | none =>
      rw [MarkupSpec.ensures_bind, rootDocument]
      split
      · rename_i isNull
        obtain rfl := Value.eq_null_of_isNull isNull
        rw [MarkupSpec.ensures_bind, ensures_edit]
        show Ensures _ _ _ _
        have ready := together.dedicated_document (.text settings.xmlVersion)
        refine ⟨rfl, .inr ?_⟩
        rw [same]
        exact ⟨ready, documentOf?_add_document, rfl⟩
      · rw [ensures_pure, MarkupSpec.ensures_bind]
        refine (isDocument_nodeOrNone document).mono (fun id final ends => ⟨rfl, ?_⟩)
          fun _ _ => False.elim
        obtain ⟨rfl, isNode⟩ := ends
        cases isDocument : final.forest.isA Content.isDocument id with
        | false => exact .inl ⟨rfl, same⟩
        | true =>
            obtain rfl := isNode isDocument
            exact .inr ⟨same ▸ together.dedicated id, documentOf?_of_isDocument isDocument, rfl⟩
  | some choice =>
      obtain ⟨mode, reference⟩ := choice
      cases reference with
      | node reference =>
          rw [MarkupSpec.ensures_bind]
          refine (isDocument_documentFor document mode reference).mono (fun id final ends => ?_)
            fun _ _ unchanged => unchanged ▸ same
          obtain ⟨rfl, isAsked⟩ := ends
          rw [MarkupSpec.ensures_bind, ensures_discard]
          refine ensures_implicitParent (fun home isHome => ⟨rfl, ?_⟩) fun _ => same
          obtain ⟨inside, coherent⟩ := atHome (mode, .node reference) rfl reference rfl
          cases isDocument : final.forest.isA Content.isDocument id with
          | false => exact .inl ⟨rfl, same⟩
          | true =>
              have isAsked := isAsked isDocument
              rw [same] at isAsked isDocument
              refine .inr ⟨same ▸ together.dedicated id, ?_, isAsked⟩
              rw [same]
              cases document with
              | null => exact isAsked
              | node given =>
                  obtain rfl := Option.some.inj isAsked
                  exact coherent given rfl isDocument
              | _ => cases isAsked
      | _ =>
          exact (readsOnly_quoted _).ensures_bind (fun _ _ _ same' => same'.trans same)
            fun _ _ same' => same'.trans same

/-- A build makes nodes for the document that it is asked for, and children belong where their
parents do after it, however it ends. -/
theorem madeFor_compile (together : world.forest.Together)
    (atHome : ∀ choice ∈ where?, Choice.AtHome world document choice) :
    Stays (fun forest => forest.Together ∧
        MadeFor (documentAsked? world.forest where? document) world.forest forest)
      (compile settings spec where? document arguments) world := by
  have ready : Ensures (prepare settings where? document arguments) world _ _ :=
    prepare_dedicated together atHome
  have unchanged {after : World} (same : after.forest = world.forest) : after.forest.Together ∧
      MadeFor (documentAsked? world.forest where? document) world.forest after.forest := by
    rw [same]
    exact ⟨together, madeFor_self _ _⟩
  show Ensures (compile settings spec where? document arguments) world _ _
  rw [compile, compileWithin, MarkupSpec.ensures_bind]
  refine Ensures.of_run (fun task start prepared => ?_) fun _ _ prepared =>
    unchanged (ready.of_error prepared)
  rw [MarkupSpec.ensures_bind]
  obtain ⟨-, ⟨noDocument, same⟩ | ⟨dedicated, byReference, isAsked⟩⟩ := ready.of_ok prepared
  · exact (stays_buildWithin_of_noDocument noDocument _ spec _).mono
      (fun _ _ same' => unchanged (same'.trans same)) fun _ _ same' => unchanged (same'.trans same)
  · exact (dedicated_buildWithin
      { value := spec, place := { target := task.target }, world := start } dedicated
      byReference).mono (fun _ _ dedicated => ⟨dedicated.together, dedicated.madeFor isAsked⟩)
      fun _ _ dedicated => ⟨dedicated.together, dedicated.madeFor isAsked⟩

/-- The document that nodes are asked for by keyword, if the keywords name one place or none. -/
def Keywords.documentAsked? (keywords : Keywords) (forest : Forest) (document : Value) :
    Option NodeId :=
  match Mode.choose keywords with
  | .ok where? => MarkupSpec.documentAsked? forest where? document
  | .error _ => none

/-- The document that a request asks nodes for, if it asks for any. -/
def Request.documentAsked? (forest : Forest) : Request → Option NodeId
  | .document _ => none
  | .markup _ _ document keywords _ => keywords.documentAsked? forest document
  | .page sheet _ => Keywords.documentAsked? {} forest sheet.document

/-- The nodes that a request goes by exist, and belong to the document that is given, if one is. -/
def Request.AtHome (world : World) : Request → Prop
  | .markup _ _ document keywords _ => ∀ entry ∈ keywords.given, Choice.AtHome world document entry
  | .document _ | .page .. => True

instance (world : World) : (request : Request) → Decidable (request.AtHome world)
  | .markup _ _ document keywords _ =>
      inferInstanceAs (Decidable (∀ entry ∈ keywords.given, Choice.AtHome world document entry))
  | .document _ | .page .. => inferInstanceAs (Decidable True)

theorem madeFor_markup {keywords : Keywords} (together : world.forest.Together)
    (atHome : ∀ entry ∈ keywords.given, Choice.AtHome world document entry) :
    Stays (fun forest => forest.Together ∧
        MadeFor (keywords.documentAsked? world.forest document) world.forest forest)
      (markup settings spec document keywords arguments) world := by
  show Ensures (markup settings spec document keywords arguments) world _ _
  rw [markup, Keywords.documentAsked?]
  cases chosen : Mode.choose keywords with
  | error cause => exact ⟨together, madeFor_self _ _⟩
  | ok where? =>
      exact madeFor_compile together fun choice isChoice =>
        atHome choice (mem_given_of_choose chosen choice isChoice)

/-- A request makes nodes for the document that it asks for, and children belong where their
parents do after it, however it ends. -/
theorem Request.madeFor_run {request : Request} (together : world.forest.Together)
    (atHome : request.AtHome world) :
    Stays (fun forest => forest.Together ∧
        MadeFor (request.documentAsked? world.forest) world.forest forest) request.run world := by
  cases request with
  | document version =>
      show Ensures (newDocument version >>= fun id => pure (Value.node id)) world _ _
      rw [MarkupSpec.ensures_bind, newDocument, ensures_edit]
      refine ⟨(together.dedicated_document version).together, fun id new inside noDocument => ?_⟩
      rw [size_add] at inside
      obtain rfl : id = world.forest.size := Nat.le_antisymm (Nat.le_of_lt_succ inside) new
      simp [isA, content?, Content.isDocument] at noDocument
  | markup settings spec document keywords arguments => exact madeFor_markup together atHome
  | page sheet settings =>
      refine (Page.readsOnly_spec sheet settings.marker).ensures_bind (fun spec after _ same => ?_)
        fun _ after same => ?_
      · have built : Stays _ (MarkupSpec.markup settings spec sheet.document {} sheet.arguments)
            after := madeFor_markup (same.symm ▸ together) fun entry given => by cases given
        rw [same] at built
        exact built
      · rw [same]
        exact ⟨together, madeFor_self _ _⟩

end Requests

/-! ## Sessions -/

/-- The worlds that requests and builds lead to, from one without nodes, if none of these is given
a document together with a node to go by that belongs to another one.  Between them anything may
change but the forest. -/
inductive ReachedAtHome : World → Prop where
  | start {world : World} (empty : world.forest = {}) : ReachedAtHome world
  | meanwhile {before after : World} (reached : ReachedAtHome before)
      (same : after.forest = before.forest) : ReachedAtHome after
  | request {world : World} (reached : ReachedAtHome world) (request : Request)
      (atHome : request.AtHome world) : ReachedAtHome (request.leaves world)
  | compile {world : World} (reached : ReachedAtHome world) (settings : Settings) (spec : Value)
      (where? : Option (Mode × Value)) (document arguments : Value)
      (atHome : ∀ choice ∈ where?, Choice.AtHome world document choice) :
      ReachedAtHome (world.after (compile settings spec where? document arguments))

namespace ReachedAtHome

variable {world : World}

theorem together (reached : ReachedAtHome world) : world.forest.Together := by
  induction reached with
  | start empty =>
      rw [empty]
      exact ⟨fun _ inside => absurd inside (Nat.not_lt_zero _), nofun, nofun⟩
  | meanwhile _ same together => exact same ▸ together
  | request _ request atHome together =>
      exact request.leaves_eq _ ▸ (request.madeFor_run together atHome).after.1
  | compile _ settings spec where? document arguments atHome together =>
      exact (madeFor_compile together atHome).after.1

theorem reached (reached : ReachedAtHome world) : Reached world := by
  induction reached with
  | start empty => exact .start empty
  | meanwhile _ same reached => exact reached.meanwhile same
  | request _ request atHome reached =>
      refine reached.request request ?_
      cases request with
      | markup settings spec document keywords arguments =>
          exact fun entry given id isNode => (atHome entry given id isNode).1
      | _ => trivial
  | compile _ settings spec where? document arguments atHome reached =>
      exact reached.compile settings spec where? document arguments
        fun choice isChoice id isNode => (atHome choice isChoice id isNode).1

theorem ownersAgree (reached : ReachedAtHome world) : world.forest.OwnersAgree := by
  intro child home there
  obtain ⟨above, below, -, isBelow, holds⟩ := reached.reached.intact.agrees.fits child home there
  have noDocument : world.forest.isA Content.isDocument child = false := by
    rw [isA, isBelow]
    exact Content.isDocument_of_holds holds
  rw [owner?_eq noDocument]
  exact reached.together.parent child home there

end ReachedAtHome

/-- Whatever was asked for before, at nodes of the document that was given if one was, and however
it ended, every child was made for the document that its parent is or was made for.  And whatever is
asked for next makes its nodes for the one document that it is given or that the node to go by
belongs to. -/
theorem reachedAtHome_owners {world : World} (reached : ReachedAtHome world) :
    world.forest.OwnersAgree ∧
      (∀ request : Request, request.AtHome world →
        MadeFor (request.documentAsked? world.forest) world.forest (request.leaves world).forest) ∧
      ∀ (settings : Settings) (spec : Value) (where? : Option (Mode × Value))
        (document arguments : Value), (∀ choice ∈ where?, Choice.AtHome world document choice) →
        MadeFor (documentAsked? world.forest where? document) world.forest
          (world.after (compile settings spec where? document arguments)).forest :=
  ⟨reached.ownersAgree,
    fun request atHome =>
      request.leaves_eq _ ▸ (request.madeFor_run reached.together atHome).after.2,
    fun _ _ _ _ _ atHome => (madeFor_compile reached.together atHome).after.2⟩

/-- An element in one document that is copied into an element of another one, and a build in
front of the copy that fails at its second element. -/
def copyingRequests : List Request :=
  [.document .null,
    .markup {} (.map [(.null, .list [.text "r", .text "t"])]) (.node 0) {} (.list []),
    .document .null,
    .markup {} (.map [(.null, .list [.text "s", .node 1])]) (.node 3) {} (.list []),
    .markup {} (.list [.map [(.null, .text "a")], .map [(.null, .text "x:y")]]) (.node 3)
      { before := .node 5 } (.list [])]

/-- The copy, with the text in it, belongs to the other document, and so do the fragment and the
element that the last request leaves behind. -/
theorem reachedAtHome_owners_copyingRequests :
    (worldAfter {} copyingRequests).forest.parent? 5 = some 4 ∧
      (worldAfter {} copyingRequests).forest.owner? 5 = some 3 ∧
      (worldAfter {} copyingRequests).forest.owner? 1 = some 0 ∧
      (worldAfter {} copyingRequests).forest.owner? 8 = some 3 ∧
      (worldAfter {} copyingRequests).forest.OwnersAgree := by
  refine ⟨by decide +kernel, by decide +kernel, by decide +kernel, by decide +kernel,
    (reachedAtHome_owners ?_).1⟩
  rw [copyingRequests, worldAfter, worldAfter, worldAfter, worldAfter, worldAfter, worldAfter]
  refine (((((ReachedAtHome.start rfl).request _ ?_).request _ ?_).request _ ?_).request _
    ?_).request _ ?_
  all_goals decide +kernel

end MarkupSpec
