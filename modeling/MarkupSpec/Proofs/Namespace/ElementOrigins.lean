import MarkupSpec.Proofs.Build.Course

/-!
# Where elements come from

Every element that a build adds is made at one of its visits, of an element map or
as part of a copy (`covered_buildWithin`).  All that has to be known for this is
which elements each step of a build adds (`growing`).
-/

namespace MarkupSpec

open Forest Edit Build

/-! ## Nodes without children -/

/-- Texts, cdata sections, comments and instructions. -/
def Content.isLeaf : Content → Bool
  | .text _ | .cdata _ | .comment _ | .instruction .. => true
  | _ => false

/-- A step that adds one node without children to a forest and gives its number, if
there is a document to make it for. -/
def AddsLeaf (document : NodeId) (step : Build NodeId) : Prop :=
  ∀ world, Ensures step world
    (fun node after => world.forest.isA Content.isDocument document ∧ node = world.forest.size ∧
      ∃ content : Content, content.isLeaf ∧
        after.forest = world.forest.add { content, owner := some document })
    fun _ after => after.forest = world.forest

theorem ReadsOnly.addsLeaf_bind {α : Type} {document : NodeId} {first : Build α}
    {next : α → Build NodeId} (reads : ReadsOnly first)
    (onNext : ∀ result, AddsLeaf document (next result)) : AddsLeaf document (first >>= next) := by
  intro world
  refine reads.ensures_bind (fun result after _ same => ?_) fun _ _ same => same
  rw [← same]
  exact onNext result after

theorem addsLeaf_create {document : NodeId} {content : Content} (isLeaf : content.isLeaf) :
    AddsLeaf document (edit (Edit.create document content)) := by
  intro world
  rw [ensures_edit, ensures_create]
  exact ⟨fun isDocument => ⟨isDocument, rfl, content, isLeaf, rfl⟩, fun _ => rfl⟩

theorem addsLeaf_buildInstruction (scene : Scene) (spec : Spec) (path : List String)
    (children : List Value) (attributes : RawAttributes) :
    AddsLeaf scene.document (buildInstruction scene spec path children attributes) := by
  refine (readsOnly_leadingText _ _ _ _ _).addsLeaf_bind fun target => ?_
  dsimp only
  split
  · exact (readsOnly_pseudoAttributes _ _).addsLeaf_bind fun _ =>
      (readsOnly_pure _).addsLeaf_bind fun _ => addsLeaf_create rfl
  · exact (readsOnly_childrenText _ _).addsLeaf_bind fun _ => addsLeaf_create rfl

/-- All that is made without children, but for copies, is a single node. -/
theorem addsLeaf_makeLeaf (scene : Scene) (path : List String) {spec : Spec}
    (noCopy : ∀ node, spec ≠ .existing node) :
    AddsLeaf scene.document (makeLeaf scene path spec) := by
  unfold makeLeaf
  split
  · exact (readsOnly_childrenText _ _).addsLeaf_bind fun _ => addsLeaf_create rfl
  · exact (readsOnly_childrenText _ _).addsLeaf_bind fun _ => addsLeaf_create rfl
  · exact addsLeaf_buildInstruction _ _ _ _ _
  · exact absurd rfl (noCopy _)
  · exact readsOnly_describe.addsLeaf_bind fun _ => addsLeaf_create rfl
  · exact fun _ => rfl

/-! ## Elements -/

/-- The visit makes the node of an element map, or copies it as part of an existing
node. -/
def Visit.Brings (scene : Scene) (visit : Visit) (id : NodeId) : Prop :=
  (∃ made after, visit.made? scene = some (made, after) ∧ made.element = id) ∨
    ∃ node world copy after, visit.part? scene = some (.existing node, world) ∧
      makeLeaf scene visit.place.path (.existing node) world = .ok copy after ∧
      world.forest.size ≤ id ∧ id < after.forest.size

/-- Every element that the second forest has more than the first comes from one of
the visits. -/
def Covered (scene : Scene) (visits : List Visit) (before after : Forest) : Prop :=
  ∀ id, before.size ≤ id → after.isA Content.isElement id →
    ∃ visit ∈ visits, visit.Brings scene id

section Covered

variable {scene : Scene} {visits later : List Visit} {first second third : Forest}

theorem Forest.Lasts.isElement (lasts : first.Lasts second) {id : NodeId} (inside : id < first.size) :
    second.isA Content.isElement id = first.isA Content.isElement id := by
  have same := lasts.content id inside
  unfold Forest.isA
  cases atEnd : second.content? id <;> cases atStart : first.content? id <;>
    simp [atEnd, atStart] at same ⊢
  rw [← Content.isElement_lasting, same, Content.isElement_lasting]

theorem Covered.refl (scene : Scene) (visits : List Visit) (forest : Forest) :
    Covered scene visits forest forest := by
  intro id beyond isElement
  exact absurd (lt_size_of_isA isElement) (Nat.not_lt.mpr beyond)

theorem Covered.trans (onFirst : Covered scene visits first second) (lasts : second.Lasts third)
    (onSecond : Covered scene later second third) : Covered scene (visits ++ later) first third := by
  intro id beyond isElement
  rcases Nat.lt_or_ge id second.size with inside | beyond'
  · rw [lasts.isElement inside] at isElement
    obtain ⟨visit, among, brings⟩ := onFirst id beyond isElement
    exact ⟨visit, List.mem_append_left _ among, brings⟩
  · obtain ⟨visit, among, brings⟩ := onSecond id beyond' isElement
    exact ⟨visit, List.mem_append_right _ among, brings⟩

theorem Covered.mono (covered : Covered scene visits first second)
    (subset : ∀ visit ∈ visits, visit ∈ later) : Covered scene later first second := by
  intro id beyond isElement
  obtain ⟨visit, among, brings⟩ := covered id beyond isElement
  exact ⟨visit, subset visit among, brings⟩

/-- Moving nodes brings no elements. -/
theorem Covered.moved (covered : Covered scene visits first second)
    (size : third.size = second.size) (lasts : second.Lasts third) :
    Covered scene visits first third := by
  intro id beyond isElement
  have inside : id < second.size := size ▸ lt_size_of_isA isElement
  rw [lasts.isElement inside] at isElement
  exact covered id beyond isElement

/-- A node that is no element needs no visit. -/
theorem covered_add (scene : Scene) (visits : List Visit) {content : Content}
    {owner : Option NodeId} (other : content.isElement = false) :
    Covered scene visits first (first.add { content, owner }) := by
  intro id beyond isElement
  have last : id = first.size := by
    have inside := lt_size_of_isA isElement
    rw [size_add] at inside
    exact Nat.le_antisymm (Nat.lt_succ_iff.mp inside) beyond
  simp [isA, content?, last, other] at isElement

end Covered

/-! ## The build -/

section Run

variable {scene : Scene}

theorem covered_attach {visits : List Visit} {before : Forest} {target : Target} {node : NodeId}
    {world : World} (covered : Covered scene visits before world.forest) :
    Ensures (attach target node) world
      (fun _ after => Covered scene visits before after.forest) fun _ _ => True :=
  (lasts_attach target node world).mono (fun _ _ ends => covered.moved ends.1 ends.2)
    fun _ _ _ => trivial

/-- The fragment of a sequence is no element. -/
theorem covered_openSequence (visits : List Visit) (place : Place) (world : World) :
    Ensures (openSequence scene place) world
      (fun _ after => Covered scene visits world.forest after.forest) fun _ _ => True := by
  rw [openSequence, MarkupSpec.ensures_bind]
  refine ensures_implicitParent (fun home _ => ?_) fun _ => trivial
  rw [MarkupSpec.ensures_bind, holderFor]
  split
  · exact Covered.refl scene visits _
  · rw [ensures_edit, ensures_create]
    exact ⟨fun _ => covered_add scene visits rfl, fun _ => trivial⟩

/-- A new doctype is no element. -/
theorem covered_giveDoctype (visits : List Visit) (document : NodeId) (root : Value)
    (publicId systemId : Option String) (world : World) :
    Ensures (giveDoctype document root publicId systemId) world
      (fun _ after => Covered scene visits world.forest after.forest) fun _ _ => True := by
  have placed (forest : Forest) (covered : Covered scene visits world.forest forest) :
      Ensures (placeDoctype document world.forest.size) forest
        (fun _ => Covered scene visits world.forest) fun _ _ => True := by
    have shifts : Ensures (placeDoctype document world.forest.size) forest
        (fun _ => Shifts (fun _ => True) (fun _ => True) (fun _ => True) forest)
        fun _ => Shifts (fun _ => True) (fun _ => True) (fun _ => True) forest :=
      shifts_placeDoctype trivial trivial fun _ _ => trivial
    refine shifts.mono (fun _ final shifted => ?_) fun _ _ _ => trivial
    have moves := shifted { children := fun _ _ _ _ _ => trivial, parent := fun _ _ _ _ => trivial }
    exact covered.moved moves.size moves.lasts
  rw [giveDoctype, MarkupSpec.ensures_bind, ensures_edit, ensures_checkDocument]
  refine ⟨fun isDocument => ?_, fun _ => trivial⟩
  refine (readsOnly_doctypeName root).ensures_bind (fun asked after _ same => ?_)
    fun _ _ _ => trivial
  rw [MarkupSpec.ensures_bind, ensures_edit, same, createDoctype, ensures_create]
  refine ⟨fun _ => ?_, fun _ => trivial⟩
  refine (readsOnly_noticeReplaced document root).ensures_bind (fun _ final _ same => ?_)
    fun _ _ _ => trivial
  rw [MarkupSpec.ensures_bind, ensures_edit, same]
  exact (placed _ (covered_add scene visits rfl)).mono (fun _ _ covered => covered)
    fun _ _ _ => trivial

theorem covered_buildDoctype (visits : List Visit) (spec : Spec) (path : List String)
    (children : List Value) (attributes : RawAttributes) (world : World) :
    Ensures (buildDoctype scene spec path children attributes) world
      (fun _ after => Covered scene visits world.forest after.forest) fun _ _ => True := by
  rw [buildDoctype]
  refine (readsOnly_leadingText _ _ _ _ _).ensures_bind (fun name first _ same => ?_)
    fun _ _ _ => trivial
  refine (readsOnly_identifier _ _ _ _ _).ensures_bind (fun publicId second _ same' => ?_)
    fun _ _ _ => trivial
  refine (readsOnly_identifier _ _ _ _ _).ensures_bind (fun systemId third _ same'' => ?_)
    fun _ _ _ => trivial
  rw [← same, ← same', ← same'']
  exact covered_giveDoctype visits scene.document (.text name) publicId systemId third

/-- Making an element makes one node. -/
theorem size_makeElement (scene : Scene) (place : Place) (spec : Spec) (name : Value)
    (attributes : RawAttributes) (world : World) :
    Ensures (makeElement scene place spec name attributes) world
      (fun made after => made.element = world.forest.size ∧
        after.forest.size = world.forest.size + 1)
      fun _ _ => True := by
  refine (readsOnly_resolveElement scene place spec name attributes).ensures_bind
    (fun found after _ same => ?_) fun _ _ _ => trivial
  obtain ⟨near, resolution⟩ := found
  rw [MarkupSpec.ensures_bind, ensures_edit, same, ensures_createResolved]
  refine ⟨fun _ => ?_, fun _ => trivial⟩
  split
  · rw [MarkupSpec.ensures_bind]
    refine (lasts_attach _ _ _).mono (fun _ _ ends => ?_) fun _ _ _ => trivial
    exact ⟨rfl, ends.1.trans (size_add _ _)⟩
  · trivial

/-- The element of a map is brought by the visit that makes it. -/
theorem covered_of_made? {visit : Visit} {made : Made} {after : World} {visits : List Visit}
    (among : visit ∈ visits) (isMade : visit.made? scene = some (made, after)) :
    Covered scene visits visit.world.forest after.forest := by
  obtain ⟨spec, name, attributes, world, same, run⟩ := Visit.makeElement_of_made? isMade
  have ends := (size_makeElement scene visit.place spec name attributes world).of_ok run
  rw [same] at ends
  intro id beyond isElement
  have inside := lt_size_of_isA isElement
  rw [ends.2] at inside
  have last : made.element = id :=
    ends.1.trans (Nat.le_antisymm beyond (Nat.lt_succ_iff.mp inside))
  exact ⟨visit, among, .inl ⟨made, after, isMade, last⟩⟩

/-- A node without parts is no element, unless it is a copy, which its visit brings. -/
theorem covered_makeLeaf {visit : Visit} {spec : Spec} {world made : World} {node : NodeId}
    (part : visit.part? scene = some (spec, world)) (isLeaf : spec.isLeaf)
    (makes : makeLeaf scene visit.place.path spec world = .ok node made) :
    Covered scene [visit] world.forest made.forest := by
  cases spec with
  | existing id =>
      intro other beyond isElement
      exact ⟨visit, List.mem_singleton_self _,
        .inr ⟨id, world, node, made, part, makes, beyond, lt_size_of_isA isElement⟩⟩
  | comment | cdata | instruction | text =>
      obtain ⟨-, -, content, isLeaf, grown⟩ :=
        (addsLeaf_makeLeaf scene visit.place.path (by simp) world).of_ok makes
      rw [grown]
      refine covered_add scene _ ?_
      cases content <;> first | rfl | cases isLeaf
  | sequence | callable | element | doctype => cases isLeaf

/-- The second forest has grown from the first, with elements from the visits. -/
structure GrownBy (scene : Scene) (visits : List Visit) (before after : Forest) : Prop where
  lasts : before.Lasts after
  covered : Covered scene visits before after

theorem GrownBy.trans {visits later : List Visit} {first second third : Forest}
    (onFirst : GrownBy scene visits first second) (onSecond : GrownBy scene later second third) :
    GrownBy scene (visits ++ later) first third :=
  ⟨onFirst.lasts.trans onSecond.lasts, onFirst.covered.trans onSecond.lasts onSecond.covered⟩

theorem GrownBy.attach {visits : List Visit} {before : Forest} {target : Target} {node : NodeId}
    {world after : World} (grown : GrownBy scene visits before world.forest)
    (attaches : attach target node world = .ok () after) :
    GrownBy scene visits before after.forest :=
  ⟨grown.lasts.trans ((lasts_attach target node world).of_ok attaches).2,
    (covered_attach grown.covered).of_ok attaches⟩

theorem grownBy_of_made? {visit : Visit} {made : Made} {after : World}
    (isMade : visit.made? scene = some (made, after)) :
    GrownBy scene [visit] visit.world.forest after.forest := by
  obtain ⟨spec, name, attributes, world, same, run⟩ := Visit.makeElement_of_made? isMade
  have grows := ((grows_makeElement scene visit.place spec name attributes world).of_ok run).1
  exact ⟨same ▸ grows.lasts, covered_of_made? (List.mem_singleton_self visit) isMade⟩

/-- Every way in which a build succeeds adds the elements of its visits only. -/
theorem growing (scene : Scene) : Course scene
    (fun visit visits _ after => GrownBy scene visits visit.world.forest after.forest)
    (fun _ _ world visits _ after => GrownBy scene visits world.forest after.forest) where
  nothing visit after part same := by
    rw [same]
    exact ⟨.refl _, .refl scene _ _⟩
  leaf visit spec world node made after part isLeaf makes attaches := by
    rw [← Visit.forest_of_part? part]
    have grows := ((makes_makeLeaf scene visit.place.path spec world).of_ok makes).1
    exact GrownBy.attach ⟨grows.lasts, covered_makeLeaf part isLeaf makes⟩ attaches
  doctype visit children attributes world node after part run := by
    rw [← Visit.forest_of_part? part]
    have grows := ((makes_buildDoctype scene _ visit.place.path children attributes world).of_ok
      run).1
    exact ⟨grows.lasts, (covered_buildDoctype _ _ _ children attributes world).of_ok run⟩
  bare visit made after isMade := grownBy_of_made? isMade
  element visit made children middle visits last after isMade inner :=
    (grownBy_of_made? isMade).trans inner
  callable visit function world value middle visits last after part calls inner := by
    have same : middle.forest = visit.world.forest :=
      ((Function.readsOnly_call function _).forest_of_ok calls).trans (Visit.forest_of_part? part)
    rw [← same]
    exact ⟨inner.lasts, inner.covered.mono fun _ => List.mem_cons_of_mem visit⟩
  sequence visit items world inside opened visits last built after part opens inner closes := by
    rw [← Visit.forest_of_part? part]
    have grows := ((grows_openSequence scene visit.place world).of_ok opens).1
    have opened : GrownBy scene [visit] world.forest opened.forest :=
      ⟨grows.lasts, (covered_openSequence _ visit.place world).of_ok opens⟩
    unfold closeSequence at closes
    split at closes
    · exact (opened.trans inner).attach closes
    · cases closes
      exact opened.trans inner
  done enclosing inside world := ⟨.refl _, .refl scene _ _⟩
  next enclosing inside value segment world first node middle rest last after here later :=
    here.trans later

/-- Every element that a build adds comes from one of its visits. -/
theorem covered_buildWithin (scene : Scene) (budget : Nat) (start : Visit) :
    Ensures (buildWithin scene budget start.value start.place) start.world
      (fun _ after => Covered scene (visitsWithin scene budget start) start.world.forest
        after.forest)
      fun _ _ => True :=
  ((growing scene).of_build budget start).mono (fun _ _ grown => grown.covered)
    fun _ _ _ => trivial

end Run

end MarkupSpec
