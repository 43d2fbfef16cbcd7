import MarkupSpec.Proofs.Forest.Growth
import MarkupSpec.Proofs.Namespace.ElementTag

/-!
# How a build grows the forest

Every step of a build only adds to the forest (`Forest.Grows`), whether it ends
well or fails.  A step that makes a node gives it the number that is next when
the step begins, since reading makes no nodes.

The main statement is `grows_buildWithin`, by induction on the budget.
-/

namespace MarkupSpec

open Forest Edit Build

theorem ReadsOnly.ensures_bind {α β : Type} {first : Build α} {next : α → Build β} {world : World}
    {done : β → World → Prop} {failed : Failure → World → Prop} (reads : ReadsOnly first)
    (onNext : ∀ result after, first world = .ok result after → after.forest = world.forest →
      Ensures (next result) after done failed)
    (onFailed : ∀ cause after, after.forest = world.forest → failed cause after) :
    Ensures (first >>= next) world done failed := by
  rw [MarkupSpec.ensures_bind]
  have kept := reads world
  unfold Ensures at kept ⊢
  cases run : first world with
  | ok result after =>
      rw [run] at kept
      exact onNext result after run kept
  | error cause after =>
      rw [run] at kept
      exact onFailed cause after kept

/-! ## Making an element -/

theorem Forest.update_add (forest : Forest) (node : Node) (step : Node → Node) :
    (forest.add node).update forest.size step = forest.add (step node) := by
  simp only [add, update, size, Forest.mk.injEq]
  ext index node'
  · simp
  · simp only [Array.getElem_modify, Array.getElem_push]
    grind

/-- Setting attributes of the last node is putting them into its tag. -/
theorem ensures_setAll {forest : Forest} {owner : Option NodeId} {done : Unit → Forest → Prop}
    {failed : EditError → Forest → Prop} :
    ∀ (entries : List Attribute.Entry) (tag : Tag),
      Ensures (setAll forest.size entries) (forest.add { content := .element tag, owner })
          done failed ↔
        match tag.putAll entries with
        | (.ok (), tag) => done () (forest.add { content := .element tag, owner })
        | (.error cause, tag) =>
            failed (.badAttribute cause) (forest.add { content := .element tag, owner })
  | [], tag => Iff.rfl
  | entry :: rest, tag => by
      have there : (forest.add { content := .element tag, owner }).node? forest.size =
          some { content := .element tag, owner } := by simp
      rw [setAll, ensures_bind, setAttribute, ensures_bind, ensures_look]
      simp only [there, reduceCtorEq, false_implies, and_true, Option.some.injEq, forall_eq',
        Tag.putAll]
      rw [ensures_bind, change, ensures_modify, update_add]
      cases put : tag.put entry.namespaceUri entry.name entry.value with
      | mk outcome tag =>
          cases outcome with
          | ok done => exact ensures_setAll rest tag
          | error cause => exact Iff.rfl

/-- Making an element adds it with its tag, as far as that could be set. -/
theorem ensures_createResolved {document : NodeId} {resolution : Resolution} {forest : Forest}
    {done : NodeId → Forest → Prop} {failed : EditError → Forest → Prop} :
    Ensures (createResolved document resolution) forest done failed ↔
      (forest.isA Content.isDocument document →
        match resolution.tag with
        | (.ok (), tag) =>
            done forest.size (forest.add { content := .element tag, owner := some document })
        | (.error cause, tag) =>
            failed (.badAttribute cause)
              (forest.add { content := .element tag, owner := some document })) ∧
      (forest.isA Content.isDocument document = false → failed .noSuchOperation forest) := by
  rw [createResolved, ensures_bind, createElement, ensures_create]
  refine and_congr (imp_congr_right fun _ => ?_) Iff.rfl
  rw [ensures_bind, ensures_setAll]
  exact Iff.rfl

/-! ## Giving nodes their place -/

/-- The nodes whose place a build at the target may take: a node that is replaced,
and all there is under a document. -/
def Target.Spares (target : Target) (forest : Forest) (id : NodeId) : Prop :=
  target.mode = .replacing ∧ id = target.reference ∨
    target.isUnder ∧ forest.isA Content.isDocument target.reference

/-- The implicit parent is the home of the target, if there is one. -/
theorem ensures_implicitParent {target : Target} {world : World} {done : NodeId → World → Prop}
    {failed : Failure → World → Prop}
    (onHome : ∀ home, target.home? world.forest = some home → done home world)
    (onFailed : ∀ cause, failed cause world) :
    Ensures (implicitParent target) world done failed := by
  unfold implicitParent
  split
  · rename_i isUnder
    exact onHome _ (by simp [Target.home?, isUnder])
  · rename_i beside
    rw [parentBeside, MarkupSpec.ensures_bind, ensures_edit, ensures_look]
    refine ⟨fun node there => ?_, fun _ => onFailed _⟩
    have same : target.home? world.forest = node.parent := by
      rw [Target.home?, if_neg beside, parent?_of_node? there]
    cases parented : node.parent with
    | none => exact onFailed _
    | some parent => exact onHome parent (same.trans parented)

/-- Attaching is placing, if there is a home for it. -/
theorem ensures_attach {target : Target} {node : NodeId} {world : World}
    {done : Unit → World → Prop} {failed : Failure → World → Prop}
    (onPlace : ∀ home after, target.home? world.forest = some home →
      after.forest = world.forest → Ensures (edit (place target node)) after done failed)
    (onFailed : ∀ cause after, after.forest = world.forest → failed cause after) :
    Ensures (attach target node) world done failed := by
  rw [attach, MarkupSpec.ensures_bind, ensures_discard]
  refine ensures_implicitParent (fun home there => ?_) fun cause => onFailed cause world rfl
  exact (readsOnly_remark _ _ _).ensures_bind (fun _ after _ same => onPlace home after there same)
    onFailed

/-- Attaching moves what placing moves. -/
theorem shifts_attach {homes placed dropped : NodeId → Prop} {target : Target} {node : NodeId}
    {world : World} (may : placed node)
    (isHome : ∀ home, target.home? world.forest = some home → homes home)
    (yields : target.isUnder → world.forest.isA Content.isDocument target.reference →
      ∀ id, dropped id)
    (mayGo : target.mode = .replacing → dropped target.reference) :
    Ensures (attach target node) world
      (fun _ after => Shifts homes placed dropped world.forest after.forest)
      fun _ after => Shifts homes placed dropped world.forest after.forest := by
  refine ensures_attach (fun _ after _ same => ?_) fun _ after same => ?_
  · rw [ensures_edit, same]
    exact shifts_place may isHome yields mayGo
  · rw [same]
    exact shifts.refl _

/-- A new node gets its place. -/
theorem grows_attach {target : Target} {node : NodeId} {before : Forest} {world : World}
    (grew : Grows (target.Spares before) before world.forest) (new : before.size ≤ node) :
    Ensures (attach target node) world
      (fun _ after => Grows (target.Spares before) before after.forest)
      fun _ after => Grows (target.Spares before) before after.forest := by
  have shifts : Ensures (attach target node) world
      (fun _ after => Shifts (fun _ => True) (before.size ≤ ·) (target.Spares before) world.forest
        after.forest)
      fun _ after => Shifts (fun _ => True) (before.size ≤ ·) (target.Spares before) world.forest
        after.forest :=
    shifts_attach new (fun _ _ => trivial)
      (fun isUnder isDocument _ => .inr ⟨isUnder, grew.isDocument _ ▸ isDocument⟩)
      fun isReplacing => .inl ⟨isReplacing, rfl⟩
  have moved (final : Forest)
      (shifted : Shifts (fun _ => True) (before.size ≤ ·) (target.Spares before)
        world.forest final) : Grows (target.Spares before) before final :=
    grew.moves (shifted grew.loaded) (fun _ new => new) fun _ _ isSpared => .inl isSpared
  exact shifts.mono (fun _ after => moved after.forest) fun _ after => moved after.forest

/-- No node is made, and contents last, when one of them gets its place. -/
theorem lasts_attach (target : Target) (node : NodeId) (world : World) :
    Ensures (attach target node) world
      (fun _ after => after.forest.size = world.forest.size ∧ Lasts world.forest after.forest)
      fun _ after => after.forest.size = world.forest.size ∧ Lasts world.forest after.forest := by
  have shifts : Ensures (attach target node) world
      (fun _ after => Shifts (fun _ => True) (fun _ => True) (fun _ => True) world.forest
        after.forest)
      fun _ after => Shifts (fun _ => True) (fun _ => True) (fun _ => True) world.forest
        after.forest :=
    shifts_attach trivial (fun _ _ => trivial) (fun _ _ _ => trivial) fun _ => trivial
  have loaded : Loaded (fun _ => True) (fun _ => True) world.forest :=
    { children := fun _ _ _ _ _ => trivial, parent := fun _ _ _ _ => trivial }
  exact shifts.mono (fun _ _ shifted => ⟨(shifted loaded).size, (shifted loaded).lasts⟩)
    fun _ _ shifted => ⟨(shifted loaded).size, (shifted loaded).lasts⟩

/-! ## Elements -/

theorem readsOnly_resolveElement (scene : Scene) (place : Place) (spec : Spec) (name : Value)
    (attributes : RawAttributes) :
    ReadsOnly (resolveElement scene place spec name attributes) := by
  refine .bind (readsOnly_specContext _ _ _) fun context => .bind (readsOnly_flatten _ _) fun text => ?_
  cases text with
  | none => exact readsOnly_failSpec _ _ _
  | some text =>
      exact .bind (readsOnly_nearest place) fun near =>
        .bind (readsOnly_resolve _ _ _ _ _ _) fun _ => readsOnly_pure _

theorem grows_makeElement (scene : Scene) (place : Place) (spec : Spec) (name : Value)
    (attributes : RawAttributes) (world : World) :
    Ensures (makeElement scene place spec name attributes) world
      (fun made after => Grows (place.target.Spares world.forest) world.forest after.forest ∧
        made.element = world.forest.size ∧ made.inside.target = .under made.element)
      fun _ after => Grows (place.target.Spares world.forest) world.forest after.forest := by
  have loosens {after : Forest} (grew : Grows Nobody world.forest after) :
      Grows (place.target.Spares world.forest) world.forest after := grew.mono fun _ => False.elim
  refine (readsOnly_resolveElement scene place spec name attributes).ensures_bind
    (fun found after _ same => ?_) fun _ after same => ?_
  · obtain ⟨near, resolution⟩ := found
    rw [MarkupSpec.ensures_bind, ensures_edit, same, ensures_createResolved]
    refine ⟨fun _ => ?_, fun _ => Grows.refl _⟩
    split
    · rw [MarkupSpec.ensures_bind]
      exact (grows_attach (loosens (grows_add rfl)) (Nat.le_refl _)).mono
        (fun _ _ grew => ⟨grew, rfl, rfl⟩) fun _ _ grew => grew
    · exact loosens (grows_add rfl)
  · rw [same]
    exact Grows.refl _

/-! ## Nodes without parts -/

/-- A step that makes a node only adds to the forest, and gives the next number. -/
def Makes (step : Build NodeId) : Prop :=
  ∀ world, Ensures step world
    (fun node after => Grows Nobody world.forest after.forest ∧ node = world.forest.size)
    fun _ after => Grows Nobody world.forest after.forest

theorem ReadsOnly.makes_bind {α : Type} {first : Build α} {next : α → Build NodeId}
    (reads : ReadsOnly first) (onNext : ∀ result, Makes (next result)) : Makes (first >>= next) := by
  intro world
  refine reads.ensures_bind (fun result after _ same => ?_) fun _ after same => ?_
  · rw [← same]
    exact onNext result after
  · rw [same]
    exact Grows.refl _

theorem makes_create {document : NodeId} {content : Content}
    (noDocument : content.isDocument = false) : Makes (edit (Edit.create document content)) := by
  intro world
  rw [ensures_edit, ensures_create]
  exact ⟨fun _ => ⟨grows_add noDocument, rfl⟩, fun _ => Grows.refl _⟩

theorem makes_buildInstruction (scene : Scene) (spec : Spec) (path : List String)
    (children : List Value) (attributes : RawAttributes) :
    Makes (buildInstruction scene spec path children attributes) := by
  refine (readsOnly_leadingText _ _ _ _ _).makes_bind fun target => ?_
  dsimp only
  split
  · exact (readsOnly_pseudoAttributes _ _).makes_bind fun _ =>
      (readsOnly_pure _).makes_bind fun _ => makes_create rfl
  · exact (readsOnly_childrenText _ _).makes_bind fun _ => makes_create rfl

theorem makes_makeLeaf (scene : Scene) (path : List String) (spec : Spec) :
    Makes (makeLeaf scene path spec) := by
  unfold makeLeaf
  split
  · exact (readsOnly_childrenText _ _).makes_bind fun _ => makes_create rfl
  · exact (readsOnly_childrenText _ _).makes_bind fun _ => makes_create rfl
  · exact makes_buildInstruction _ _ _ _ _
  · intro world
    rw [ensures_edit]
    exact grows_copy ..
  · exact readsOnly_describe.makes_bind fun _ => makes_create rfl
  · exact fun world => Grows.refl _

/-! ## Doctypes -/

/-- A document gives a place to a new doctype, and may take that of another one. -/
theorem makes_giveDoctype (document : NodeId) (root : Value) (publicId systemId : Option String) :
    Makes (giveDoctype document root publicId systemId) := by
  intro world
  rw [giveDoctype, MarkupSpec.ensures_bind, ensures_edit, ensures_checkDocument]
  refine ⟨fun isDocument => ?_, fun _ => Grows.refl _⟩
  refine (readsOnly_doctypeName root).ensures_bind (fun asked after _ same => ?_)
    fun _ after same => same ▸ Grows.refl _
  rw [MarkupSpec.ensures_bind, ensures_edit, same, createDoctype, ensures_create]
  refine ⟨fun _ => ?_, fun _ => Grows.refl _⟩
  have grew (content : Content) (noDocument : content.isDocument = false) :
      Grows Nobody world.forest (world.forest.add { content, owner := some document }) :=
    grows_add noDocument
  refine (readsOnly_noticeReplaced document root).ensures_bind (fun _ final _ same => ?_)
    fun _ final same => same ▸ grew _ rfl
  rw [MarkupSpec.ensures_bind, ensures_edit, same]
  refine (grows_placeDoctype (grew _ rfl) ?_ (Nat.le_refl _)).mono (fun _ _ grew => ⟨grew, rfl⟩)
    fun _ _ grew => grew
  rw [(grew _ rfl).isDocument]
  exact isDocument

theorem makes_buildDoctype (scene : Scene) (spec : Spec) (path : List String)
    (children : List Value) (attributes : RawAttributes) :
    Makes (buildDoctype scene spec path children attributes) :=
  (readsOnly_leadingText _ _ _ _ _).makes_bind fun _ =>
    (readsOnly_identifier _ _ _ _ _).makes_bind fun _ =>
      (readsOnly_identifier _ _ _ _ _).makes_bind fun _ => makes_giveDoctype _ _ _ _

/-! ## The build -/

/-- A builder adds to the forest what its target lets it add. -/
def Builder.Grows (below : Builder) : Prop :=
  ∀ value place world, Ensures (below value place) world
    (fun _ after => Forest.Grows (place.target.Spares world.forest) world.forest after.forest)
    fun _ after => Forest.Grows (place.target.Spares world.forest) world.forest after.forest

/-- Later a target spares the same nodes. -/
theorem Target.spares_iff {target : Target} {spared : NodeId → Prop} {before after : Forest}
    (grew : Forest.Grows spared before after) (id : NodeId) :
    target.Spares after id ↔ target.Spares before id := by
  rw [Target.Spares, Target.Spares, grew.isDocument]

theorem Target.eq_under {target : Target} (isUnder : target.isUnder) :
    target = .under target.reference := by
  obtain ⟨mode, reference⟩ := target
  obtain rfl : mode = .under := by simpa [Target.isUnder] using isUnder
  rfl

/-- Under a node that is no document nothing is spared. -/
theorem Target.not_spares_under {parent : NodeId} {forest : Forest}
    (noDocument : forest.isA Content.isDocument parent = false) (id : NodeId) :
    ¬ (Target.under parent).Spares forest id := by
  simp [Target.Spares, Target.under, noDocument]

section Run

variable {scene : Scene} {below : Builder}

theorem grows_buildLeaf (scene : Scene) (place : Place) (spec : Spec) (world : World) :
    Ensures (buildLeaf scene place spec) world
      (fun _ after => Forest.Grows (place.target.Spares world.forest) world.forest after.forest)
      fun _ after => Forest.Grows (place.target.Spares world.forest) world.forest after.forest := by
  rw [buildLeaf, MarkupSpec.ensures_bind]
  refine (makes_makeLeaf scene place.path spec world).mono (fun node after made => ?_)
    fun _ _ grew => grew.mono fun _ => False.elim
  obtain ⟨grew, rfl⟩ := made
  rw [MarkupSpec.ensures_bind]
  exact grows_attach (grew.mono fun _ => False.elim) (Nat.le_refl _)

theorem grows_buildElement (grows : below.Grows) (place : Place) (spec : Spec) (name : Value)
    (attributes : RawAttributes) (children : List Value) (world : World) :
    Ensures (buildElement scene below place spec name attributes children) world
      (fun _ after => Forest.Grows (place.target.Spares world.forest) world.forest after.forest)
      fun _ after => Forest.Grows (place.target.Spares world.forest) world.forest after.forest := by
  rw [buildElement, MarkupSpec.ensures_bind]
  refine (grows_makeElement scene place spec name attributes world).mono
    (fun made after ends => ?_) fun _ _ grew => grew
  obtain ⟨grew, element, inside⟩ := ends
  split
  · exact grew
  · rw [MarkupSpec.ensures_bind]
    have noDocument := grew.noDocument made.element (Nat.le_of_eq element.symm)
    have tight (id : NodeId) : ¬ made.inside.target.Spares after.forest id := by
      rw [inside]
      exact Target.not_spares_under noDocument id
    exact (grows (.list children) made.inside after).mono
      (fun _ _ grown => grew.trans grown fun id spares => absurd spares (tight id))
      fun _ _ grown => grew.trans grown fun id spares => absurd spares (tight id)

theorem grows_buildMembers (grows : below.Grows) (place : Place) :
    ∀ (items : List Value) (index : Nat) (last : Option NodeId) (world : World),
      Ensures (buildMembers below place index last items) world
        (fun _ after => Forest.Grows (place.target.Spares world.forest) world.forest after.forest)
        fun _ after => Forest.Grows (place.target.Spares world.forest) world.forest after.forest
  | [], _, _, world => Forest.Grows.refl _
  | item :: rest, index, last, world => by
      rw [buildMembers, MarkupSpec.ensures_bind]
      refine (grows item (place.deeper (memberSegment index)) world).mono
        (fun node after grew => ?_) fun _ _ grew => grew
      have later := grows_buildMembers grows place rest (index + 1) (node <|> last) after
      exact later.mono (fun _ _ grown => grew.trans grown fun id => (Target.spares_iff grew id).mp)
        fun _ _ grown => grew.trans grown fun id => (Target.spares_iff grew id).mp

/-- A sequence under a node is opened there, and one beside a node in a new
fragment. -/
theorem ensures_openSequence {place : Place} {world : World} {done : Place → World → Prop}
    {failed : Failure → World → Prop}
    (onUnder : place.target.isUnder →
      done
        { place with
          target := .under place.target.reference
          pseudo := some (place.pseudo.getD place.target.reference) } world)
    (onBeside : ∀ home, place.target.isUnder = false →
      world.forest.parent? place.target.reference = some home →
      world.forest.isA Content.isDocument scene.document →
      done
        { place with
          target := .under world.forest.size
          pseudo := some (place.pseudo.getD home) }
        { world with
          forest := world.forest.add { content := .fragment, owner := some scene.document } })
    (onFailed : ∀ cause, failed cause world) :
    Ensures (openSequence scene place) world done failed := by
  rw [openSequence, MarkupSpec.ensures_bind]
  refine ensures_implicitParent (fun home isHome => ?_) onFailed
  rw [MarkupSpec.ensures_bind, holderFor]
  split
  · rename_i isUnder
    rw [Target.home?, if_pos isUnder] at isHome
    cases isHome
    exact onUnder isUnder
  · rename_i beside
    rw [Target.home?, if_neg beside] at isHome
    rw [ensures_edit, ensures_create]
    exact ⟨onBeside home (by simpa using beside) isHome, fun _ => onFailed _⟩

/-- What a sequence goes under spares no more nodes than its target. -/
theorem grows_openSequence (scene : Scene) (place : Place) (world : World) :
    Ensures (openSequence scene place) world
      (fun inside after => Forest.Grows Nobody world.forest after.forest ∧
        inside.target.isUnder ∧
        (∀ id, inside.target.Spares after.forest id → place.target.Spares world.forest id) ∧
        (place.target.isUnder = false → world.forest.isA Content.isDocument scene.document ∧
          inside.target.reference = world.forest.size ∧
          after.forest =
            world.forest.add { content := .fragment, owner := some scene.document }))
      fun _ after => Forest.Grows Nobody world.forest after.forest := by
  refine ensures_openSequence (fun isUnder => ?_) (fun home beside _ isDocument => ?_)
    fun _ => Forest.Grows.refl _
  · refine ⟨Forest.Grows.refl _, rfl, fun id spares => ?_,
      fun beside => absurd isUnder (by simp [beside])⟩
    rcases spares with ⟨isReplacing, -⟩ | ⟨-, isDocument⟩
    · cases isReplacing
    · exact .inr ⟨isUnder, isDocument⟩
  · have grew : Forest.Grows Nobody world.forest
        (world.forest.add { content := .fragment, owner := some scene.document }) := grows_add rfl
    exact ⟨grew, rfl,
      fun id spares =>
        absurd spares (Target.not_spares_under (grew.noDocument _ (Nat.le_refl _)) id),
      fun _ => ⟨isDocument, rfl, rfl⟩⟩

theorem grows_buildSequence (grows : below.Grows) (place : Place) (items : List Value)
    (world : World) :
    Ensures (buildSequence scene below place items) world
      (fun _ after => Forest.Grows (place.target.Spares world.forest) world.forest after.forest)
      fun _ after => Forest.Grows (place.target.Spares world.forest) world.forest after.forest := by
  rw [buildSequence, MarkupSpec.ensures_bind]
  refine (grows_openSequence scene place world).mono (fun inside opened ends => ?_)
    fun _ _ grew => grew.mono fun _ => False.elim
  obtain ⟨grew, isUnder, spares, isNew⟩ := ends
  rw [MarkupSpec.ensures_bind]
  refine (grows_buildMembers grows inside items 0 none opened).mono (fun last built grown => ?_)
    fun _ _ grown => (grew.mono fun _ => False.elim).trans grown spares
  have built : Forest.Grows (place.target.Spares world.forest) world.forest built.forest :=
    (grew.mono fun _ => False.elim).trans grown spares
  rw [MarkupSpec.ensures_bind, closeSequence]
  split
  · rename_i attaches
    have beside : place.target.isUnder = false := by simpa using (Bool.and_eq_true_iff.mp attaches).2
    exact grows_attach built (Nat.le_of_eq (isNew beside).2.1.symm)
  · exact built

theorem grows_buildWithin (scene : Scene) : ∀ budget, Builder.Grows (buildWithin scene budget)
  | 0 => fun _ _ _ => Forest.Grows.refl _
  | budget + 1 => by
      intro value place world
      rw [buildWithin]
      refine (readsOnly_readPart _ _ _).ensures_bind (fun part after _ same => ?_)
        fun _ after same => same ▸ Forest.Grows.refl _
      rw [← same]
      cases part with
      | none => exact Forest.Grows.refl _
      | some spec =>
          have grows := grows_buildWithin scene budget
          cases spec with
          | sequence items => exact grows_buildSequence grows place items after
          | callable function =>
              refine (Function.readsOnly_call function scene.arguments).ensures_bind
                (fun value final _ same => ?_) fun _ final same => same ▸ Forest.Grows.refl _
              rw [← same]
              exact grows value (place.deeper "()") final
          | element name attributes children =>
              exact grows_buildElement grows place _ name attributes children after
          | doctype children attributes =>
              show Ensures (buildDoctype scene _ place.path children attributes >>= fun node =>
                pure (some node)) after _ _
              rw [MarkupSpec.ensures_bind]
              exact (makes_buildDoctype scene _ place.path children attributes after).mono
                (fun _ _ made => made.1.mono fun _ => False.elim) fun _ _ grew => grew.mono fun _ => False.elim
          | comment | cdata | instruction | existing | text => exact grows_buildLeaf ..

end Run

end MarkupSpec
