import MarkupSpec.Proofs.Build.Course
import MarkupSpec.Proofs.Forest.TargetPlacement

/-!
# How a build puts nodes at its target

A build under a home that is no document, of a spec that brings no doctype and no
fragment, puts nodes at its target in few ways: a node without parts, an element
with what is below it, what a fragment has got for it, and one member of a sequence
after the other.  What holds of each of these ways holds of every build of that kind
(`Putting.course`).
-/

namespace MarkupSpec

open Forest Edit Build

/-! ## The nodes that the visits make -/

/-- The node that a visit makes by itself: an element, or a node without parts. -/
def Visit.built? (scene : Scene) (visit : Visit) : Option NodeId :=
  match visit.made? scene, visit.part? scene with
  | some (made, _), _ => some made.element
  | none, some (spec, world) =>
      if spec.isLeaf then
        match makeLeaf scene visit.place.path spec world with
        | .ok node _ => some node
        | .error _ _ => none
      else none
  | none, none => none

/-- The nodes that are made at the visits inside of so many elements. -/
def builtAt (scene : Scene) (level : Nat) (visits : List Visit) : List NodeId :=
  visits.filterMap fun visit =>
    if visit.enclosing.length = level then visit.built? scene else none

/-- Does a visit bring neither a doctype nor a copy of a fragment? -/
def Visit.isSimple (scene : Scene) (visit : Visit) : Bool :=
  match visit.part? scene with
  | some (.doctype .., _) => false
  | some (.existing node, world) => !world.forest.isA Content.isFragment node
  | _ => true

section Built

variable {scene : Scene} {visit : Visit} {visits more : List Visit} {level : Nat} {spec : Spec}
  {world made : World} {node : NodeId}

theorem Visit.made?_of_part? (part : visit.part? scene = some (spec, world))
    (other : ∀ name attributes children, spec ≠ .element name attributes children) :
    visit.made? scene = none := by
  unfold made?
  rw [part]
  split
  · rename_i same
    cases same
    exact absurd rfl (other _ _ _)
  · rfl

theorem Visit.built?_of_made? {element : Made} (isMade : visit.made? scene = some (element, made)) :
    visit.built? scene = some element.element := by
  simp [built?, isMade]

theorem Visit.built?_of_leaf (part : visit.part? scene = some (spec, world)) (isLeaf : spec.isLeaf)
    (makes : makeLeaf scene visit.place.path spec world = .ok node made) :
    visit.built? scene = some node := by
  have notMade : visit.made? scene = none := by
    refine made?_of_part? part fun name attributes children same => ?_
    subst same
    cases isLeaf
  simp [built?, notMade, part, isLeaf, makes]

theorem Visit.built?_of_sequence {items : List Value}
    (part : visit.part? scene = some (.sequence items, world)) : visit.built? scene = none := by
  have notMade := made?_of_part? part fun _ _ _ => nofun
  simp [built?, notMade, part, Spec.isLeaf]

theorem Visit.built?_of_callable {function : Function}
    (part : visit.part? scene = some (.callable function, world)) : visit.built? scene = none := by
  have notMade := made?_of_part? part fun _ _ _ => nofun
  simp [built?, notMade, part, Spec.isLeaf]

theorem Visit.built?_of_none (part : visit.part? scene = none) : visit.built? scene = none := by
  have notMade : visit.made? scene = none := by simp [made?, part]
  simp [built?, notMade, part]

theorem builtAt_append : builtAt scene level (visits ++ more) =
    builtAt scene level visits ++ builtAt scene level more :=
  List.filterMap_append

theorem builtAt_cons (own : visit.enclosing.length = level) :
    builtAt scene level (visit :: visits) =
      (visit.built? scene).toList ++ builtAt scene level visits := by
  unfold builtAt
  rw [List.filterMap_cons, if_pos own]
  cases visit.built? scene <;> rfl

/-- Nothing is made further out than the visits are. -/
theorem builtAt_eq_nil (deeper : ∀ visit ∈ visits, level < visit.enclosing.length) :
    builtAt scene level visits = [] := by
  refine List.filterMap_eq_nil_iff.mpr fun visit among => ?_
  rw [if_neg (Nat.ne_of_gt (deeper visit among))]

end Built

/-! ## What the visits put where -/

/-- The element that a visit makes is put at its target, and is empty. -/
structure Visit.Founds (visit : Visit) (home : NodeId) (made : Made) (after : World) : Prop where
  element : made.element = visit.world.forest.size
  inside : made.inside.target = .under made.element
  puts : visit.place.target.Puts home [made.element] visit.world.forest after.forest
  size : after.forest.size = visit.world.forest.size + 1
  empty : after.forest.children made.element = []
  site : (Target.under made.element).Site after.forest made.element

section Steps

variable {scene : Scene} {visit : Visit} {visits : List Visit} {home node : NodeId}

theorem Visit.founds_of_made? {made : Made} {after : World}
    (site : visit.place.target.Site visit.world.forest home)
    (isMade : visit.made? scene = some (made, after)) : visit.Founds home made after := by
  obtain ⟨spec, name, attributes, world, same, run⟩ := makeElement_of_made? isMade
  obtain ⟨-, size⟩ := (size_makeElement scene visit.place spec name attributes world).of_ok run
  rw [← same] at site
  have founds : Ensures (makeElement scene visit.place spec name attributes) world
      (fun made after => made.element = world.forest.size ∧
        made.inside.target = .under made.element ∧
        visit.place.target.Puts home [made.element] world.forest after.forest ∧
        after.forest.children made.element = [] ∧
        (Target.under made.element).Site after.forest made.element) fun _ _ => True := by
    refine ensures_makeElement_attach site.agrees (fun near resolution tag grown added => ?_)
      fun _ _ _ => trivial
    have inside : world.forest.size < grown.forest.size := by simp [added]
    have elsewhere : world.forest.size ≠ home := (Nat.ne_of_lt site.inside).symm
    refine (Target.puts_attach site (added ▸ fresh_add site.agrees _ _)
      (by simp [added, isA, content?, Content.isFragment])).mono (fun _ after ends => ?_)
      fun _ _ _ => trivial
    obtain ⟨puts, alters⟩ := ends
    have empty : after.forest.children world.forest.size = [] := by
      rw [alters.children _ inside elsewhere (Option.some_ne_none _).symm, added, children_add,
        children_eq_nil (Nat.le_refl _)]
    refine ⟨rfl, rfl, puts, empty,
      .under (Nat.lt_of_lt_of_le inside alters.size) ?_ alters.agrees empty⟩
    rw [isA, alters.content _ inside]
    simp [added, content?, Content.isDocument]
  obtain ⟨element, isInside, puts, empty, site⟩ := founds.of_ok run
  rw [same] at element puts size
  exact ⟨element, isInside, puts, size, empty, site⟩

/-- The node without parts that a visit makes is put at its target. -/
theorem Visit.puts_of_leaf {spec : Spec} {world made after : World}
    (site : visit.place.target.Site world.forest home)
    (part : visit.part? scene = some (spec, world)) (simple : visit.isSimple scene)
    (makes : makeLeaf scene visit.place.path spec world = .ok node made)
    (attaches : attach visit.place.target node made = .ok () after) :
    Fresh world.forest node made.forest ∧
      visit.place.target.Puts home [node] world.forest after.forest ∧
      Alters home (visit.place.target.splice [node] (world.forest.children home))
        (visit.place.target.gone [node]) none made.forest after.forest := by
  have fresh := (fresh_makeLeaf scene visit.place.path spec site.agrees).of_ok makes
  have noFragment : made.forest.isA Content.isFragment node = false := by
    refine (isFragment_makeLeaf scene visit.place.path site.agrees fun id copied => ?_).of_ok makes
    subst copied
    simpa [isSimple, part] using simple
  exact ⟨fresh, (Target.puts_attach site fresh noFragment).of_ok attaches⟩

/-- A sequence is opened where it goes, or in a new fragment. -/
theorem opens_openSequence (scene : Scene) (place : Place) (world : World) :
    Ensures (openSequence scene place) world
      (fun inside opened => inside.target.isUnder ∧
        (place.target.isUnder ∧ inside.target = place.target ∧ opened.forest = world.forest ∨
          place.target.isUnder = false ∧ inside.target = .under world.forest.size ∧
            opened.forest =
              world.forest.add { content := .fragment, owner := some scene.document }))
      fun _ _ => True := by
  exact ensures_openSequence
    (fun isUnder => ⟨rfl, .inl ⟨isUnder, (Target.eq_under isUnder).symm, rfl⟩⟩)
    (fun home beside _ _ => ⟨rfl, .inr ⟨beside, rfl, rfl⟩⟩) fun _ => trivial

/-- None of the visits brings a doctype or a copy of a fragment. -/
def Simple (scene : Scene) (visits : List Visit) : Prop :=
  ∀ visit ∈ visits, visit.isSimple scene

instance (scene : Scene) (visits : List Visit) : Decidable (Simple scene visits) :=
  inferInstanceAs (Decidable (∀ visit ∈ visits, visit.isSimple scene))

theorem Simple.tail (simple : Simple scene (visit :: visits)) : Simple scene visits :=
  fun other among => simple other (List.mem_cons_of_mem _ among)

end Steps

/-- What is said of the nodes that are put at a target holds of each way in which a
build does so.  A level says how many elements are around the outermost of them. -/
structure Putting (scene : Scene)
    (R : Nat → Target → NodeId → Forest → List Visit → Option NodeId → Forest → Prop) : Prop where
  nothing : ∀ visit target home before, visit.part? scene = none → target.Site before home →
    R visit.enclosing.length target home before [visit] none before
  leaf : ∀ visit spec world node made after home, visit.part? scene = some (spec, world) →
    spec.isLeaf → visit.isSimple scene →
    makeLeaf scene visit.place.path spec world = .ok node made →
    attach visit.place.target node made = .ok () after →
    visit.place.target.Site world.forest home →
    R visit.enclosing.length visit.place.target home world.forest [visit] (some node) after.forest
  bare : ∀ visit made after home, visit.made? scene = some (made, after) →
    visit.place.target.Site visit.world.forest home →
    R visit.enclosing.length visit.place.target home visit.world.forest [visit] (some made.element)
      after.forest
  element : ∀ visit made middle home visits last after, visit.made? scene = some (made, middle) →
    visit.place.target.Site visit.world.forest home →
    R (visit.enclosing.length + 1) (.under made.element) made.element middle.forest visits last
      after →
    R visit.enclosing.length visit.place.target home visit.world.forest (visit :: visits)
      (last <|> some made.element) after
  around : ∀ visit target home before visits last after, visit.built? scene = none →
    (∀ node world, visit.part? scene ≠ some (.existing node, world)) →
    R visit.enclosing.length target home before visits last after →
    R visit.enclosing.length target home before (visit :: visits) last after
  closing : ∀ level target home before document visits last built after, target.Site before home →
    target.isUnder = false →
    R level (.under before.size) before.size
      (before.add { content := .fragment, owner := some document }) visits last built.forest →
    closeSequence target before.size last built = .ok () after →
    R level target home before visits last after.forest
  done : ∀ level target home before, target.Site before home →
    R level target home before [] none before
  site : ∀ level target home before visits last after, target.isUnder →
    target.Site before home → R level target home before visits last after →
    target.Site after home
  next : ∀ level target home before first node middle rest last after, target.isUnder →
    target.Site before home → R level target home before first node middle →
    R level target home middle rest last after →
    R level target home before (first ++ rest) (last <|> node) after

/-- What holds of each way in which nodes are put at a target holds of all builds that
bring neither a doctype nor a copy of a fragment. -/
theorem Putting.course {scene : Scene}
    {R : Nat → Target → NodeId → Forest → List Visit → Option NodeId → Forest → Prop}
    (putting : Putting scene R) : Course scene
    (fun start visits last after => Simple scene visits → ∀ home,
      start.place.target.Site start.world.forest home →
      R start.enclosing.length start.place.target home start.world.forest visits last after.forest)
    (fun enclosing inside world visits last after => Simple scene visits → inside.target.isUnder →
      ∀ home, inside.target.Site world.forest home →
      R enclosing.length inside.target home world.forest visits last after.forest) where
  nothing visit after part same _ home site := by
    rw [same]
    exact putting.nothing visit _ home _ part site
  leaf visit spec world node made after part isLeaf makes attaches simple home site := by
    rw [← Visit.forest_of_part? part] at site ⊢
    exact putting.leaf visit spec world node made after home part isLeaf (simple visit (by simp))
      makes attaches site
  doctype visit _ _ _ _ _ part _ simple := by
    have isSimple := simple visit (by simp)
    simp [Visit.isSimple, part] at isSimple
  bare visit made after isMade _ home site := putting.bare visit made after home isMade site
  element visit made children middle visits last after isMade inner simple home site := by
    have founds := Visit.founds_of_made? site isMade
    have puts := inner simple.tail made.element
    rw [show (visit.content made children middle).place.target = .under made.element from
      founds.inside] at puts
    exact putting.element visit made middle home visits last after.forest isMade site
      (puts founds.site)
  callable visit function world value middle visits last after part calls inner simple home site := by
    have same : middle.forest = visit.world.forest :=
      ((Function.readsOnly_call function _).forest_of_ok calls).trans (Visit.forest_of_part? part)
    have puts := inner simple.tail home
    rw [show (visit.called value middle).world.forest = visit.world.forest from same] at puts
    exact putting.around visit _ home _ visits last _ (Visit.built?_of_callable part)
      (fun _ _ copied => by cases part.symm.trans copied) (puts site)
  sequence visit items world inside opened visits last built after part opens inner closes simple
      home site := by
    have same := Visit.forest_of_part? part
    obtain ⟨isUnder, opened'⟩ := (opens_openSequence scene visit.place world).of_ok opens
    refine putting.around visit _ home _ visits last _ (Visit.built?_of_sequence part)
      (fun _ _ copied => by cases part.symm.trans copied) ?_
    have puts := inner simple.tail isUnder
    rcases opened' with ⟨isUnder, isInside, here⟩ | ⟨beside, isInside, added⟩
    · rw [isInside, here, same] at puts
      have idle : closeSequence visit.place.target inside.target.reference last =
          (pure () : Build Unit) := by
        unfold closeSequence
        rw [isUnder, Bool.not_true, Bool.and_false, if_neg Bool.false_ne_true]
      rw [idle] at closes
      cases closes
      exact puts home site
    · rw [isInside, added, same] at puts
      rw [isInside, same] at closes
      refine putting.closing _ _ home _ _ visits last built after site beside
        (puts _ (.under (by simp) ?_ (site.agrees.add _ _) ?_)) closes
      · simp [isA, content?, Content.isDocument]
      · rw [children_add, children_eq_nil (Nat.le_refl _)]
  done enclosing inside world _ _ home site := putting.done _ _ home _ site
  next enclosing inside value segment world first node middle rest last after here later simple
      isUnder home site := by
    have puts := here (fun visit among => simple visit (List.mem_append_left _ among)) home site
    exact putting.next _ _ home _ first node _ rest last _ isUnder site puts
      (later (fun visit among => simple visit (List.mem_append_right _ among)) isUnder home
        (putting.site _ _ home _ first node _ isUnder site puts))

end MarkupSpec
