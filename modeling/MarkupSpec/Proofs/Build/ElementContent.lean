import Mathlib.Data.List.Flatten
import MarkupSpec.Proofs.Build.FailurePath
import MarkupSpec.Proofs.Build.OutermostNodes
import MarkupSpec.Proofs.Spec.Regrouping

/-!
# What fills an element

The values inside of an element are built in turn, and the children that it gets are the
outermost nodes of the first of them, then those of the second, and so on (`Visit.Runs.fills`).

A build that succeeds is followed from one visit to the visits inside of it.  Each of these has
the budget that is left at its depth (`Visit.budget`), so that a part of a build is known by its
visit alone.
-/

namespace MarkupSpec

open Forest Edit Build

/-- The nodes that the build of the value makes furthest out. -/
def Visit.outermost (scene : Scene) (visit : Visit) : List NodeId :=
  builtAt scene visit.enclosing.length (visit.inner scene)

/-- The children of a node are the outermost nodes of so many values, which are built in turn. -/
def Fills (scene : Scene) (visits : List Visit) (forest : Forest) (parent : NodeId)
    (values : List Value) : Prop :=
  ∃ turns : List Visit, turns.map Visit.value = values ∧ turns.Sublist visits ∧
    (∀ turn ∈ turns, turn.place.target = .under parent) ∧
    forest.children parent = turns.flatMap (Visit.outermost scene)

theorem Fills.later {scene : Scene} {visits more : List Visit} {forest after : Forest}
    {parent : NodeId} {values : List Value} (fills : Fills scene visits forest parent values)
    (among : visits.Sublist more) (row : after.children parent = forest.children parent) :
    Fills scene more after parent values := by
  obtain ⟨turns, same, inOrder, under, fills⟩ := fills
  exact ⟨turns, same, inOrder.trans among, under, row.trans fills⟩

/-! ## Members in turn -/

section Turns

variable {below : Builder} {enclosing : Enclosing} {inside : Place} {turn : Visit}

/-- If all members are built each of them has its turn. -/
theorem values_turns : ∀ {items : List Value} {index : Nat} {before last : Option NodeId}
    {world after : World}, buildMembers below inside index before items world = .ok last after →
    (turns below enclosing inside index world items).map Visit.value = items
  | [], _, _, _, _, _, _ => rfl
  | item :: rest, index, _, _, _, _, run => by
      rw [buildMembers] at run
      obtain ⟨node, middle, builds, run⟩ := bind_eq_ok.mp run
      rw [turns, memberVisits, builds, List.map_append, values_turns run]
      rfl

/-- The builds of the visits succeed one after the other. -/
inductive InTurn (scene : Scene) : List Visit → World → World → Prop
  | nil (world : World) : InTurn scene [] world world
  | cons {visit : Visit} {rest : List Visit} {last : Option NodeId} {middle after : World} :
      visit.Runs scene last middle → InTurn scene rest middle after →
      InTurn scene (visit :: rest) visit.world after

theorem InTurn.runs {scene : Scene} {visits : List Visit} {world after : World}
    (inTurn : InTurn scene visits world after) {visit : Visit} (among : visit ∈ visits) :
    ∃ last after, visit.Runs scene last after := by
  induction inTurn with
  | nil => cases among
  | cons runs _ ih =>
      rcases List.mem_cons.mp among with rfl | later
      · exact ⟨_, _, runs⟩
      · exact ih later

theorem InTurn.append {scene : Scene} {first second : List Visit} {world after : World} :
    InTurn scene (first ++ second) world after ↔
      ∃ middle, InTurn scene first world middle ∧ InTurn scene second middle after := by
  induction first generalizing world with
  | nil =>
      refine ⟨fun inTurn => ⟨world, .nil world, inTurn⟩, ?_⟩
      rintro ⟨_, ⟨⟩, inTurn⟩
      exact inTurn
  | cons visit rest ih =>
      constructor
      · rintro (_ | ⟨runs, later⟩)
        obtain ⟨middle, inTurn, last⟩ := ih.mp later
        exact ⟨middle, .cons runs inTurn, last⟩
      · rintro ⟨middle, _ | ⟨runs, inTurn⟩, last⟩
        exact .cons runs (ih.mpr ⟨middle, inTurn, last⟩)

/-- The members of a sequence are built in turn. -/
theorem inTurn_turns {scene : Scene} {budget : Nat}
    (left : scene.settings.budget - (inside.depth + 1) = budget) :
    ∀ {items : List Value} {index : Nat} {before last : Option NodeId} {world after : World},
      buildMembers (buildWithin scene budget) inside index before items world = .ok last after →
      InTurn scene (turns (buildWithin scene budget) enclosing inside index world items) world after
  | [], _, _, _, world, _, run => by
      cases run
      exact .nil world
  | item :: rest, index, _, _, world, after, run => by
      rw [buildMembers] at run
      obtain ⟨node, middle, builds, run⟩ := bind_eq_ok.mp run
      rw [turns, memberVisits, builds]
      let turn : Visit :=
        { value := item, place := inside.deeper (memberSegment index), world, enclosing }
      have runs : turn.Runs scene node middle := by
        rw [Visit.Runs, Visit.budget, show turn.place.depth = inside.depth + 1 from rfl, left]
        exact builds
      exact .cons runs (inTurn_turns left run)

end Turns

/-! ## From a visit to those inside of it -/

namespace Visit

variable {scene : Scene} {visit : Visit} {last : Option NodeId} {after : World}

theorem Runs.left (runs : visit.Runs scene last after) : visit.budget scene ≠ 0 := by
  intro spent
  rw [Runs, spent] at runs
  cases runs

/-- A build that succeeds goes on with what its value was read as. -/
theorem Runs.builds {spec : Spec} {read : World} (runs : visit.Runs scene last after)
    (part : visit.part? scene = some (spec, read)) :
    buildSpec scene (buildWithin scene (visit.budget scene - 1)) visit.place spec read =
      .ok last after := by
  obtain ⟨budget, left⟩ := Nat.exists_eq_succ_of_ne_zero runs.left
  rw [Runs, left, buildWithin] at runs
  obtain ⟨found, world, run, builds⟩ := bind_eq_ok.mp runs
  rw [part?, run] at part
  cases found <;> cases part
  rw [left]
  exact builds

/-- What is read at a visit is what its value is read as. -/
theorem eq_some_of_readPart {spec : Spec} {found : Option Spec} {read : World}
    (reads : visit.value.IsReadAs scene.settings spec)
    (run : readPart scene.settings visit.value visit.place visit.world = .ok found read) :
    found = some spec := by
  obtain ⟨_, checked, -, run⟩ := bind_eq_ok.mp run
  rw [reads, pure_bind] at run
  obtain ⟨_, noted, -, run⟩ := bind_eq_ok.mp run
  cases run
  rfl

theorem eq_of_part? {spec found : Spec} {read : World}
    (reads : visit.value.IsReadAs scene.settings spec)
    (part : visit.part? scene = some (found, read)) : found = spec := by
  unfold part? at part
  split at part
  · rename_i run
    cases part
    exact Option.some.inj (eq_some_of_readPart reads run)
  · cases part

/-- A build that succeeds has read its value. -/
theorem Runs.part {spec : Spec} (runs : visit.Runs scene last after)
    (reads : visit.value.IsReadAs scene.settings spec) :
    ∃ read, visit.part? scene = some (spec, read) := by
  obtain ⟨budget, left⟩ := Nat.exists_eq_succ_of_ne_zero runs.left
  rw [Runs, left, buildWithin] at runs
  obtain ⟨found, read, run, -⟩ := bind_eq_ok.mp runs
  obtain rfl := eq_some_of_readPart reads run
  exact ⟨read, by rw [part?, run]⟩

/-- The visit is one to a member of a sequence under a node. -/
structure IsMember (visit : Visit) (parent : NodeId) (member : Visit) : Prop where
  target : member.place.target = .under parent
  pseudo : member.place.pseudo = some (visit.place.pseudo.getD parent)
  anchor : member.place.anchor = visit.place.anchor
  enclosing : member.enclosing = visit.enclosing

/-- A sequence under a node is built there, member by member. -/
theorem Runs.members {items : List Value} {parent : NodeId} (runs : visit.Runs scene last after)
    (held : visit.value.held? = some items) (isThere : items ≠ [])
    (under : visit.place.target = .under parent) :
    ∃ members read, visit.part? scene = some (.sequence items, read) ∧
      InTurn scene members read after ∧ members.map Visit.value = items ∧
      (∀ member ∈ members, visit.IsMember parent member) ∧
      visit.inner scene = visit :: members.flatMap (Visit.inner scene) := by
  obtain ⟨read, part⟩ := runs.part (isReadAs_sequence held isThere)
  have builds := runs.builds part
  let inside : Place :=
    { visit.place with target := .under parent, pseudo := some (visit.place.pseudo.getD parent) }
  have opens : openSequence scene visit.place read = .ok inside read := by
    unfold openSequence
    rw [under]
    rfl
  have run : buildMembers (buildWithin scene (visit.budget scene - 1)) inside 0 none items read =
      .ok last after := by
    replace builds : buildSequence scene (buildWithin scene (visit.budget scene - 1)) visit.place
        items read = .ok last after := builds
    unfold buildSequence at builds
    obtain ⟨_, _, opened, builds⟩ := bind_eq_ok.mp builds
    rw [opens] at opened
    cases opened
    obtain ⟨_, built, builds, rest⟩ := bind_eq_ok.mp builds
    obtain ⟨_, _, closes, rest⟩ := bind_eq_ok.mp rest
    rw [closeSequence, under, show (Target.under parent).isUnder = true from rfl, Bool.not_true,
      Bool.and_false, if_neg Bool.false_ne_true] at closes
    cases closes
    cases rest
    exact builds
  have areMembers {member : Visit} (among : member ∈
      turns (buildWithin scene (visit.budget scene - 1)) visit.enclosing inside 0 read items) :
      visit.IsMember parent member := by
    obtain ⟨⟨segment, isPlace⟩, enclosing⟩ := of_mem_turns among
    constructor
    · rw [isPlace]; rfl
    · rw [isPlace]; rfl
    · rw [isPlace]; rfl
    · exact enclosing
  have left : scene.settings.budget - (inside.depth + 1) = visit.budget scene - 1 := by
    have depth : inside.depth = visit.place.depth := rfl
    unfold Visit.budget
    omega
  refine ⟨_, read, part, inTurn_turns left run, values_turns run,
    fun member among => areMembers among, ?_⟩
  rw [inner_eq runs.left, next, part]
  dsimp only [innerVisits]
  rw [opens]

/-- An element is made, and then what is inside of it is built. -/
theorem Runs.element {name : Value} {attributes : RawAttributes} {children : List Value}
    {read : World} (runs : visit.Runs scene last after)
    (part : visit.part? scene = some (.element name attributes children, read))
    (isThere : children ≠ []) :
    ∃ made middle last', visit.made? scene = some (made, middle) ∧
      (visit.content made children middle).Runs scene last' after ∧
      visit.inner scene = visit :: (visit.content made children middle).inner scene := by
  have builds : buildElement scene (buildWithin scene (visit.budget scene - 1)) visit.place
      (.element name attributes children) name attributes children read = .ok last after :=
    runs.builds part
  unfold buildElement at builds
  obtain ⟨made, middle, makes, builds⟩ := bind_eq_ok.mp builds
  have isMade : visit.made? scene = some (made, middle) := by
    rw [made?, part]
    dsimp only
    rw [makes]
  have nonempty : ¬ children.isEmpty := by simpa using isThere
  rw [if_neg nonempty] at builds
  obtain ⟨last', _, builds, rest⟩ := bind_eq_ok.mp builds
  cases rest
  refine ⟨made, middle, last', isMade, ?_, ?_⟩
  · rw [Runs, budget_of_deeper (path_of_made isMade).2]
    exact builds
  · rw [inner_eq runs.left, next, part]
    dsimp only [innerVisits]
    rw [isMade]
    dsimp only
    rw [if_neg nonempty]
    exact congrArg _ (List.flatMap_singleton _ _)

/-- A build that brings neither a doctype nor a copy of a fragment sets its outermost nodes at
its target. -/
theorem Runs.sets {home : NodeId} (runs : visit.Runs scene last after)
    (simple : Simple scene (visit.inner scene))
    (site : visit.place.target.Site visit.world.forest home) :
    Sets scene visit.enclosing.length visit.place.target home visit.world.forest
      (visit.inner scene) last after.forest :=
  ((putting_sets scene).course.of_build _ visit).of_ok runs simple home site

/-! ## What is inside of an element -/

/-- The values inside of a node without children come to fill it. -/
theorem Runs.fills {values : List Value} {parent : NodeId} (runs : visit.Runs scene last after)
    (held : visit.value.held? = some values) (isThere : values ≠ [])
    (under : visit.place.target = .under parent) (simple : Simple scene (visit.inner scene))
    (site : (Target.under parent).Site visit.world.forest parent)
    (empty : visit.world.forest.children parent = []) :
    Fills scene (visit.inner scene) after.forest parent values ∧
      Appends parent (visit.outermost scene) visit.world.forest after.forest := by
  obtain ⟨members, read, part, inTurn, areValues, areMembers, isInner⟩ :=
    runs.members held isThere under
  have sets := runs.sets simple (under ▸ site)
  rw [under] at sets
  have appends := sets.puts.appends rfl
  refine ⟨⟨members, areValues, ?_, fun member among => (areMembers member among).target, ?_⟩,
    appends⟩
  · -- The visits of a member begin with its own.
    have heads : (members.flatMap fun member => [member]).Sublist
        (members.flatMap (Visit.inner scene)) :=
      List.Sublist.flatMap_right _ fun member among => by
        obtain ⟨_, _, runs⟩ := inTurn.runs among
        rw [inner_eq runs.left]
        exact (List.nil_sublist _).cons_cons member
    rw [List.flatMap_singleton'] at heads
    rw [isInner]
    exact .cons visit heads
  · rw [appends.row, empty, List.nil_append, isInner, builtAt_cons rfl,
      built?_of_sequence part, Option.toList_none, List.nil_append, builtAt, List.filterMap_flatMap]
    refine List.flatMap_congr fun member among => ?_
    rw [Visit.outermost, (areMembers member among).enclosing, builtAt]

/-- The visit makes an element, which comes behind the children of a home and is filled by the
values inside of it. -/
structure Raises (visit : Visit) (scene : Scene) (home : NodeId) (values : List Value) (made : Made)
    (middle after : World) : Prop where
  isMade : visit.made? scene = some (made, middle)
  element : made.element = visit.world.forest.size
  appends : Appends home [made.element] visit.world.forest after.forest
  fills : Fills scene (visit.inner scene) after.forest made.element values
  content : after.forest.content? made.element = middle.forest.content? made.element

theorem Runs.raises {home : NodeId} {name : Value} {attributes : RawAttributes}
    {children : List Value} (runs : visit.Runs scene last after)
    (reads : visit.value.IsReadAs scene.settings (.element name attributes children))
    (isThere : children ≠ []) (under : visit.place.target = .under home)
    (site : (Target.under home).Site visit.world.forest home)
    (simple : Simple scene (visit.inner scene)) :
    ∃ made middle, visit.Raises scene home children made middle after := by
  obtain ⟨read, part⟩ := runs.part reads
  obtain ⟨made, middle, last', isMade, inside, isInner⟩ := runs.element part isThere
  have founds := founds_of_made? (under.symm ▸ site) isMade
  have puts := founds.puts
  rw [under] at puts
  have appends := puts.appends rfl
  have simple' : Simple scene ((visit.content made children middle).inner scene) := by
    rw [isInner] at simple
    exact simple.tail
  obtain ⟨fills, later⟩ :=
    inside.fills (by rfl) isThere founds.inside simple' founds.site founds.empty
  refine ⟨made, middle, isMade, founds.element, ?_, ?_, ?_⟩
  · exact appends.below site.agrees site.inside (Nat.le_of_eq founds.element.symm) later
  · refine fills.later ?_ rfl
    rw [isInner]
    exact List.sublist_cons_self _ _
  · exact later.content _ founds.site.inside

end Visit

end MarkupSpec
