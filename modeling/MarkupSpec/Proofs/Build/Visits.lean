import Mathlib.Data.List.Basic
import MarkupSpec.Proofs.Build.Growth

/-!
# The visits of a build

A build comes to one value after the other: the spec itself, the members of a
sequence, what a function returns, and the children of an element.  Each time it
does is a *visit*, with the place and the world the value is met in and with what
the element maps around it declare.  `visitsWithin` lists the visits of a build in
order, up to the first failure.

Two principles carry the proofs about visits.  What holds of the first place and
is kept from each place to the ones inside of it holds at every visit
(`visits_induct`).  And what a visit brings about, if it lasts with the nodes of the
forest, is there at the end of the whole build (`ensures_of_visit`).
-/

namespace MarkupSpec

open Forest Edit Build

/-- The declarations of the element maps around a value, innermost first. -/
abbrev Enclosing := List (List (Option String × String))

/-- A value that a build comes to. -/
structure Visit where
  value : Value
  place : Place
  world : World
  enclosing : Enclosing := []

namespace Visit

/-- What the value is read as, and the world after reading it. -/
def part? (scene : Scene) (visit : Visit) : Option (Spec × World) :=
  match readPart scene.settings visit.value visit.place visit.world with
  | .ok (some spec) after => some (spec, after)
  | _ => none

/-- The element that is made of the value, if that is an element map, and the
world after that. -/
def made? (scene : Scene) (visit : Visit) : Option (Made × World) :=
  match visit.part? scene with
  | some (.element name attributes children, world) =>
      match makeElement scene visit.place (.element name attributes children) name attributes
          world with
      | .ok made after => some (made, after)
      | .error _ _ => none
  | _ => none

end Visit

/-- Reading makes no nodes. -/
theorem Visit.forest_of_part? {scene : Scene} {visit : Visit} {spec : Spec} {world : World}
    (part : visit.part? scene = some (spec, world)) : world.forest = visit.world.forest := by
  unfold part? at part
  split at part
  · rename_i run
    cases part
    exact (readsOnly_readPart _ _ _).forest_of_ok run
  · cases part

/-- The visit of what a function returned. -/
def Visit.called (visit : Visit) (value : Value) (world : World) : Visit :=
  { visit with value, place := visit.place.deeper "()", world }

/-- The visit of the children of an element. -/
def Visit.content (visit : Visit) (made : Made) (children : List Value) (world : World) : Visit where
  value := .list children
  place := made.inside
  world := world
  enclosing := made.resolution.declarations :: visit.enclosing

/-- An element is made in the forest that the visit begins with. -/
theorem Visit.makeElement_of_made? {scene : Scene} {visit : Visit} {made : Made} {after : World}
    (isMade : visit.made? scene = some (made, after)) :
    ∃ spec name attributes world, world.forest = visit.world.forest ∧
      makeElement scene visit.place spec name attributes world = .ok made after := by
  unfold made? at isMade
  split at isMade
  · rename_i part
    split at isMade
    · rename_i run
      cases isMade
      exact ⟨_, _, _, _, forest_of_part? part, run⟩
    · cases isMade
  · cases isMade

/-- The visits of the members of a sequence, each in the world that those before it
leave. -/
def memberVisits (visits : Visit → List Visit) (below : Builder) (enclosing : Enclosing)
    (inside : Place) : Nat → World → List Value → List Visit
  | _, _, [] => []
  | index, world, item :: rest =>
      let place := inside.deeper (memberSegment index)
      visits { value := item, place, world, enclosing } ++
        match below item place world with
        | .ok _ after => memberVisits visits below enclosing inside (index + 1) after rest
        | .error _ _ => []
termination_by structural _ _ items => items

/-- The visits inside of what a value was read as. -/
def innerVisits (scene : Scene) (visits : Visit → List Visit) (below : Builder) (visit : Visit)
    (world : World) : Spec → List Visit
  | .sequence items =>
      match openSequence scene visit.place world with
      | .ok inside opened => memberVisits visits below visit.enclosing inside 0 opened items
      | .error _ _ => []
  | .callable function =>
      match function.call scene.arguments world with
      | .ok value after =>
          visits { visit with value, place := visit.place.deeper "()", world := after }
      | .error _ _ => []
  | .element _ _ children =>
      match visit.made? scene with
      | some (made, after) =>
          if children.isEmpty then []
          else
            visits
              { value := .list children, place := made.inside, world := after,
                enclosing := made.resolution.declarations :: visit.enclosing }
      | none => []
  | _ => []

/-- The visits of a build, within a budget of nesting. -/
def visitsWithin (scene : Scene) : Nat → Visit → List Visit
  | 0, _ => []
  | budget + 1, visit =>
      visit ::
        match visit.part? scene with
        | some (spec, world) =>
            innerVisits scene (visitsWithin scene budget) (buildWithin scene budget) visit world
              spec
        | none => []
termination_by structural budget => budget

/-! ## From a visit to those right inside of it -/

/-- The visits of the members of a sequence themselves, without those inside of them. -/
abbrev turns (below : Builder) (enclosing : Enclosing) (inside : Place) :
    Nat → World → List Value → List Visit :=
  memberVisits (fun turn => [turn]) below enclosing inside

namespace Visit

/-- The nesting that a build has left where it comes to a value. -/
def budget (scene : Scene) (visit : Visit) : Nat := scene.settings.budget - visit.place.depth

/-- The build of the value succeeds. -/
def Runs (scene : Scene) (visit : Visit) (last : Option NodeId) (after : World) : Prop :=
  buildWithin scene (visit.budget scene) visit.value visit.place visit.world = .ok last after

/-- The visits of the build of the value. -/
def inner (scene : Scene) (visit : Visit) : List Visit :=
  visitsWithin scene (visit.budget scene) visit

/-- The visits right inside of a visit, without those inside of them: of the members of a
sequence one after the other, of what a function returned, or of the children of an element. -/
def next (scene : Scene) (visit : Visit) : List Visit :=
  match visit.part? scene with
  | some (spec, world) =>
      innerVisits scene (fun inside => [inside]) (buildWithin scene (visit.budget scene - 1)) visit
        world spec
  | none => []

end Visit

section Inside

variable {scene : Scene} {visit : Visit} {below : Builder} {enclosing : Enclosing} {inside : Place}

/-- A sequence is where its value is. -/
theorem path_of_openSequence {place : Place} {world opened : World}
    (run : openSequence scene place world = .ok inside opened) :
    inside.path = place.path ∧ inside.depth = place.depth := by
  obtain ⟨_, _, -, rest⟩ := bind_eq_ok.mp run
  obtain ⟨_, _, -, rest⟩ := bind_eq_ok.mp rest
  cases rest
  exact ⟨rfl, rfl⟩

/-- The inside of an element is one step further down, by the name of the element. -/
theorem Visit.path_of_made {made : Made} {after : World}
    (isMade : visit.made? scene = some (made, after)) :
    made.inside.path = visit.place.path ++ ["<" ++ made.resolution.name ++ ">"] ∧
      made.inside.depth = visit.place.depth + 1 := by
  obtain ⟨_, _, _, _, -, run⟩ := makeElement_of_made? isMade
  obtain ⟨⟨near, resolution⟩, _, -, rest⟩ := bind_eq_ok.mp run
  obtain ⟨_, _, -, rest⟩ := bind_eq_ok.mp rest
  obtain ⟨_, _, -, rest⟩ := bind_eq_ok.mp rest
  cases rest
  exact ⟨rfl, rfl⟩

/-- The visits of a sequence are those of its members. -/
theorem memberVisits_eq_flatMap (visits : Visit → List Visit) :
    ∀ (items : List Value) (index : Nat) (world : World),
      memberVisits visits below enclosing inside index world items =
        (turns below enclosing inside index world items).flatMap visits
  | [], _, _ => rfl
  | item :: rest, index, world => by
      rw [memberVisits, turns, memberVisits, List.flatMap_append, List.flatMap_singleton]
      cases below item (inside.deeper (memberSegment index)) world with
      | ok _ after => exact congrArg _ (memberVisits_eq_flatMap visits rest (index + 1) after)
      | error => rfl

/-- The visits inside of a visit are those of the ones right inside of it. -/
theorem innerVisits_eq_flatMap (visits : Visit → List Visit) (world : World) (spec : Spec) :
    innerVisits scene visits below visit world spec =
      (innerVisits scene (fun inside => [inside]) below visit world spec).flatMap visits := by
  cases spec with
  | sequence items =>
      dsimp only [innerVisits]
      cases openSequence scene visit.place world with
      | ok inside opened => exact memberVisits_eq_flatMap visits items 0 opened
      | error => rfl
  | callable function =>
      dsimp only [innerVisits]
      cases function.call scene.arguments world with
      | ok value after => exact (List.flatMap_singleton _ _).symm
      | error => rfl
  | element name attributes children =>
      dsimp only [innerVisits]
      cases visit.made? scene with
      | none => rfl
      | some found =>
          dsimp only
          split
          · rfl
          · exact (List.flatMap_singleton _ _).symm
  | doctype | comment | cdata | instruction | existing | text => rfl

/-- Every turn is one step further down, in the same element. -/
theorem of_mem_turns {turn : Visit} : ∀ {items : List Value} {index : Nat} {world : World},
    turn ∈ turns below enclosing inside index world items →
    (∃ segment, turn.place = inside.deeper segment) ∧ turn.enclosing = enclosing
  | item :: rest, index, world, among => by
      rw [turns, memberVisits] at among
      rcases List.mem_append.mp among with here | later
      · obtain rfl := List.mem_singleton.mp here
        exact ⟨⟨_, rfl⟩, rfl⟩
      · cases run : below item (inside.deeper (memberSegment index)) world with
        | ok node after =>
            rw [run] at later
            exact of_mem_turns later
        | error =>
            rw [run] at later
            cases later

/-- What is right inside of a visit is one step further down. -/
theorem Visit.depth_of_mem_next {other : Visit} (among : other ∈ visit.next scene) :
    other.place.depth = visit.place.depth + 1 := by
  unfold next at among
  split at among
  case h_2 => cases among
  case h_1 spec world part =>
    cases spec with
    | sequence items =>
        dsimp only [innerVisits] at among
        split at among
        · rename_i inside opened run
          obtain ⟨⟨segment, isPlace⟩, -⟩ := of_mem_turns among
          rw [isPlace]
          exact congrArg (· + 1) (path_of_openSequence run).2
        · cases among
    | callable function =>
        dsimp only [innerVisits] at among
        split at among
        · obtain rfl := List.mem_singleton.mp among
          rfl
        · cases among
    | element name attributes children =>
        dsimp only [innerVisits] at among
        split at among
        · rename_i made after isMade
          split at among
          · cases among
          · obtain rfl := List.mem_singleton.mp among
            exact (path_of_made isMade).2
        · cases among
    | doctype | comment | cdata | instruction | existing | text => cases among

/-- A visit one step further down has a budget that is smaller by one. -/
theorem Visit.budget_of_deeper {deeper : Visit} (depth : deeper.place.depth = visit.place.depth + 1) :
    deeper.budget scene = visit.budget scene - 1 := by
  unfold Visit.budget
  omega

/-- The visits of a build are its own and, in order, those of the visits right inside of it. -/
theorem Visit.inner_eq (left : visit.budget scene ≠ 0) :
    visit.inner scene = visit :: (visit.next scene).flatMap (Visit.inner scene) := by
  obtain ⟨budget, left⟩ := Nat.exists_eq_succ_of_ne_zero left
  have below : budget = visit.budget scene - 1 := by omega
  have each : ∀ other ∈ visit.next scene, visitsWithin scene budget other = other.inner scene := by
    intro other among
    rw [inner, budget_of_deeper (depth_of_mem_next among), below]
  rw [inner, left, visitsWithin, ← List.flatMap_congr each, next]
  cases visit.part? scene with
  | none => rfl
  | some found =>
      obtain ⟨spec, world⟩ := found
      dsimp only
      rw [innerVisits_eq_flatMap, below]

theorem Visit.inner_eq_nil (spent : visit.budget scene = 0) : visit.inner scene = [] := by
  rw [inner, spent, visitsWithin]

/-- A visit of a build has some nesting left, and the visits of its own build stand together. -/
theorem Visit.infix_of_mem_inner {other : Visit} (among : other ∈ visit.inner scene) :
    other.budget scene ≠ 0 ∧ other.inner scene <:+: visit.inner scene := by
  generalize isBudget : visit.budget scene = budget
  induction budget generalizing visit with
  | zero =>
      rw [inner_eq_nil isBudget] at among
      cases among
  | succ budget ih =>
      have left : visit.budget scene ≠ 0 := by omega
      rw [inner_eq left] at among ⊢
      rcases List.mem_cons.mp among with rfl | inside
      · rw [← inner_eq left]
        exact ⟨left, List.infix_rfl⟩
      · obtain ⟨next, isNext, inside⟩ := List.mem_flatMap.mp inside
        have isBudget' : next.budget scene = budget := by
          rw [budget_of_deeper (depth_of_mem_next isNext), isBudget, Nat.add_sub_cancel]
        obtain ⟨left', segment⟩ := ih inside isBudget'
        refine ⟨left', segment.trans ?_⟩
        obtain ⟨front, back, split⟩ := List.append_of_mem isNext
        rw [split, List.flatMap_append, List.flatMap_cons]
        exact ⟨visit :: front.flatMap (inner scene), back.flatMap (inner scene), by simp⟩

end Inside

/-! ## What holds at every visit -/

section Induct

variable {scene : Scene} {P : Place → World → Enclosing → Prop} {H : Visit → Prop}

theorem memberVisits_induct {visits : Visit → List Visit} {budget : Nat} {enclosing : Enclosing}
    {inside : Place}
    (deeper : ∀ place segment world enclosing, P place world enclosing →
      P (place.deeper segment) world enclosing)
    (next : ∀ budget value place segment world node after enclosing,
      P place world enclosing → place.target.isUnder →
      buildWithin scene budget value (place.deeper segment) world = .ok node after →
      P place after enclosing)
    (each : ∀ visit, P visit.place visit.world visit.enclosing → (∀ other ∈ visits visit, H other) →
      ∀ other ∈ visits visit, P other.place other.world other.enclosing)
    (isUnder : inside.target.isUnder) :
    ∀ (items : List Value) (index : Nat) (world : World), P inside world enclosing →
      (∀ other ∈ memberVisits visits (buildWithin scene budget) enclosing inside index world items,
        H other) →
      ∀ other ∈ memberVisits visits (buildWithin scene budget) enclosing inside index world items,
        P other.place other.world other.enclosing
  | [], _, _, _, _, _, among => absurd among List.not_mem_nil
  | item :: rest, index, world, holds, all, other, among => by
      rw [memberVisits] at all among
      rcases List.mem_append.mp among with here | later
      · exact each _ (deeper _ _ _ _ holds)
          (fun other among => all other (List.mem_append_left _ among)) other here
      · cases run : buildWithin scene budget item (inside.deeper (memberSegment index)) world with
        | error cause after =>
            rw [run] at later
            cases later
        | ok node after =>
            rw [run] at later all
            exact memberVisits_induct deeper next each isUnder rest (index + 1) after
              (next budget item inside _ world node after enclosing holds isUnder run)
              (fun other among => all other (List.mem_append_right _ among)) other later

/-- What holds of the first place, and is kept from each place to the ones inside
of it, holds at every visit. -/
theorem visits_induct
    (deeper : ∀ place segment world enclosing, P place world enclosing →
      P (place.deeper segment) world enclosing)
    (reads : ∀ place world after enclosing, P place world enclosing →
      after.forest = world.forest → P place after enclosing)
    (opens : ∀ place world inside after enclosing, P place world enclosing →
      openSequence scene place world = .ok inside after → P inside after enclosing)
    (next : ∀ budget value place segment world node after enclosing,
      P place world enclosing → place.target.isUnder →
      buildWithin scene budget value (place.deeper segment) world = .ok node after →
      P place after enclosing)
    (makes : ∀ visit made after, P visit.place visit.world visit.enclosing → H visit →
      visit.made? scene = some (made, after) →
      P made.inside after (made.resolution.declarations :: visit.enclosing)) :
    ∀ (budget : Nat) (visit : Visit), P visit.place visit.world visit.enclosing →
      (∀ other ∈ visitsWithin scene budget visit, H other) →
      ∀ other ∈ visitsWithin scene budget visit, P other.place other.world other.enclosing
  | 0, _, _, _, _, among => absurd among List.not_mem_nil
  | budget + 1, visit, holds, all, other, among => by
      have each := visits_induct deeper reads opens next makes budget
      rw [visitsWithin] at all among
      rcases List.mem_cons.mp among with rfl | inner
      · exact holds
      · have isGood := all visit (by simp)
        have allInner := fun other among => all other (List.mem_cons_of_mem visit among)
        cases part : visit.part? scene with
        | none =>
            rw [part] at inner
            cases inner
        | some found =>
            obtain ⟨spec, world⟩ := found
            rw [part] at inner allInner
            have holdsAfter := reads _ _ world _ holds (Visit.forest_of_part? part)
            cases spec with
            | sequence items =>
                dsimp only [innerVisits] at inner allInner
                cases run : openSequence scene visit.place world with
                | error cause after =>
                    rw [run] at inner
                    cases inner
                | ok inside opened =>
                    rw [run] at inner allInner
                    have isUnder := ((grows_openSequence scene visit.place world).of_ok run).2.1
                    exact memberVisits_induct deeper next each isUnder items 0 opened
                      (opens _ _ _ _ _ holdsAfter run) allInner other inner
            | callable function =>
                dsimp only [innerVisits] at inner allInner
                cases run : function.call scene.arguments world with
                | error cause after =>
                    rw [run] at inner
                    cases inner
                | ok value after =>
                    rw [run] at inner allInner
                    have same := (Function.readsOnly_call function _).forest_of_ok run
                    exact each _ (deeper _ _ _ _ (reads _ _ after _ holdsAfter same)) allInner
                      other inner
            | element name attributes children =>
                dsimp only [innerVisits] at inner allInner
                cases made : visit.made? scene with
                | none =>
                    rw [made] at inner
                    cases inner
                | some found =>
                    obtain ⟨element, after⟩ := found
                    rw [made] at inner allInner
                    dsimp only at inner allInner
                    split at inner
                    · cases inner
                    · rename_i nonempty
                      rw [if_neg nonempty] at allInner
                      exact each _ (makes visit element after holds isGood made) allInner other
                        inner
            | doctype | comment | cdata | instruction | existing | text => cases inner

end Induct

/-! ## What a visit brings about -/

/-- Once a value was read, a build goes on with what it was read as. -/
theorem Visit.ensures_buildWithin {scene : Scene} {visit : Visit} {spec : Spec} {world : World}
    (part : visit.part? scene = some (spec, world)) {budget : Nat}
    {done : Option NodeId → World → Prop} {failed : Failure → World → Prop} :
    Ensures (buildWithin scene (budget + 1) visit.value visit.place) visit.world done failed ↔
      Ensures (buildSpec scene (buildWithin scene budget) visit.place spec) world done failed := by
  unfold part? at part
  split at part
  · rename_i run
    cases part
    rw [buildWithin, MarkupSpec.ensures_bind, Ensures, run]
  · cases part

/-- A value that is read as nothing makes nothing. -/
theorem Visit.ensures_buildWithin_none {scene : Scene} {visit : Visit}
    (part : visit.part? scene = none) (budget : Nat) :
    Ensures (buildWithin scene (budget + 1) visit.value visit.place) visit.world
      (fun node after => node = none ∧ after.forest = visit.world.forest)
      fun _ after => after.forest = visit.world.forest := by
  rw [buildWithin]
  refine (readsOnly_readPart _ _ _).ensures_bind (fun found after run same => ?_)
    fun _ _ same => same
  unfold part? at part
  rw [run] at part
  cases found with
  | none => exact ⟨rfl, same⟩
  | some spec => cases part

/-- Once an element was made, a build goes on with its children. -/
theorem Visit.ensures_buildElement {scene : Scene} {visit : Visit} {name : Value}
    {attributes : RawAttributes} {children : List Value} {world after : World} {made : Made}
    (part : visit.part? scene = some (.element name attributes children, world))
    (isMade : visit.made? scene = some (made, after)) {below : Builder}
    {done : Option NodeId → World → Prop} {failed : Failure → World → Prop} :
    Ensures (buildElement scene below visit.place (.element name attributes children) name
        attributes children) world done failed ↔
      Ensures (if children.isEmpty then pure (some made.element)
        else do return (← below (.list children) made.inside) <|> some made.element) after
        done failed := by
  unfold made? at isMade
  rw [part] at isMade
  dsimp only at isMade
  split at isMade
  · rename_i run
    cases isMade
    rw [buildElement, MarkupSpec.ensures_bind, Ensures, run]
  · cases isMade

/-- An element that is not made ends the build. -/
theorem Visit.ensures_buildElement_none {scene : Scene} {visit : Visit} {name : Value}
    {attributes : RawAttributes} {children : List Value} {world : World}
    (part : visit.part? scene = some (.element name attributes children, world))
    (notMade : visit.made? scene = none) {below : Builder} {done : Option NodeId → World → Prop} :
    Ensures (buildElement scene below visit.place (.element name attributes children) name
        attributes children) world done fun _ _ => True := by
  unfold made? at notMade
  rw [part] at notMade
  dsimp only at notMade
  split at notMade
  · cases notMade
  · rename_i run
    rw [buildElement, MarkupSpec.ensures_bind, Ensures, run]
    trivial

section Effect

variable {scene : Scene} {R : World → Prop}

/-- What lasts with the nodes of a forest lasts through a step that makes it grow. -/
theorem Ensures.lasting {α : Type} {step : Build α} {world : World} {spared : NodeId → Prop}
    (lasts : ∀ before after, R before → Lasts before.forest after.forest → R after)
    (holds : R world)
    (grows : Ensures step world (fun _ after => Grows spared world.forest after.forest)
      fun _ after => Grows spared world.forest after.forest) :
    Ensures step world (fun _ => R) fun _ => R :=
  grows.mono (fun _ after grew => lasts world after holds grew.lasts)
    fun _ after grew => lasts world after holds grew.lasts

/-- What holds once a visit has made an element, if it lasts with the nodes of the
forest, holds at the end of the visit. -/
theorem Visit.ensures_of_made? {visit : Visit} {made : Made} {after : World}
    (isMade : visit.made? scene = some (made, after))
    (lasts : ∀ before after, R before → Lasts before.forest after.forest → R after)
    (holds : R after) (budget : Nat) :
    Ensures (buildWithin scene (budget + 1) visit.value visit.place) visit.world
      (fun _ => R) fun _ => R := by
  have isMade' := isMade
  unfold made? at isMade'
  split at isMade'
  · rename_i name attributes children read part
    rw [Visit.ensures_buildWithin part]
    show Ensures (buildElement scene _ visit.place _ name attributes children) read _ _
    rw [Visit.ensures_buildElement part isMade]
    split
    · exact holds
    · rw [MarkupSpec.ensures_bind]
      exact Ensures.lasting lasts holds (grows_buildWithin scene budget _ _ after)
  · cases isMade'

theorem ensures_of_memberVisit {visits : Visit → List Visit} {budget : Nat} {visit : Visit}
    {enclosing : Enclosing} {inside : Place}
    (lasts : ∀ before after, R before → Lasts before.forest after.forest → R after)
    (each : ∀ start : Visit, visit ∈ visits start →
      Ensures (buildWithin scene budget start.value start.place) start.world
        (fun _ => R) fun _ => R) :
    ∀ (items : List Value) (index : Nat) (last : Option NodeId) (world : World),
      visit ∈ memberVisits visits (buildWithin scene budget) enclosing inside index world items →
      Ensures (buildMembers (buildWithin scene budget) inside index last items) world
        (fun _ => R) fun _ => R
  | [], _, _, _, among => absurd among List.not_mem_nil
  | item :: rest, index, last, world, among => by
      rw [memberVisits] at among
      rw [buildMembers, MarkupSpec.ensures_bind]
      rcases List.mem_append.mp among with here | later
      · refine (each _ here).mono (fun node after holds => ?_) fun _ _ holds => holds
        exact Ensures.lasting lasts holds
          (grows_buildMembers (grows_buildWithin scene budget) inside rest _ _ after)
      · unfold Ensures
        cases run : buildWithin scene budget item (inside.deeper (memberSegment index)) world with
        | error cause after =>
            rw [run] at later
            cases later
        | ok node after =>
            rw [run] at later
            exact ensures_of_memberVisit lasts each rest (index + 1) _ after later

/-- What a visit brings about, if it lasts with the nodes of the forest, is there at
the end of the whole build. -/
theorem ensures_of_visit {visit : Visit}
    (lasts : ∀ before after, R before → Lasts before.forest after.forest → R after)
    (own : ∀ budget, Ensures (buildWithin scene (budget + 1) visit.value visit.place) visit.world
      (fun _ => R) fun _ => R) :
    ∀ (budget : Nat) (start : Visit), visit ∈ visitsWithin scene budget start →
      Ensures (buildWithin scene budget start.value start.place) start.world
        (fun _ => R) fun _ => R
  | 0, _, among => absurd among List.not_mem_nil
  | budget + 1, start, among => by
      have each := ensures_of_visit lasts own budget
      rw [visitsWithin] at among
      rcases List.mem_cons.mp among with rfl | inner
      · exact own budget
      · cases part : start.part? scene with
        | none =>
            rw [part] at inner
            cases inner
        | some found =>
            obtain ⟨spec, world⟩ := found
            rw [part] at inner
            rw [Visit.ensures_buildWithin part]
            cases spec with
            | sequence items =>
                dsimp only [innerVisits] at inner
                show Ensures (buildSequence scene _ start.place items) world _ _
                rw [buildSequence, MarkupSpec.ensures_bind]
                cases run : openSequence scene start.place world with
                | error cause after =>
                    rw [run] at inner
                    cases inner
                | ok inside opened =>
                    rw [run] at inner
                    rw [Ensures, run]
                    dsimp only
                    rw [MarkupSpec.ensures_bind]
                    refine (ensures_of_memberVisit lasts each items 0 none opened inner).mono
                      (fun last after holds => ?_) fun _ _ holds => holds
                    have closes : Ensures (closeSequence start.place.target inside.target.reference
                        last) after (fun _ => R) fun _ => R := by
                      unfold closeSequence
                      split
                      · exact (lasts_attach _ _ after).mono (fun _ _ ends => lasts _ _ holds ends.2)
                          fun _ _ ends => lasts _ _ holds ends.2
                      · exact holds
                    rw [MarkupSpec.ensures_bind]
                    exact closes
            | callable function =>
                dsimp only [innerVisits] at inner
                show Ensures (function.call scene.arguments >>= fun value =>
                  buildWithin scene budget value (start.place.deeper "()")) world _ _
                rw [MarkupSpec.ensures_bind]
                cases run : function.call scene.arguments world with
                | error cause after =>
                    rw [run] at inner
                    cases inner
                | ok value after =>
                    rw [run] at inner
                    rw [Ensures, run]
                    exact each _ inner
            | element name attributes children =>
                dsimp only [innerVisits] at inner
                show Ensures (buildElement scene _ start.place _ name attributes children) world _ _
                cases made : start.made? scene with
                | none =>
                    rw [made] at inner
                    cases inner
                | some found =>
                    obtain ⟨element, after⟩ := found
                    rw [made] at inner
                    rw [Visit.ensures_buildElement part made]
                    dsimp only at inner
                    split at inner
                    · cases inner
                    · rename_i nonempty
                      rw [if_neg nonempty, MarkupSpec.ensures_bind]
                      exact each _ inner
            | doctype | comment | cdata | instruction | existing | text => cases inner

end Effect

end MarkupSpec
