import MarkupSpec.Proofs.Build.Visits

/-!
# What every step of a build keeps

A build does five things to a forest: it makes a node without parts and attaches
it, it makes a doctype, it makes an element, it opens a sequence, and it closes
one.  Whatever all of these keep at the visits of a build, the whole build keeps,
however it ends (`keeps_buildWithin`).
-/

namespace MarkupSpec

open Forest Edit Build

/-- Is what a value was read as built in one step, as a node without parts to be
built in turn? -/
def Spec.isLeaf : Spec → Bool
  | .comment _ | .cdata _ | .instruction .. | .existing _ | .text _ => true
  | _ => false

/-- A property of forests holds after a step, however that ends. -/
abbrev Stays {α : Type} (I : Forest → Prop) (step : Build α) (world : World) : Prop :=
  Ensures step world (fun _ after => I after.forest) fun _ after => I after.forest

/-- What the visit itself does to the forest keeps a property. -/
structure Visit.Keeps (scene : Scene) (I : Forest → Prop) (visit : Visit) : Prop where
  leaf : ∀ spec world, visit.part? scene = some (spec, world) → spec.isLeaf → I world.forest →
    Stays I (buildLeaf scene visit.place spec) world
  doctype : ∀ children attributes world,
    visit.part? scene = some (.doctype children attributes, world) → I world.forest →
    Stays I (buildDoctype scene (.doctype children attributes) visit.place.path children attributes)
      world
  element : ∀ name attributes children world,
    visit.part? scene = some (.element name attributes children, world) → I world.forest →
    Stays I (makeElement scene visit.place (.element name attributes children) name attributes)
      world
  opens : ∀ items world, visit.part? scene = some (.sequence items, world) → I world.forest →
    Stays I (openSequence scene visit.place) world
  closes : ∀ items world inside opened budget last built,
    visit.part? scene = some (.sequence items, world) → I world.forest →
    openSequence scene visit.place world = .ok inside opened →
    buildMembers (buildWithin scene budget) inside 0 none items opened = .ok last built →
    I built.forest →
    Stays I (closeSequence visit.place.target inside.target.reference last) built

section Run

variable {scene : Scene} {I : Forest → Prop}

/-- A step that only reads keeps every property. -/
theorem ReadsOnly.stays_bind {α β : Type} {first : Build α} {next : α → Build β} {world : World}
    (reads : ReadsOnly first) (holds : I world.forest)
    (onNext : ∀ result after, first world = .ok result after → I after.forest →
      Stays I (next result) after) : Stays I (first >>= next) world :=
  reads.ensures_bind (fun result after run same => onNext result after run (same ▸ holds))
    fun _ _ same => same ▸ holds

theorem keeps_buildMembers {visits : Visit → List Visit} {budget : Nat} {enclosing : Enclosing}
    {inside : Place}
    (each : ∀ start : Visit, (∀ visit ∈ visits start, visit.Keeps scene I) → I start.world.forest →
      Stays I (buildWithin scene budget start.value start.place) start.world) :
    ∀ (items : List Value) (index : Nat) (last : Option NodeId) (world : World),
      (∀ visit ∈ memberVisits visits (buildWithin scene budget) enclosing inside index world items,
        visit.Keeps scene I) →
      I world.forest → Stays I (buildMembers (buildWithin scene budget) inside index last items) world
  | [], _, _, _, _, holds => holds
  | item :: rest, index, last, world, keeps, holds => by
      rw [memberVisits] at keeps
      have here := each
        { value := item, place := inside.deeper (memberSegment index), world, enclosing }
        (fun visit among => keeps visit (List.mem_append_left _ among)) holds
      show Ensures (buildMembers _ inside index last (item :: rest)) world _ _
      rw [buildMembers, MarkupSpec.ensures_bind]
      refine Ensures.of_run (fun node after run => ?_) fun cause after run => here.of_error run
      rw [run] at keeps
      exact keeps_buildMembers each rest (index + 1) (node <|> last) after
        (fun visit among => keeps visit (List.mem_append_right _ among)) (here.of_ok run)

/-- What every visit keeps the whole build keeps. -/
theorem keeps_buildWithin : ∀ (budget : Nat) (start : Visit),
    (∀ visit ∈ visitsWithin scene budget start, visit.Keeps scene I) → I start.world.forest →
    Stays I (buildWithin scene budget start.value start.place) start.world
  | 0, _, _, holds => holds
  | budget + 1, start, keeps, holds => by
      have each := keeps_buildWithin budget
      rw [visitsWithin] at keeps
      have own := keeps start List.mem_cons_self
      have inner := fun visit among => keeps visit (List.mem_cons_of_mem start among)
      cases part : start.part? scene with
      | none =>
          exact (Visit.ensures_buildWithin_none part budget).mono
            (fun _ _ ends => ends.2 ▸ holds) fun _ _ same => same ▸ holds
      | some found =>
          obtain ⟨spec, world⟩ := found
          rw [part] at inner
          have holds : I world.forest := (Visit.forest_of_part? part).symm ▸ holds
          show Ensures (buildWithin scene (budget + 1) start.value start.place) start.world _ _
          rw [Visit.ensures_buildWithin part]
          cases spec with
          | sequence items =>
              dsimp only [innerVisits] at inner
              have opens := own.opens items world part holds
              show Ensures (buildSequence scene _ start.place items) world _ _
              rw [buildSequence, MarkupSpec.ensures_bind]
              refine Ensures.of_run (fun inside opened run => ?_) fun _ _ run => opens.of_error run
              rw [run] at inner
              have members := keeps_buildMembers each items 0 none opened inner (opens.of_ok run)
              rw [MarkupSpec.ensures_bind]
              refine Ensures.of_run (fun last built run' => ?_) fun _ _ run' => members.of_error run'
              rw [MarkupSpec.ensures_bind]
              exact (own.closes items world inside opened budget last built part holds run run'
                (members.of_ok run')).mono (fun _ _ holds => holds) fun _ _ holds => holds
          | callable function =>
              dsimp only [innerVisits] at inner
              show Ensures (function.call scene.arguments >>= fun value =>
                buildWithin scene budget value (start.place.deeper "()")) world _ _
              refine ReadsOnly.stays_bind (Function.readsOnly_call function _) holds
                fun value after run holds => ?_
              rw [run] at inner
              exact each
                { start with value, place := start.place.deeper "()", world := after } inner holds
          | element name attributes children =>
              dsimp only [innerVisits] at inner
              have makes := own.element name attributes children world part holds
              show Ensures (buildElement scene _ start.place _ name attributes children) world _ _
              rw [buildElement, MarkupSpec.ensures_bind]
              refine Ensures.of_run (fun made after run => ?_) fun _ _ run => makes.of_error run
              have isMade : start.made? scene = some (made, after) := by
                simp only [Visit.made?, part, run]
              rw [isMade] at inner
              dsimp only at inner
              split
              · exact makes.of_ok run
              · rename_i nonempty
                rw [if_neg nonempty] at inner
                rw [MarkupSpec.ensures_bind]
                exact (each
                  { value := .list children, place := made.inside, world := after,
                    enclosing := made.resolution.declarations :: start.enclosing } inner
                  (makes.of_ok run)).mono (fun _ _ holds => holds) fun _ _ holds => holds
          | doctype children attributes =>
              show Ensures (buildDoctype scene _ start.place.path children attributes >>=
                fun node => pure (some node)) world _ _
              rw [MarkupSpec.ensures_bind]
              exact (own.doctype children attributes world part holds).mono
                (fun _ _ holds => holds) fun _ _ holds => holds
          | comment | cdata | instruction | existing | text => exact own.leaf _ world part rfl holds

end Run

end MarkupSpec
