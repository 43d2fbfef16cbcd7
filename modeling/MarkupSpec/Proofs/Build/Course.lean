import MarkupSpec.Proofs.Build.Steps

/-!
# The course of a build that succeeds

A build that succeeds does so in one of seven ways, by what its value was read as
and by what was built inside of it.  What holds of each of these ways, if it holds of
the builds inside, holds of every build that succeeds (`Course.of_build`).

What is said of a build may speak of its visits, of the node that it built last,
if any, and of the world that it ends in.
-/

namespace MarkupSpec

open Forest Edit Build

/-- What is said of the builds of single values, and of those of the members of
sequences, holds of each way in which they can succeed. -/
structure Course (scene : Scene) (P : Visit → List Visit → Option NodeId → World → Prop)
    (Q : Enclosing → Place → World → List Visit → Option NodeId → World → Prop) : Prop where
  nothing : ∀ visit after, visit.part? scene = none → after.forest = visit.world.forest →
    P visit [visit] none after
  leaf : ∀ visit spec world node made after, visit.part? scene = some (spec, world) → spec.isLeaf →
    makeLeaf scene visit.place.path spec world = .ok node made →
    attach visit.place.target node made = .ok () after → P visit [visit] (some node) after
  doctype : ∀ visit children attributes world node after,
    visit.part? scene = some (.doctype children attributes, world) →
    buildDoctype scene (.doctype children attributes) visit.place.path children attributes world =
      .ok node after →
    P visit [visit] (some node) after
  bare : ∀ visit made after, visit.made? scene = some (made, after) →
    P visit [visit] (some made.element) after
  element : ∀ visit made children middle visits last after,
    visit.made? scene = some (made, middle) →
    P (visit.content made children middle) visits last after →
    P visit (visit :: visits) (last <|> some made.element) after
  callable : ∀ visit function world value middle visits last after,
    visit.part? scene = some (.callable function, world) →
    function.call scene.arguments world = .ok value middle →
    P (visit.called value middle) visits last after → P visit (visit :: visits) last after
  sequence : ∀ visit items world inside opened visits last built after,
    visit.part? scene = some (.sequence items, world) →
    openSequence scene visit.place world = .ok inside opened →
    Q visit.enclosing inside opened visits last built →
    closeSequence visit.place.target inside.target.reference last built = .ok () after →
    P visit (visit :: visits) last after
  done : ∀ enclosing inside world, Q enclosing inside world [] none world
  next : ∀ enclosing inside value segment world first node middle rest last after,
    P { value, place := inside.deeper segment, world, enclosing } first node middle →
    Q enclosing inside middle rest last after →
    Q enclosing inside world (first ++ rest) (last <|> node) after

namespace Course

variable {scene : Scene} {P : Visit → List Visit → Option NodeId → World → Prop}
  {Q : Enclosing → Place → World → List Visit → Option NodeId → World → Prop}

/-- The members of a sequence are built one after the other.  The last of them that
built something gives the result. -/
theorem of_members (course : Course scene P Q) {visits : Visit → List Visit} {budget : Nat}
    (enclosing : Enclosing) (inside : Place)
    (each : ∀ start : Visit, Ensures (buildWithin scene budget start.value start.place) start.world
      (fun last after => P start (visits start) last after) fun _ _ => True) :
    ∀ (items : List Value) (index : Nat) (before : Option NodeId) (world : World),
      Ensures (buildMembers (buildWithin scene budget) inside index before items) world
        (fun result after => ∃ last, result = (last <|> before) ∧
          Q enclosing inside world
            (memberVisits visits (buildWithin scene budget) enclosing inside index world items) last
            after)
        fun _ _ => True
  | [], _, before, world => ⟨none, rfl, course.done enclosing inside world⟩
  | item :: rest, index, before, world => by
      rw [buildMembers, MarkupSpec.ensures_bind]
      refine Ensures.of_run (fun node middle run => ?_) fun _ _ _ => trivial
      have here := (each
        { value := item, place := inside.deeper (memberSegment index), world, enclosing }).of_ok run
      refine (course.of_members enclosing inside each rest (index + 1) (node <|> before) middle).mono
        (fun result after ends => ?_) fun _ _ _ => trivial
      obtain ⟨last, rfl, later⟩ := ends
      rw [memberVisits, run]
      refine ⟨last <|> node, ?_, course.next _ _ _ _ _ _ _ _ _ _ _ here later⟩
      cases last <;> rfl

/-- What holds of each way in which a build can succeed holds of all that do. -/
theorem of_build (course : Course scene P Q) : ∀ (budget : Nat) (start : Visit),
    Ensures (buildWithin scene budget start.value start.place) start.world
      (fun last after => P start (visitsWithin scene budget start) last after) fun _ _ => True
  | 0, _ => trivial
  | budget + 1, start => by
      have each := course.of_build budget
      rw [visitsWithin]
      cases part : start.part? scene with
      | none =>
          refine (Visit.ensures_buildWithin_none part budget).mono (fun last after ends => ?_)
            fun _ _ _ => trivial
          obtain ⟨rfl, same⟩ := ends
          exact course.nothing start after part same
      | some found =>
          obtain ⟨spec, world⟩ := found
          rw [Visit.ensures_buildWithin part]
          dsimp only
          cases spec with
          | sequence items =>
              show Ensures (buildSequence scene _ start.place items) world _ _
              rw [buildSequence, MarkupSpec.ensures_bind]
              refine Ensures.of_run (fun inside opened opens => ?_) fun _ _ _ => trivial
              rw [MarkupSpec.ensures_bind]
              refine (course.of_members start.enclosing inside each items 0 none opened).mono (fun result built ends => ?_)
                fun _ _ _ => trivial
              obtain ⟨last, rfl, members⟩ := ends
              rw [show (last <|> none) = last by cases last <;> rfl, MarkupSpec.ensures_bind]
              refine Ensures.of_run (fun _ after closes => ?_) fun _ _ _ => trivial
              simp only [innerVisits, opens]
              exact course.sequence start items world inside opened _ last built after part opens
                members closes
          | callable function =>
              show Ensures (function.call scene.arguments >>= fun value =>
                buildWithin scene budget value (start.place.deeper "()")) world _ _
              rw [MarkupSpec.ensures_bind]
              refine Ensures.of_run (fun value middle calls => ?_) fun _ _ _ => trivial
              simp only [innerVisits, calls]
              exact (each (start.called value middle)).mono
                (fun last after holds =>
                  course.callable start function world value middle _ last after part calls holds)
                fun _ _ _ => trivial
          | element name attributes children =>
              show Ensures (buildElement scene _ start.place _ name attributes children) world _ _
              dsimp only [innerVisits]
              cases isMade : start.made? scene with
              | none => exact Visit.ensures_buildElement_none part isMade
              | some found =>
                  obtain ⟨made, middle⟩ := found
                  rw [Visit.ensures_buildElement part isMade]
                  dsimp only
                  split
                  · exact course.bare start made middle isMade
                  · rw [MarkupSpec.ensures_bind]
                    exact (each (start.content made children middle)).mono
                      (fun last after holds =>
                        course.element start made children middle _ last after isMade holds)
                      fun _ _ _ => trivial
          | doctype children attributes =>
              show Ensures (buildDoctype scene _ start.place.path children attributes >>=
                fun node => pure (some node)) world _ _
              rw [MarkupSpec.ensures_bind]
              exact Ensures.of_run (fun node after run =>
                course.doctype start children attributes world node after part run)
                fun _ _ _ => trivial
          | comment | cdata | instruction | existing | text =>
              show Ensures (buildLeaf scene start.place _) world _ _
              rw [buildLeaf, MarkupSpec.ensures_bind]
              refine Ensures.of_run (fun node made makes => ?_) fun _ _ _ => trivial
              rw [MarkupSpec.ensures_bind]
              exact Ensures.of_run (fun _ after attaches =>
                course.leaf start _ world node made after part rfl makes attaches)
                fun _ _ _ => trivial

end Course

end MarkupSpec
