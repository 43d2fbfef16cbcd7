import MarkupSpec.Proofs.Build.ElementContent
import MarkupSpec.Proofs.Calls.Trace

/-!
# The order of calls

The calls of a build are put together like its visits: first those of a visit itself, and then those
of the visits right inside of it, one after the other (`Visit.allCalls_eq`).  So the calls for an
element stand together among those of the whole build: those for its name, then those for its
attributes, then those for its children (`callsInOrder_of_visit`).

They stop short only at a failure.  Attributes are flattened in the order of the map until one of
them fails (`Flatten.eachCalls`), and children have their turns until one of them fails
(`TakeTurns`).
-/

namespace MarkupSpec

open Build

/-! ## Calls inside of a visit -/

namespace Visit

/-- All calls of the build of the value. -/
def allCalls (scene : Scene) (visit : Visit) : List Invocation :=
  visitCalls scene (visit.inner scene)

/-- The visits of the children of an element, which are right inside of the list that they are
in. -/
def childVisits (scene : Scene) (visit : Visit) : List Visit :=
  (visit.next scene).flatMap (next scene)

variable {scene : Scene} {visit : Visit}

/-- First come the calls of a visit itself, and then those of the visits right inside of it. -/
theorem allCalls_eq (left : visit.budget scene ≠ 0) :
    visit.allCalls scene = visit.calls scene ++ (visit.next scene).flatMap (allCalls scene) := by
  rw [allCalls, inner_eq left]
  simp only [visitCalls, List.flatMap_cons, List.flatMap_assoc]
  rfl

/-- Where nothing is called but inside, there are no other calls. -/
theorem allCalls_of_quiet (quiet : visit.calls scene = []) :
    visit.allCalls scene = (visit.next scene).flatMap (allCalls scene) := by
  by_cases spent : visit.budget scene = 0
  · have none (other : Visit) (among : other ∈ visit.next scene) : other.allCalls scene = [] := by
      have spent' : other.budget scene = 0 := by
        rw [budget_of_deeper (depth_of_mem_next among), spent]
      rw [allCalls, inner_eq_nil spent']
      rfl
    rw [allCalls, inner_eq_nil spent, List.flatMap_congr none]
    simp [visitCalls]
  · rw [allCalls_eq spent, quiet, List.nil_append]

/-- The children of an element are called for by their own visits. -/
theorem calls_of_content (made : Made) {children : List Value} (middle : World)
    (isThere : children ≠ []) : (visit.content made children middle).calls scene = [] := by
  unfold calls
  split
  · rename_i spec read part
    obtain rfl := eq_of_part? (isReadAs_sequence rfl isThere) part
    rfl
  · rfl

/-- What is right inside of an element that was made is the list of its children. -/
theorem next_of_element {name : Value} {attributes : RawAttributes} {children : List Value}
    {read middle : World} {made : Made}
    (part : visit.part? scene = some (.element name attributes children, read))
    (isMade : visit.made? scene = some (made, middle)) (isThere : children ≠ []) :
    visit.next scene = [visit.content made children middle] := by
  rw [next, part]
  dsimp only [innerVisits]
  rw [isMade]
  exact if_neg (by simpa using isThere)

/-- There is nothing inside of an element without children. -/
theorem next_of_childless {name : Value} {attributes : RawAttributes} {read : World}
    (part : visit.part? scene = some (.element name attributes [], read)) :
    visit.next scene = [] := by
  rw [next, part]
  dsimp only [innerVisits]
  cases visit.made? scene <;> rfl

/-- There is nothing inside of an element that was not made. -/
theorem next_of_unmade {name : Value} {attributes : RawAttributes} {children : List Value}
    {read : World} (part : visit.part? scene = some (.element name attributes children, read))
    (notMade : visit.made? scene = none) : visit.next scene = [] := by
  rw [next, part]
  dsimp only [innerVisits]
  rw [notMade]

/-- The calls for an element are those for its name and its attributes, and then those for its
children. -/
theorem allCalls_of_element {name : Value} {attributes : RawAttributes} {children : List Value}
    {read : World} (left : visit.budget scene ≠ 0)
    (part : visit.part? scene = some (.element name attributes children, read)) :
    visit.allCalls scene = elementCalls scene visit.place name attributes read ++
      (visit.childVisits scene).flatMap (allCalls scene) := by
  have own : visit.calls scene = elementCalls scene visit.place name attributes read := by
    rw [calls, part]
    rfl
  rw [allCalls_eq left, own, childVisits, List.flatMap_assoc]
  refine congrArg _ (List.flatMap_congr fun content isContent => allCalls_of_quiet ?_)
  by_cases isThere : children = []
  · subst isThere
    rw [next_of_childless part] at isContent
    cases isContent
  cases isMade : visit.made? scene with
  | none =>
      rw [next_of_unmade part isMade] at isContent
      cases isContent
  | some found =>
      obtain ⟨made, middle⟩ := found
      rw [next_of_element part isMade isThere] at isContent
      obtain rfl := List.mem_singleton.mp isContent
      exact calls_of_content made middle isThere

end Visit

/-! ## Turns up to a failure -/

/-- The visits of values that have their turns one after the other.  Each begins in the world that
the one before it ends in, and only behind one that fails a value has no turn. -/
inductive TakeTurns (scene : Scene) : World → List Value → List Visit → Prop
  | nil (world : World) : TakeTurns scene world [] []
  | fails {visit : Visit} {rest : List Value} : (∀ last after, ¬ visit.Runs scene last after) →
      TakeTurns scene visit.world (visit.value :: rest) [visit]
  | runs {visit : Visit} {rest : List Value} {visits : List Visit} {last : Option NodeId}
      {after : World} : visit.Runs scene last after → TakeTurns scene after rest visits →
      TakeTurns scene visit.world (visit.value :: rest) (visit :: visits)

section Turns

variable {scene : Scene} {visit : Visit} {enclosing : Enclosing} {inside : Place}

/-- The members of a sequence have their turns. -/
theorem takeTurns_turns {budget : Nat}
    (left : scene.settings.budget - (inside.depth + 1) = budget) :
    ∀ (items : List Value) (index : Nat) (world : World),
      TakeTurns scene world items
        (turns (buildWithin scene budget) enclosing inside index world items)
  | [], _, world => .nil world
  | item :: rest, index, world => by
      let turn : Visit :=
        { value := item, place := inside.deeper (memberSegment index), world, enclosing }
      have isBudget : turn.budget scene = budget := left
      have runs_iff (last : Option NodeId) (after : World) : turn.Runs scene last after ↔
          buildWithin scene budget item (inside.deeper (memberSegment index)) world =
            .ok last after := by
        rw [Visit.Runs, isBudget]
      rw [turns, memberVisits]
      cases run : buildWithin scene budget item (inside.deeper (memberSegment index)) world with
      | ok last after =>
          exact .runs ((runs_iff last after).mpr run) (takeTurns_turns left rest (index + 1) after)
      | error cause after =>
          have fails (last : Option NodeId) (after' : World) : ¬ turn.Runs scene last after' := by
            rw [runs_iff, run]
            rintro ⟨⟩
          exact .fails fails

/-- The members of a list have their turns, unless its build fails before the first of them. -/
theorem Visit.takeTurns_list {items : List Value} (isThere : items ≠ [])
    (isList : visit.value = .list items) :
    (∃ world, TakeTurns scene world items (visit.next scene)) ∨
      visit.next scene = [] ∧ ∀ last after, ¬ visit.Runs scene last after := by
  have reads : visit.value.IsReadAs scene.settings (.sequence items) :=
    isReadAs_sequence (by rw [isList]; rfl) isThere
  rw [next]
  cases part : visit.part? scene with
  | none =>
      refine .inr ⟨rfl, fun last after runs => ?_⟩
      obtain ⟨_, isPart⟩ := runs.part reads
      rw [part] at isPart
      cases isPart
  | some found =>
      obtain ⟨spec, world⟩ := found
      obtain rfl := eq_of_part? reads part
      dsimp only [innerVisits]
      cases opens : openSequence scene visit.place world with
      | error cause failed =>
          refine .inr ⟨rfl, fun last after runs => ?_⟩
          obtain ⟨_, _, opens', -⟩ := bind_eq_ok.mp (runs.builds part)
          rw [opens] at opens'
          cases opens'
      | ok inside opened =>
          have left : scene.settings.budget - (inside.depth + 1) = visit.budget scene - 1 := by
            rw [(path_of_openSequence opens).2, budget]
            omega
          exact .inl ⟨opened, takeTurns_turns left items 0 opened⟩

/-- The children of an element have their turns, unless it fails before the first of them. -/
theorem Visit.takeTurns_children {name : Value} {attributes : RawAttributes}
    {children : List Value} {read : World}
    (part : visit.part? scene = some (.element name attributes children, read)) :
    (∃ world, TakeTurns scene world children (visit.childVisits scene)) ∨
      visit.childVisits scene = [] ∧ ∀ last after, ¬ visit.Runs scene last after := by
  by_cases isThere : children = []
  · subst isThere
    rw [childVisits, next_of_childless part]
    exact .inl ⟨read, .nil read⟩
  cases isMade : visit.made? scene with
  | none =>
      refine .inr ⟨by rw [childVisits, next_of_unmade part isMade]; rfl, fun last after runs => ?_⟩
      obtain ⟨made, middle, -, isMade', -⟩ := runs.element part isThere
      rw [isMade] at isMade'
      cases isMade'
  | some found =>
      obtain ⟨made, middle⟩ := found
      let content := visit.content made children middle
      have isNext : visit.childVisits scene = content.next scene := by
        rw [childVisits, next_of_element part isMade isThere]
        exact List.flatMap_singleton _ _
      rw [isNext]
      refine (takeTurns_list isThere rfl).imp_right fun ⟨nothing, fails⟩ => ⟨nothing, ?_⟩
      intro last after runs
      obtain ⟨_, _, last', isMade', runs, -⟩ := runs.element part isThere
      rw [isMade] at isMade'
      cases isMade'
      exact fails last' after runs

end Turns

/-! ## The calls for an element -/

section Maps

variable {scene : Scene} {visit : Visit}

/-- The attributes of a map are entries of it, in their order. -/
theorem attributesOf_sublist (marker : Marker) : ∀ entries : Entries,
    ((attributesOf marker entries).map fun entry => (Value.text entry.1, entry.2)).Sublist entries
  | [] => .slnil
  | (key, value) :: rest => by
      have later := attributesOf_sublist marker rest
      cases key with
      | text content =>
          cases unmarks : marker.unmark? content with
          | some word => simpa [attributesOf, unmarks] using later.cons _
          | none => simpa [attributesOf, unmarks] using later.cons_cons (.text content, value)
      | _ => exact later.cons _

/-- A map is read by some name and children, with the attributes that it has. -/
theorem named_of_parseMap {settings : Settings} {path : List String} {entries : Entries}
    {spec : Spec} {before after : World}
    (run : parseMap settings path entries before = .ok spec after) :
    ∃ name children, spec =
      .ofNamed settings.marker name children (attributesOf settings.marker entries) := by
  unfold parseMap at run
  obtain ⟨_, first, -, reads⟩ := bind_eq_ok.mp run
  clear run
  cases slots : nameSlot settings.marker entries <;> rw [slots] at reads
  case explicit | marked =>
    obtain ⟨named, _, -, rest⟩ := bind_eq_ok.mp reads
    cases rest
    exact ⟨_, _, rfl⟩
  case compact | missing =>
    cases reads
    exact ⟨_, _, rfl⟩
  case ambiguous => cases reads

/-- Only a map is read as an element, and its attributes are entries of the map in their order. -/
theorem map_of_element {name : Value} {attributes : RawAttributes} {children : List Value}
    {read : World} (part : visit.part? scene = some (.element name attributes children, read)) :
    ∃ entries, visit.value = .map entries ∧
      (attributes.map fun entry => (Value.text entry.1, entry.2)).Sublist entries := by
  unfold Visit.part? at part
  split at part
  · rename_i run
    cases part
    obtain ⟨_, _, -, run⟩ := bind_eq_ok.mp run
    obtain ⟨found, middle, reads, run⟩ := bind_eq_ok.mp run
    cases found with
    | none => cases run
    | some spec =>
        obtain ⟨_, _, -, run⟩ := bind_eq_ok.mp run
        cases run
        obtain ⟨isAbsent, _, -, reads⟩ := bind_eq_ok.mp reads
        split at reads
        · cases reads
        · cases value : visit.value with
          | map entries =>
              rw [value] at reads
              obtain ⟨spec, _, reads, same⟩ := bind_eq_ok.mp reads
              obtain ⟨named, children', isNamed⟩ := named_of_parseMap reads
              cases same
              refine ⟨entries, rfl, ?_⟩
              unfold Spec.ofNamed at isNamed
              split at isNamed <;> cases isNamed
              exact attributesOf_sublist _ entries
          | list | tuple | range | stream =>
              rw [value] at reads
              obtain ⟨items, _, -, same⟩ := bind_eq_ok.mp reads
              cases same
          | _ =>
              rw [value] at reads
              cases reads
  · cases part

end Maps

/-- The calls for an element stand together among those of a build.  First come those for its name
and its attributes, which are in the order of its map, and then those for its children, which have
their turns if the element does not fail before. -/
structure CallsInOrder (scene : Scene) (calls : List Invocation) (visit : Visit) (name : Value)
    (attributes : RawAttributes) (children : List Value) (read : World) : Prop where
  isMap : ∃ entries, visit.value = .map entries ∧
    (attributes.map fun entry => (Value.text entry.1, entry.2)).Sublist entries
  together : elementCalls scene visit.place name attributes read ++
    (visit.childVisits scene).flatMap (Visit.allCalls scene) <:+: calls
  inTurn : (∃ world, TakeTurns scene world children (visit.childVisits scene)) ∨
    visit.childVisits scene = [] ∧ ∀ last after, ¬ visit.Runs scene last after

/-- The calls for an element are in order. -/
theorem callsInOrder_of_visit {scene : Scene} {start visit : Visit}
    (among : visit ∈ start.inner scene) {name : Value} {attributes : RawAttributes}
    {children : List Value} {read : World}
    (part : visit.part? scene = some (.element name attributes children, read)) :
    CallsInOrder scene (start.allCalls scene) visit name attributes children read where
  isMap := map_of_element part
  together := by
    obtain ⟨left, front, back, segment⟩ := Visit.infix_of_mem_inner among
    refine ⟨visitCalls scene front, visitCalls scene back, ?_⟩
    rw [← Visit.allCalls_of_element left part, Visit.allCalls, Visit.allCalls, ← segment,
      visitCalls_append, visitCalls_append]
  inTurn := visit.takeTurns_children part

end MarkupSpec
