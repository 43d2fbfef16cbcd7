import MarkupSpec.Proofs.Build.Growth
import MarkupSpec.Proofs.Run.EvenWorlds

/-!
# The same value built in even worlds

A step of a build echoes another one if what builds the parts below does: `echo_buildMembers`,
`echo_buildSequence` and `echo_buildElement` say so for parts that may differ, and
`echo_buildSpec` for a clear spec that is built twice.

So the same clear value, built in even worlds at places that match, comes to the same
(`echo_buildWithin`).  The paths do not matter, and neither do the depths of the places where
there is no limit.
-/

namespace MarkupSpec

open Build

/-- What a second build may spend where the first one has a budget. -/
def Terms.Affords (terms : Terms) (settings : Settings) (budget budget' : Nat) : Prop :=
  terms.levelled ∧ budget' = budget ∨
    ¬ terms.levelled ∧ settings.maxDepth = none ∧ budget ≤ budget'

theorem Terms.Affords.down {terms : Terms} {settings : Settings} {budget budget' : Nat}
    (affords : terms.Affords settings (budget + 1) budget') :
    ∃ rest, budget' = rest + 1 ∧ terms.Affords settings budget rest := by
  rcases affords with ⟨levelled, rfl⟩ | ⟨free, noLimit, most⟩
  · exact ⟨budget, rfl, .inl ⟨levelled, rfl⟩⟩
  · obtain ⟨rest, rfl⟩ := Nat.exists_eq_add_of_le' (Nat.le_trans (Nat.le_add_left 1 budget) most)
    exact ⟨rest, rfl, .inr ⟨free, noLimit, Nat.le_of_succ_le_succ most⟩⟩

/-- Build the children of an element, if there are any. -/
def buildChildren (below : Builder) (children : List Value) (inside : Place) :
    Build (Option NodeId) :=
  if children.isEmpty then pure none else below (.list children) inside

theorem buildElement_eq (scene : Scene) (below : Builder) (place : Place) (spec : Spec)
    (name : Value) (attributes : RawAttributes) (children : List Value) :
    buildElement scene below place spec name attributes children = (do
      let made ← makeElement scene place spec name attributes
      return (← buildChildren below children made.inside) <|> some made.element) := by
  unfold buildElement buildChildren
  congr 1
  funext made
  split
  · rfl
  · rfl

section Steps

variable {terms : Terms} {scene : Scene} {below below' : Builder} {place place' : Place}

/-- The builds of clear values at matching places echo one another. -/
def Builder.Echoes (terms : Terms) (below below' : Builder) : Prop :=
  ∀ value place place', value.isClear terms → place.Matches terms place' →
    Likewise terms.likeness Anything (below value place) (below' value place')

theorem likewise_buildMembers (each : Builder.Echoes terms below below')
    (matching : place.Matches terms place') :
    ∀ (items : List Value) (index index' : Nat) (last : Option NodeId), AreClear terms items →
      Likewise terms.likeness Anything (buildMembers below place index last items)
        (buildMembers below' place' index' last items)
  | [], _, _, _, _ => likewise_pure trivial
  | item :: rest, index, index', last, areClear => by
      rw [AreClear, List.forall_mem_cons] at areClear
      refine (each item _ _ areClear.1 (matching.deeper _ _)).bind fun node _ => ?_
      exact likewise_buildMembers each matching rest _ _ _ areClear.2

/-- Sequences are built alike if their members are, wherever they go. -/
theorem likewise_buildSequence {items items' : List Value} (matching : place.Matches terms place')
    (members : ∀ inside inside' : Place, inside.Matches terms inside' → inside.Inside →
      Likewise terms.likeness Anything (buildMembers below inside 0 none items)
        (buildMembers below' inside' 0 none items')) :
    Likewise terms.likeness Anything (buildSequence scene below place items)
      (buildSequence scene below' place' items') := by
  unfold buildSequence
  refine Echo.bind (echo_openSequence matching) fun inside inside' opened => ?_
  obtain ⟨within, isInside⟩ := opened
  refine (members inside inside' within isInside).bind fun last _ => ?_
  rw [matching.target, within.target]
  exact (likewise_closeSequence _ _ _).bind fun _ _ => likewise_pure trivial

/-- Elements are built alike if their children are. -/
theorem likewise_buildElement {spec spec' : Spec} {name : Value} {attributes : RawAttributes}
    {children children' : List Value} (given : AreClear terms scene.arguments)
    (matching : place.Matches terms place') (isName : name.isClear terms)
    (areAttributes : ∀ entry ∈ attributes, entry.2.isClear terms)
    (inner : ∀ inside inside' : Place, inside.Matches terms inside' → inside.target.isUnder →
      Likewise terms.likeness Anything (buildChildren below children inside)
        (buildChildren below' children' inside')) :
    Likewise terms.likeness Anything
      (buildElement scene below place spec name attributes children)
      (buildElement scene below' place' spec' name attributes children') := by
  rw [buildElement_eq, buildElement_eq]
  refine Echo.bind (echo_makeElement given matching isName areAttributes) fun made made' alike => ?_
  rw [alike.element]
  exact (inner _ _ alike.inside alike.isUnder).bind fun _ _ => likewise_pure trivial

/-- What a value was read as is built alike if what is below it is. -/
theorem likewise_buildSpec {spec : Spec} (given : AreClear terms scene.arguments)
    (each : Builder.Echoes terms below below') (matching : place.Matches terms place')
    (isClear : spec.IsClear terms) :
    Likewise terms.likeness Anything (buildSpec scene below place spec)
      (buildSpec scene below' place' spec) := by
  have inherited := inherited_isClear terms
  cases spec with
  | sequence items =>
      have areClear := inherited.sequence.mp isClear
      exact likewise_buildSequence matching fun inside inside' within _ =>
        likewise_buildMembers each within items 0 0 none areClear
  | callable callee =>
      refine ((kindred_clear terms).likewise_call given (Spec.has_callable.mp isClear)).bind
        fun value isClear => ?_
      exact each value _ _ isClear (matching.deeper _ _)
  | element name attributes children =>
      obtain ⟨isName, areAttributes, areClear⟩ := inherited.element.mp isClear
      refine likewise_buildElement given matching isName areAttributes fun inside inside' within _ => ?_
      unfold buildChildren
      split
      · exact likewise_pure trivial
      · exact each _ _ _ (inherited.list.mpr areClear) within
  | doctype children attributes =>
      obtain ⟨areClear, areAttributes⟩ := inherited.doctype.mp isClear
      exact (likewise_buildDoctype given areClear areAttributes).bind fun _ _ => likewise_pure trivial
  | comment | cdata | instruction | existing | text =>
      exact likewise_buildLeaf given matching isClear

end Steps

/-- A place is too deep in both builds, or there is no limit. -/
theorem likewise_checkDepth {terms : Terms} {settings : Settings} {value value' : Value}
    {place place' : Place} (deep : terms.mayBeDeep)
    (same : settings.maxDepth = none ∨ place'.depth = place.depth) :
    Likewise terms.likeness Anything (checkDepth settings value place)
      (checkDepth settings value' place') := by
  have quotes : Echo terms.likeness (fun _ _ => True) (Build.quoted value)
      (Build.quoted value') := fun _ _ even => .ok trivial even
  unfold checkDepth failSpec
  split
  · exact likewise_pure trivial
  · rename_i limit isLimit
    rw [isLimit] at same
    rw [same.resolve_left nofun]
    split
    · exact Echo.bind quotes fun _ _ _ => Echo.throw ⟨rfl, fun _ => deep⟩
    · exact likewise_pure trivial

/-- The same clear value at matching places comes to the same in even worlds. -/
theorem likewise_buildWithin {terms : Terms} {scene : Scene} (deep : terms.mayBeDeep)
    (given : AreClear terms scene.arguments) :
    ∀ budget budget', terms.Affords scene.settings budget budget' →
      Builder.Echoes terms (buildWithin scene budget) (buildWithin scene budget')
  | 0, budget', affords, value, place, place', isClear, matching => by
      rcases affords with ⟨_, rfl⟩ | ⟨free, -, -⟩
      · exact Echo.throw ⟨rfl, nofun⟩
      · refine Echo.excused ?_ _
        exact ⟨free, rfl⟩
  | budget + 1, _, affords, value, place, place', isClear, matching => by
      obtain ⟨rest, rfl, affordsBelow⟩ := affords.down
      have checks : Likewise terms.likeness Anything (checkDepth scene.settings value place)
          (checkDepth scene.settings value place') := by
        refine likewise_checkDepth deep ?_
        rcases affords with ⟨levelled, -⟩ | ⟨-, noLimit, -⟩
        · exact .inr (matching.depth levelled)
        · exact .inl noLimit
      refine ((kindred_clear terms).likewise_readPart checks isClear).bind fun found has => ?_
      cases found with
      | none => exact likewise_pure trivial
      | some spec =>
          exact likewise_buildSpec given (likewise_buildWithin deep given budget rest affordsBelow)
            matching (has spec rfl)

/-! ## Steps that leave no trace -/

/-- The worlds are the same, but for what is not compared. -/
structure World.Resembles (terms : Terms) (before after : World) : Prop where
  forest : after.forest = before.forest
  streams : after.streams = before.streams
  nextId : after.nextId = before.nextId
  names : after.names = before.names
  calls : terms.logged → after.calls = before.calls

theorem World.Resembles.trans {terms : Terms} {first second third : World}
    (onFirst : first.Resembles terms second) (onSecond : second.Resembles terms third) :
    first.Resembles terms third where
  forest := onSecond.forest.trans onFirst.forest
  streams := onSecond.streams.trans onFirst.streams
  nextId := onSecond.nextId.trans onFirst.nextId
  names := onSecond.names.trans onFirst.names
  calls := fun logged => (onSecond.calls logged).trans (onFirst.calls logged)

/-- A step gives a result and changes nothing that is compared. -/
def Idle {α : Type} (terms : Terms) (step : Build α) (result : α) : Prop :=
  ∀ world, world.names = terms.names →
    ∃ after, step world = .ok result after ∧ world.Resembles terms after

/-- A step goes on as another one, once it has changed what is not compared. -/
def ComesTo {α : Type} (terms : Terms) (step step' : Build α) : Prop :=
  ∀ world, world.names = terms.names →
    ∃ after, step world = step' after ∧ world.Resembles terms after

section ComesTo

variable {α β : Type} {terms : Terms} {world world' after : World} {R : α → Prop}
  {step step' step'' : Build α}

theorem World.Even.left (even : world.Even terms world') (same : world.Resembles terms after) :
    after.Even terms world' where
  forest := even.forest.trans same.forest.symm
  nextId := even.nextId.trans same.nextId.symm
  names := same.names.trans even.names
  names' := even.names'
  clear := even.clear
  size := by rw [same.streams, even.size]
  streams := by
    rw [same.streams]
    exact even.streams
  calls := fun logged => (even.calls logged).trans (same.calls logged).symm

theorem World.Even.right (even : world.Even terms world') (same : world'.Resembles terms after) :
    world.Even terms after where
  forest := same.forest.trans even.forest
  nextId := same.nextId.trans even.nextId
  names := even.names
  names' := same.names.trans even.names'
  clear := even.clear
  size := by rw [same.streams, even.size]
  streams := by
    rw [same.streams]
    exact even.streams
  calls := fun logged => (same.calls logged).trans (even.calls logged)

theorem ComesTo.trans (onFirst : ComesTo terms step step') (onSecond : ComesTo terms step' step'') :
    ComesTo terms step step'' := by
  intro world names
  obtain ⟨middle, run, same⟩ := onFirst world names
  obtain ⟨after, run', same'⟩ := onSecond middle (same.names.trans names)
  exact ⟨after, run.trans run', same.trans same'⟩

theorem ComesTo.bind (comes : ComesTo terms step step') (next : α → Build β) :
    ComesTo terms (step >>= next) (step' >>= next) := by
  intro world names
  obtain ⟨after, run, same⟩ := comes world names
  refine ⟨after, ?_, same⟩
  simp only [Bind.bind, EStateM.bind, run]

/-- What goes on after something idle. -/
theorem Idle.comesTo {first : Build β} {result : β} (idle : Idle terms first result)
    (next : β → Build α) : ComesTo terms (first >>= next) (next result) := by
  intro world names
  obtain ⟨after, run, same⟩ := idle world names
  refine ⟨after, ?_, same⟩
  simp only [Bind.bind, EStateM.bind, run]

/-- The first of two steps may be idle for a while. -/
theorem ComesTo.likewise_left {other : Build α} (comes : ComesTo terms step step')
    (likewise : Likewise terms.likeness R step' other) :
    Likewise terms.likeness R step other := by
  intro world world' even
  obtain ⟨after, run, same⟩ := comes world (World.Even.names even)
  rw [run]
  exact likewise after world' (World.Even.left even same)

/-- The second of two steps may be idle for a while. -/
theorem ComesTo.likewise_right {other : Build α} (comes : ComesTo terms step step')
    (likewise : Likewise terms.likeness R other step') :
    Likewise terms.likeness R other step := by
  intro world world' even
  obtain ⟨after, run, same⟩ := comes world' (World.Even.names' even)
  rw [run]
  exact likewise world after (World.Even.right even same)

theorem ComesTo.refl (step : Build α) : ComesTo terms step step :=
  fun _ _ => ⟨_, rfl, rfl, rfl, rfl, rfl, fun _ => rfl⟩

theorem idle_pure (result : α) : Idle terms (pure result : Build α) result :=
  fun _ _ => ⟨_, rfl, rfl, rfl, rfl, rfl, fun _ => rfl⟩

theorem idle_note (severity : Severity) (topic : Topic) (text : String) :
    Idle terms (note severity topic text) () :=
  fun _ _ => ⟨_, rfl, rfl, rfl, rfl, rfl, fun _ => rfl⟩

end ComesTo

/-! ## Reading at a place that is not too deep -/

/-- The depth is within the limit, if there is one. -/
def Settings.Admits (settings : Settings) (depth : Nat) : Prop :=
  ∀ limit ∈ settings.maxDepth, depth ≤ limit.depth

theorem checkDepth_eq {settings : Settings} {place : Place} (admits : settings.Admits place.depth)
    (value : Value) : checkDepth settings value place = pure () := by
  unfold checkDepth
  split
  · rfl
  · rename_i limit isLimit
    rw [if_neg (Nat.not_lt.mpr (admits limit isLimit))]

/-- The members that a list, a tuple or a range holds, if there is room for them. -/
def Value.held? : Value → Option (List Value)
  | .list items | .tuple items => some items
  | .range start stop step =>
      if rangeLength start stop step ≤ roomLimit then some (rangeItems start stop step) else none
  | _ => none

/-- A range of no more members than there is room for is counted and has its members. -/
theorem rangeMembers_of_room {start stop step : Int}
    (room : Value.rangeLength start stop step ≤ roomLimit) :
    rangeMembers start stop step = pure (Value.rangeItems start stop step) ∧
      (Value.range start stop step).isCountable := by
  have count : Value.rangeLength start stop step ≤ Value.countLimit :=
    Nat.le_trans room (by decide)
  refine ⟨?_, decide_eq_true count⟩
  unfold rangeMembers
  dsimp only
  rw [if_neg (Nat.not_lt.mpr count), if_neg (Nat.not_lt.mpr room)]

section Held

variable {value : Value} {items : List Value}

theorem held_range {start stop step : Int} : (Value.range start stop step).held? = some items ↔
    Value.rangeLength start stop step ≤ roomLimit ∧ Value.rangeItems start stop step = items := by
  simp [Value.held?]

theorem absent_held (held : value.held? = some items) : absent value = pure items.isEmpty := by
  cases value with
  | list | tuple =>
      cases held
      rfl
  | range start stop step =>
      obtain ⟨room, rfl⟩ := held_range.mp held
      rw [absent, if_pos (rangeMembers_of_room room).2]
      congr 1
      cases length : Value.rangeLength start stop step <;>
        simp [Value.isAbsent, Value.rangeItems, length, List.range_succ]
  | _ => cases held

theorem members_held (held : value.held? = some items) :
    value.isSequence ∧ members value = pure items := by
  cases value with
  | list | tuple =>
      cases held
      exact ⟨rfl, rfl⟩
  | range start stop step =>
      obtain ⟨room, rfl⟩ := held_range.mp held
      exact ⟨rfl, (rangeMembers_of_room room).1⟩
  | _ => cases held

/-- What holds members is read as a sequence of them, if there are any. -/
theorem parse_held (held : value.held? = some items) (settings : Settings) (path : List String) :
    parse settings path value =
      pure (if items.isEmpty then none else some (.sequence items)) := by
  obtain ⟨isSequence, gives⟩ := members_held held
  unfold parse
  rw [absent_held held, pure_bind]
  cases items.isEmpty with
  | true => rfl
  | false =>
      cases value with
      | list | tuple | range =>
          dsimp only
          rw [if_pos isSequence, gives, pure_bind]
          rfl
      | _ => cases held

end Held

section Reading

variable {terms : Terms} {scene : Scene} {place : Place} {value : Value} {spec : Spec}
  {items : List Value}

/-- A value that is read as nothing without a trace is not built at all. -/
theorem comesTo_nothing (admits : scene.settings.Admits place.depth)
    (reads : Idle terms (parse scene.settings place.path value) none) (budget : Nat) :
    ComesTo terms (buildWithin scene (budget + 1) value place) (pure none) := by
  rw [buildWithin, readPart, checkDepth_eq admits, pure_bind, bind_assoc]
  exact reads.comesTo _

/-- A value that is read without a trace is built as what it is read as. -/
theorem comesTo_buildSpec (admits : scene.settings.Admits place.depth)
    (reads : Idle terms (parse scene.settings place.path value) (some spec)) (budget : Nat) :
    ComesTo terms (buildWithin scene (budget + 1) value place)
      (buildSpec scene (buildWithin scene budget) place spec) := by
  rw [buildWithin, readPart, checkDepth_eq admits, pure_bind, bind_assoc]
  refine (reads.comesTo _).trans ?_
  rw [bind_assoc]
  exact (idle_note _ _ _).comesTo _

/-- The place of the members of a sequence under a node. -/
def Place.opened (place : Place) : Place :=
  { place with pseudo := some (place.pseudo.getD place.target.reference) }

/-- Under a node the members of a sequence are built in place. -/
theorem buildSequence_under (isUnder : place.target.isUnder) (below : Builder)
    (items : List Value) :
    buildSequence scene below place items = buildMembers below place.opened 0 none items := by
  have same := Target.eq_under isUnder
  have opens : openSequence scene place = pure place.opened := by
    unfold openSequence implicitParent holderFor Place.opened
    rw [if_pos isUnder, if_pos isUnder, pure_bind, pure_bind, ← same]
  have closes (last : Option NodeId) (holder : NodeId) :
      closeSequence place.target holder last = pure () := by
    simp [closeSequence, isUnder]
  simp only [buildSequence, opens, closes, pure_bind, bind_pure]

/-- Under a node the members that a value holds are built in place. -/
theorem comesTo_buildMembers (held : value.held? = some items) (isUnder : place.target.isUnder)
    (admits : scene.settings.Admits place.depth) (budget : Nat) :
    ComesTo terms (buildWithin scene (budget + 1) value place)
      (buildMembers (buildWithin scene budget) place.opened 0 none items) := by
  have reads := parse_held held scene.settings place.path
  cases items with
  | nil =>
      have nothing : Idle terms (parse scene.settings place.path value) none := by
        rw [reads]
        exact idle_pure _
      exact comesTo_nothing admits nothing budget
  | cons item rest =>
      have something : Idle terms (parse scene.settings place.path value)
          (some (.sequence (item :: rest))) := by
        rw [reads]
        exact idle_pure _
      refine (comesTo_buildSpec admits something budget).trans ?_
      rw [buildSpec, buildSequence_under isUnder]
      exact .refl _

end Reading

/-! ## Getting ready -/

/-- Builds get ready alike in even worlds if their arguments are spread alike. -/
theorem likewise_prepare {terms : Terms} {R : List Value → Prop} {arguments : Value}
    (settings : Settings) (where? : Option (Mode × Value)) (document : Value)
    (spreads : Likewise terms.likeness R (spread arguments) (spread arguments)) :
    Likewise terms.likeness (fun task => task.scene.settings = settings ∧ R task.scene.arguments)
      (prepare settings where? document arguments)
      (prepare settings where? document arguments) := by
  unfold prepare
  refine spreads.bind fun given holds => ?_
  split
  · refine Likewise.bind (R := Anything) ?_ fun root _ => ?_
    · unfold rootDocument
      split
      · exact (likewise_edit _).bind fun _ _ => likewise_pure trivial
      · exact likewise_pure trivial
    · exact (likewise_nodeOrNone root).bind fun _ _ => likewise_pure ⟨rfl, holds⟩
  · refine Likewise.bind (R := Anything) ?_ fun id _ => ?_
    · unfold documentFor
      split
      · refine likewise_forest fun forest => ?_
        split
        · exact likewise_pure trivial
        · exact Echo.throw ⟨rfl, nofun⟩
      · exact likewise_nodeOrNone _
    · exact (likewise_implicitParent _).discard.bind fun _ _ => likewise_pure ⟨rfl, holds⟩
  · rename_i other _
    have quotes : Echo terms.likeness (fun _ _ => True) (Build.quoted other)
        (Build.quoted other) := fun _ _ even => .ok trivial even
    exact Echo.bind quotes fun _ _ _ =>
      Echo.throw ⟨rfl, fun isDeep => absurd isDeep (by rintro ⟨⟩)⟩

end MarkupSpec
