import MarkupSpec.Compile
import MarkupSpec.Proofs.Run.Echo
import MarkupSpec.Proofs.Value.InheritedProperties

/-!
# Steps that go by their values alone

Filling a template, calling a function, flattening a value and reading a spec go by the values
they begin with, by what these are written as, and by what the streams among them still have to
give.  Terms on which worlds agree about that for all values with a property are *kindred* to
the property (`Kindred`).

On such terms each of these steps goes likewise in worlds that go together: it comes to the
same value, which has the property again, or fails for a cause of the same kind, and never
for one that is a matter of the place (`FailureKind.isOfPlace`).
-/

namespace MarkupSpec

open Build

/-- Is a failure of the kind a matter of where things are, and not of what they are?  The
place given by keywords may be none, or a place may be too deep. -/
def FailureKind.isOfPlace : FailureKind → Bool
  | .spec .severalPlaces | .spec .badReference | .spec .tooDeep => true
  | _ => false

/-- The second step echoes the first one with the same result, which has a property. -/
abbrev Likewise {α : Type} (like : Likeness Failure World) (R : α → Prop)
    (step step' : Build α) : Prop :=
  Echo like (fun result result' => result' = result ∧ R result) step step'

/-- Worlds that go together have the same to say of values with a property. -/
structure Kindred (like : Likeness Failure World) (P : Value → Prop) (fills : Template → Prop) :
    Prop where
  inherited : Inherited P
  causes : ∀ {cause cause' : Failure}, cause'.kind = cause.kind → cause.kind.isOfPlace = false →
    like.causes cause cause'
  quoted : ∀ {world world'}, like.states world world' → ∀ value, P value →
    value.quoted world'.forest.describe = value.quoted world.forest.describe
  note : ∀ {world world'}, like.states world world' → ∀ notices notices',
    like.states { world with notices } { world' with notices := notices' }
  log : ∀ {world world'}, like.states world world' → ∀ label arguments,
    like.states
      { world with calls := world.calls.push { label, arguments, forest := world.forest } }
      { world' with calls := world'.calls.push { label, arguments, forest := world'.forest } }
  nextId : ∀ {world world'}, like.states world world' → world'.nextId = world.nextId ∧
    ∀ nextId, like.states { world with nextId } { world' with nextId }
  remaining : ∀ {world world' id}, like.states world world' → P (.stream id) →
    (world'.streams[id]?).getD [] = (world.streams[id]?).getD [] ∧
      ∀ item ∈ (world.streams[id]?).getD [], P item
  setRemaining : ∀ {world world' id items}, like.states world world' → P (.stream id) →
    (∀ item ∈ items, P item) →
      like.states { world with streams := world.streams.modify id fun _ => items }
        { world' with streams := world'.streams.modify id fun _ => items }
  newStream : ∀ {world world' items}, like.states world world' → (∀ item ∈ items, P item) →
    world'.streams.size = world.streams.size ∧ P (.stream world.streams.size) ∧
      like.states { world with streams := world.streams.push items }
        { world' with streams := world'.streams.push items }
  named : ∀ {name walk}, fills (.named name walk) →
    Likewise like P (named name walk) (named name walk)
  function : ∀ {callee : Function}, P (.function callee) ↔ fills callee.body
  parts : ∀ {template : Template}, fills template → ∀ part ∈ template.parts, fills part

/-- Two scenes that differ in their documents only. -/
structure Scene.Like (scene scene' : Scene) : Prop where
  settings : scene'.settings = scene.settings
  arguments : scene'.arguments = scene.arguments

section Steps

variable {α β : Type} {like : Likeness Failure World} {R R' : α → Prop} {S : β → Prop}

theorem likewise_pure {result : α} (holds : R result) :
    Likewise like R (pure result : Build α) (pure result) :=
  Echo.pure ⟨rfl, holds⟩

theorem Likewise.bind {first first' : Build α} {next next' : α → Build β}
    (onFirst : Likewise like R first first')
    (onNext : ∀ result, R result → Likewise like S (next result) (next' result)) :
    Likewise like S (first >>= next) (first' >>= next') := by
  refine Echo.bind onFirst ?_
  rintro result _ ⟨rfl, holds⟩
  exact onNext _ holds

theorem Likewise.mono {step step' : Build α} (likewise : Likewise like R step step')
    (onResult : ∀ result, R result → R' result) : Likewise like R' step step' :=
  Echo.mono likewise fun _ _ holds => ⟨holds.1, onResult _ holds.2⟩

theorem Likewise.discard {step step' : Build α} (likewise : Likewise like R step step') :
    Likewise like Anything (discard step) (discard step') :=
  Echo.discard likewise ⟨rfl, trivial⟩

end Steps

/-! ## What values are written as -/

section Written

variable {describe describe' : NodeId → String}

/-- The plain text of a value is its quoted text, or does not depend on how nodes are
written. -/
theorem Value.plain_of_quoted {value : Value}
    (same : value.quoted describe' = value.quoted describe) :
    value.plain describe' = value.plain describe := by
  cases value with
  | text | thing => rfl
  | _ => exact same

theorem Value.scalarText_of_quoted {value : Value}
    (same : value.quoted describe' = value.quoted describe) :
    value.scalarText describe' = value.scalarText describe := by
  cases value with
  | bool => rfl
  | _ => exact plain_of_quoted same

theorem insertByText_congr {α : Type} {text text' : α → String} {new : α}
    (same : text' new = text new) :
    ∀ {members : List α}, (∀ member ∈ members, text' member = text member) →
      Text.insertByText text' new members = Text.insertByText text new members
  | [], _ => rfl
  | old :: rest, all => by
      rw [List.forall_mem_cons] at all
      rw [Text.insertByText, Text.insertByText, same, all.1, insertByText_congr same all.2]

/-- Texts that are the same for the members sort them in the same way. -/
theorem sortByText_congr {α : Type} {text text' : α → String} :
    ∀ {members : List α}, (∀ member ∈ members, text' member = text member) →
      Text.sortByText text' members = Text.sortByText text members
  | [], _ => rfl
  | first :: rest, all => by
      rw [List.forall_mem_cons] at all
      rw [Text.sortByText, Text.sortByText, sortByText_congr all.2]
      exact insertByText_congr all.1 fun member among => all.2 member (Text.mem_sortByText.mp among)

end Written

namespace Kindred

variable {like : Likeness Failure World} {P : Value → Prop} {fills : Template → Prop}
  {α : Type} {R : α → Prop}

section Values

variable (kindred : Kindred like P fills)

include kindred

/-- Both steps fail, for causes of one kind. -/
theorem likewise_throw {cause cause' : Failure} (kind : cause'.kind = cause.kind)
    (ofValue : cause.kind.isOfPlace = false) :
    Likewise like R (throw cause : Build α) (throw cause') :=
  Echo.throw (kindred.causes kind ofValue)

/-- Both steps fail for the same cause, with contexts of their own. -/
theorem likewise_failSpec {cause : SpecCause}
    (ofValue : (FailureKind.spec cause.kind).isOfPlace = false)
    (context context' : Option ErrorContext) (level : ErrorLevel) :
    Likewise like R (failSpec cause context level : Build α) (failSpec cause context' level) :=
  kindred.likewise_throw rfl ofValue

/-- What is made of the texts of values. -/
theorem likewise_describe {next next' : (NodeId → String) → Build α}
    (onNext : ∀ describe describe',
      (∀ value, P value → value.quoted describe' = value.quoted describe) →
      Likewise like R (next describe) (next' describe')) :
    Likewise like R (describe >>= next) (describe >>= next') :=
  fun world world' goes => onNext _ _ (kindred.quoted goes) world world' goes

theorem likewise_quoted {value : Value} (holds : P value) :
    Likewise like Anything (Build.quoted value) (Build.quoted value) :=
  kindred.likewise_describe fun _ _ same => by
    rw [same value holds]
    exact likewise_pure trivial

/-- What is noticed may differ. -/
theorem likewise_note (severity : Severity) (topic : Topic) (text text' : String) :
    Likewise like Anything (Build.note severity topic text) (Build.note severity topic text') :=
  Echo.modify ⟨rfl, trivial⟩ fun _ _ goes => kindred.note goes _ _

/-! ## Streams -/

theorem likewise_remaining {id : Nat} (holds : P (.stream id)) :
    Likewise like (fun items => ∀ item ∈ items, P item) (Build.remaining id)
      (Build.remaining id) :=
  fun _ _ goes => .ok (kindred.remaining goes holds) goes

theorem likewise_setRemaining {id : Nat} {items : List Value} (holds : P (.stream id))
    (all : ∀ item ∈ items, P item) :
    Likewise like Anything (Build.setRemaining id items) (Build.setRemaining id items) :=
  Echo.modify ⟨rfl, trivial⟩ fun _ _ goes => kindred.setRemaining goes holds all

theorem likewise_newStream {items : List Value} (all : ∀ item ∈ items, P item) :
    Likewise like P (Build.newStream items) (Build.newStream items) := by
  intro world world' goes
  obtain ⟨size, isNew, goes⟩ := kindred.newStream goes all
  exact .ok ⟨congrArg Value.stream size, isNew⟩ goes

theorem likewise_takeNext {id : Nat} (holds : P (.stream id)) :
    Likewise like (fun item => ∀ value ∈ item, P value) (takeNext id) (takeNext id) := by
  refine (kindred.likewise_remaining holds).bind fun items all => ?_
  cases items with
  | nil => exact likewise_pure fun _ isItem => by cases isItem
  | cons item rest =>
      rw [List.forall_mem_cons] at all
      refine (kindred.likewise_setRemaining holds all.2).bind fun _ _ =>
        likewise_pure fun value isItem => ?_
      cases isItem
      exact all.1

theorem likewise_drain {id : Nat} (holds : P (.stream id)) :
    Likewise like (fun items => ∀ item ∈ items, P item) (drain id) (drain id) :=
  (kindred.likewise_remaining holds).bind fun _ all =>
    (kindred.likewise_setRemaining holds (List.forall_mem_nil _)).bind fun _ _ => likewise_pure all

/-! ## Members -/

theorem likewise_rangeMembers (start stop step : Int) :
    Likewise like (fun items => ∀ item ∈ items, P item) (rangeMembers start stop step)
      (rangeMembers start stop step) := by
  unfold rangeMembers
  dsimp only
  split
  · exact kindred.likewise_throw rfl rfl
  · split
    · exact kindred.likewise_throw rfl rfl
    · exact likewise_pure fun _ => kindred.inherited.of_mem_rangeItems

theorem likewise_absent (value : Value) :
    Likewise like Anything (absent value) (absent value) := by
  unfold absent
  split
  · exact likewise_pure trivial
  · exact kindred.likewise_throw rfl rfl

theorem likewise_members {value : Value} (holds : P value) :
    Likewise like (fun items => ∀ item ∈ items, P item) (members value) (members value) := by
  cases value with
  | list items => exact likewise_pure (kindred.inherited.list.mp holds)
  | tuple items => exact likewise_pure (kindred.inherited.tuple.mp holds)
  | range start stop step => exact kindred.likewise_rangeMembers start stop step
  | stream id => exact kindred.likewise_drain holds
  | _ => exact likewise_pure (List.forall_mem_nil _)

theorem likewise_spread {value : Value} (holds : P value) :
    Likewise like (fun items => ∀ item ∈ items, P item) (spread value) (spread value) := by
  unfold spread
  split
  · exact likewise_pure (kindred.inherited.set.mp holds)
  · refine likewise_pure fun item among => ?_
    obtain ⟨_, -, rfl⟩ := List.mem_map.mp among
    exact kindred.inherited.bare rfl
  · refine likewise_pure fun item among => ?_
    obtain ⟨_, -, rfl⟩ := List.mem_map.mp among
    exact kindred.inherited.bare rfl
  · refine likewise_pure fun item among => ?_
    obtain ⟨entry, isEntry, rfl⟩ := List.mem_map.mp among
    exact (kindred.inherited.map.mp holds entry isEntry).1
  · split
    · exact kindred.likewise_members holds
    · exact kindred.likewise_throw rfl rfl

theorem likewise_freshId : Likewise like Anything freshId freshId := by
  intro world world' goes
  obtain ⟨same, goes⟩ := kindred.nextId goes
  refine .ok ⟨same, trivial⟩ ?_
  show like.states { world with nextId := world.nextId + 1 }
    { world' with nextId := world'.nextId + 1 }
  rw [same]
  exact goes _

theorem likewise_name (value : Value) : Likewise like Anything (name value) (name value) := by
  cases value with
  | text => exact likewise_pure trivial
  | _ => exact kindred.likewise_throw rfl rfl

/-! ## Filling and calling -/

theorem likewise_bytesOf (isMutable : Bool) :
    ∀ numbers : List Int,
      Likewise like Anything (bytesOf isMutable numbers) (bytesOf isMutable numbers)
  | [] => likewise_pure trivial
  | number :: rest => by
      unfold bytesOf
      split
      · exact (likewise_bytesOf isMutable rest).bind fun _ _ => likewise_pure trivial
      · exact kindred.likewise_throw rfl rfl

theorem likewise_floatOf (text : String) : Likewise like P (floatOf text) (floatOf text) := by
  unfold floatOf
  split
  · exact kindred.likewise_freshId.bind fun _ _ => likewise_pure (kindred.inherited.bare rfl)
  · exact likewise_pure (kindred.inherited.bare rfl)
  · exact kindred.likewise_throw rfl rfl

theorem likewise_setOf : ∀ {values members : List Value}, (∀ value ∈ values, P value) →
    (∀ member ∈ members, P member) →
      Likewise like (fun items => ∀ item ∈ items, P item) (Build.setOf values members)
        (Build.setOf values members)
  | [], _, _, all => likewise_pure all
  | member :: rest, members, areValues, all => by
      rw [List.forall_mem_cons] at areValues
      unfold Build.setOf
      split
      · exact likewise_setOf areValues.2 (has_of_mem_addMember areValues.1 all)
      · exact kindred.likewise_throw rfl rfl

end Values

section Fill

variable {arguments : List Value}

mutual

/-- Filling a template goes likewise, by its parts. -/
theorem likewise_fill (kindred : Kindred like P fills)
    (given : ∀ argument ∈ arguments, P argument) : ∀ template : Template, fills template →
      Likewise like P (template.fill arguments) (template.fill arguments)
  | .null, _ | .bool _, _ | .int _, _ | .text _, _ => likewise_pure (kindred.inherited.bare rfl)
  | .float written, _ => kindred.likewise_floatOf written
  | .bytes isMutable content, _ =>
      (kindred.likewise_bytesOf isMutable content).bind fun _ _ =>
        likewise_pure (kindred.inherited.bare rfl)
  | .range start stop step, _ => by
      unfold Template.fill
      split
      · exact kindred.likewise_throw rfl rfl
      · exact likewise_pure (kindred.inherited.bare rfl)
  | .list items, filled =>
      (likewise_fillAll kindred given items (kindred.parts filled)).bind fun _ all =>
        likewise_pure (kindred.inherited.list.mpr all)
  | .tuple items, filled =>
      (likewise_fillAll kindred given items (kindred.parts filled)).bind fun _ all =>
        likewise_pure (kindred.inherited.tuple.mpr all)
  | .set _ members, filled =>
      (likewise_fillAll kindred given members (kindred.parts filled)).bind fun _ all =>
        (kindred.likewise_setOf all (List.forall_mem_nil _)).bind fun _ all =>
          likewise_pure (kindred.inherited.set.mpr all)
  | .map entries, filled =>
      (likewise_fillEntries kindred given entries (kindred.parts filled) []
        (List.forall_mem_nil _)).bind fun _ all =>
          likewise_pure (kindred.inherited.map.mpr all)
  | .stream items, filled =>
      (likewise_fillAll kindred given items (kindred.parts filled)).bind fun _ =>
        kindred.likewise_newStream
  | .thing _, _ =>
      kindred.likewise_freshId.bind fun _ _ => likewise_pure (kindred.inherited.bare rfl)
  | .function _ body, filled =>
      kindred.likewise_freshId.bind fun _ _ =>
        likewise_pure (kindred.function.mpr (kindred.parts filled body List.mem_cons_self))
  | .argument index, _ => by
      refine likewise_pure ?_
      cases there : arguments[index]? with
      | none => exact kindred.inherited.bare rfl
      | some value => exact given value (List.mem_of_getElem? there)
  | .arguments, _ => likewise_pure (kindred.inherited.list.mpr given)
  | .concat parts, filled =>
      (likewise_fillAll kindred given parts (kindred.parts filled)).bind fun values all =>
        kindred.likewise_describe fun describe describe' same => by
          have texts : values.map (Value.plain describe') = values.map (Value.plain describe) :=
            List.map_congr_left fun value among =>
              Value.plain_of_quoted (same value (all value among))
          rw [texts]
          exact likewise_pure (kindred.inherited.bare rfl)
  | .fail _, _ => kindred.likewise_throw rfl rfl
  | .named _ _, filled => kindred.named filled
termination_by structural template => template

theorem likewise_fillAll (kindred : Kindred like P fills)
    (given : ∀ argument ∈ arguments, P argument) :
    ∀ templates : List Template, (∀ template ∈ templates, fills template) →
      Likewise like (fun items => ∀ item ∈ items, P item) (Template.fillAll arguments templates)
        (Template.fillAll arguments templates)
  | [], _ => likewise_pure (List.forall_mem_nil _)
  | template :: rest, filled => by
      rw [List.forall_mem_cons] at filled
      exact (likewise_fill kindred given template filled.1).bind fun _ holds =>
        (likewise_fillAll kindred given rest filled.2).bind fun _ all =>
          likewise_pure (List.forall_mem_cons.mpr ⟨holds, all⟩)
termination_by structural templates => templates

theorem likewise_fillEntries (kindred : Kindred like P fills)
    (given : ∀ argument ∈ arguments, P argument) :
    ∀ templates : List (Template × Template),
      (∀ template ∈ templates.flatMap fun entry => [entry.1, entry.2], fills template) →
      ∀ entries : Entries, (∀ entry ∈ entries, P entry.1 ∧ P entry.2) →
        Likewise like (fun entries => ∀ entry ∈ entries, P entry.1 ∧ P entry.2)
          (Template.fillEntries arguments templates entries)
          (Template.fillEntries arguments templates entries)
  | [], _, _, all => likewise_pure all
  | (key, value) :: rest, filled, entries, all => by
      rw [List.flatMap_cons, List.forall_mem_append, List.forall_mem_cons,
        List.forall_mem_singleton] at filled
      unfold Template.fillEntries
      refine (likewise_fill kindred given key filled.1.1).bind fun _ isKey => ?_
      refine (likewise_fill kindred given value filled.1.2).bind fun _ isValue => ?_
      split
      · exact likewise_fillEntries kindred given rest filled.2 _ (has_of_mem_put isKey isValue all)
      · exact kindred.likewise_throw rfl rfl
termination_by structural templates => templates

end

theorem likewise_call (kindred : Kindred like P fills)
    (given : ∀ argument ∈ arguments, P argument) {callee : Function}
    (holds : P (.function callee)) :
    Likewise like P (callee.call arguments) (callee.call arguments) := by
  have fills := kindred.likewise_fill given callee.body (kindred.function.mp holds)
  unfold Function.call
  dsimp only
  split
  · refine Likewise.bind (R := Anything) ?_ fun _ _ => fills
    exact Echo.modify ⟨rfl, trivial⟩ fun _ _ goes => kindred.log goes _ _
  · exact fills

end Fill

/-! ## Flattening -/

section Flatten

variable (kindred : Kindred like P fills)

section Words

variable {one : Value → Build (Option String)}
  (each : ∀ value, P value → Likewise like Anything (one value) (one value))

include each

theorem likewise_words : ∀ values : List Value, (∀ value ∈ values, P value) →
    Likewise like Anything (Flatten.words one values) (Flatten.words one values)
  | [], _ => likewise_pure trivial
  | value :: rest, all => by
      rw [List.forall_mem_cons] at all
      exact (each value all.1).bind fun _ _ =>
        (likewise_words rest all.2).bind fun _ _ => likewise_pure trivial

theorem likewise_entryWords :
    ∀ entries : List (String × Value), (∀ entry ∈ entries, P entry.2) →
      Likewise like Anything (Flatten.entryWords one entries) (Flatten.entryWords one entries)
  | [], _ => likewise_pure trivial
  | (key, value) :: rest, all => by
      rw [List.forall_mem_cons] at all
      refine (each value all.1).bind fun text _ => ?_
      cases text with
      | none => exact likewise_entryWords rest all.2
      | some text => exact (likewise_entryWords rest all.2).bind fun _ _ => likewise_pure trivial

include kindred in
theorem likewise_streamWords {id : Nat} (holds : P (.stream id)) (most : Nat) :
    Likewise like Anything (Flatten.streamWords one id most) (Flatten.streamWords one id most) := by
  induction most with
  | zero => exact likewise_pure trivial
  | succ most ih =>
      refine (kindred.likewise_takeNext holds).bind fun item isItem => ?_
      cases item with
      | none => exact likewise_pure trivial
      | some value =>
          exact (each value (isItem value rfl)).bind fun _ _ =>
            ih.bind fun _ _ => likewise_pure trivial

end Words

omit kindred in
theorem sortedEntries_congr {describe describe' : NodeId → String} {entries : Entries}
    (same : ∀ value, P value → value.quoted describe' = value.quoted describe)
    (all : ∀ entry ∈ entries, P entry.1 ∧ P entry.2) :
    sortedEntries describe' entries = sortedEntries describe entries := by
  refine congrArg (Text.sortByText Prod.fst) (List.map_congr_left fun entry among => ?_)
  exact Prod.ext (Value.plain_of_quoted (same entry.1 (all entry among).1)) rfl

omit kindred in
theorem has_of_mem_sortedEntries {describe : NodeId → String} {entries : Entries}
    (all : ∀ entry ∈ entries, P entry.1 ∧ P entry.2) :
    ∀ entry ∈ sortedEntries describe entries, P entry.2 := by
  intro entry among
  obtain ⟨given, isEntry, rfl⟩ := List.mem_map.mp (Text.mem_sortByText.mp among)
  exact (all given isEntry).2

include kindred

theorem likewise_flattenWithin {arguments : Build (List Value)}
    (given : Likewise like (fun items => ∀ item ∈ items, P item) arguments arguments) :
    ∀ (depth : Nat) (value : Value), P value →
      Likewise like Anything (flattenWithin arguments depth value)
        (flattenWithin arguments depth value)
  | 0, _, _ => kindred.likewise_throw rfl rfl
  | depth + 1, value, holds => by
      have each := likewise_flattenWithin given depth
      have inherited := kindred.inherited
      unfold flattenWithin
      refine (kindred.likewise_absent value).bind fun isAbsent _ => ?_
      split
      · exact likewise_pure trivial
      · split
        · have all := inherited.map.mp holds
          refine kindred.likewise_describe fun describe describe' same => ?_
          rw [sortedEntries_congr same all]
          exact (likewise_entryWords each _ (has_of_mem_sortedEntries all)).bind
            fun _ _ => likewise_pure trivial
        · exact given.bind fun _ given =>
            (kindred.likewise_call given holds).bind fun value holds => each value holds
        · have all := inherited.set.mp holds
          refine kindred.likewise_describe fun describe describe' same => ?_
          rw [sortByText_congr fun member among =>
            Value.plain_of_quoted (same member (all member among))]
          exact (likewise_words each _ fun member among =>
            all member (Text.mem_sortByText.mp among)).bind fun _ _ => likewise_pure trivial
        · exact (likewise_words each _ (inherited.list.mp holds)).bind
            fun _ _ => likewise_pure trivial
        · exact (likewise_words each _ (inherited.tuple.mp holds)).bind
            fun _ _ => likewise_pure trivial
        · exact (likewise_words each _ fun _ => inherited.of_mem_rangeItems).bind
            fun _ _ => likewise_pure trivial
        · exact (kindred.likewise_remaining holds).bind fun _ _ =>
            (kindred.likewise_streamWords each holds _).bind fun _ _ => likewise_pure trivial
        · refine kindred.likewise_describe fun describe describe' same => ?_
          rw [Value.scalarText_of_quoted (same value holds)]
          exact likewise_pure trivial

theorem likewise_flatten {arguments : List Value} (given : ∀ argument ∈ arguments, P argument)
    {value : Value} (holds : P value) :
    Likewise like Anything (flatten arguments value) (flatten arguments value) :=
  kindred.likewise_flattenWithin (likewise_pure given) nestingBudget value holds

theorem likewise_flattenAttributes {arguments : List Value}
    (given : ∀ argument ∈ arguments, P argument) :
    ∀ attributes : RawAttributes, (∀ entry ∈ attributes, P entry.2) →
      Likewise like Anything (flattenAttributes Pure.pure arguments attributes)
        (flattenAttributes Pure.pure arguments attributes)
  | [], _ => likewise_pure trivial
  | (key, value) :: rest, all => by
      rw [List.forall_mem_cons] at all
      refine (kindred.likewise_flatten given all.1).bind fun text _ => ?_
      cases text with
      | none => exact likewise_flattenAttributes given rest all.2
      | some text =>
          exact (likewise_pure (R := Anything) trivial).bind fun _ _ =>
            (likewise_flattenAttributes given rest all.2).bind fun _ _ => likewise_pure trivial

end Flatten

/-! ## Reading specs -/

section Reading

variable {value : Value} {settings : Settings} (kindred : Kindred like P fills)

include kindred

theorem likewise_asChildren (holds : P value) :
    Likewise like (fun items => ∀ item ∈ items, P item) (asChildren value) (asChildren value) := by
  unfold asChildren
  split
  · exact likewise_pure (List.forall_mem_nil _)
  · split
    · exact kindred.likewise_members holds
    · exact likewise_pure (List.forall_mem_singleton.mpr holds)

theorem likewise_readExplicit (holds : P value) :
    Likewise like (fun named => P named.1 ∧ ∀ child ∈ named.2, P child) (readExplicit value)
      (readExplicit value) := by
  unfold readExplicit
  split
  · refine (kindred.likewise_members holds).bind fun items all => ?_
    cases items with
    | nil => exact likewise_pure ⟨kindred.inherited.bare rfl, List.forall_mem_nil _⟩
    | cons name children => exact likewise_pure (List.forall_mem_cons.mp all)
  · exact likewise_pure ⟨holds, List.forall_mem_nil _⟩

theorem likewise_readMarked (marker : Marker) (word : String) (holds : P value) :
    Likewise like (fun named => P named.1 ∧ ∀ child ∈ named.2, P child)
      (readMarked marker word value) (readMarked marker word value) := by
  unfold readMarked
  split
  · exact likewise_pure ⟨holds, List.forall_mem_nil _⟩
  · exact (kindred.likewise_asChildren holds).bind fun _ all =>
      likewise_pure ⟨kindred.inherited.bare rfl, all⟩

/-- The way to a map matters only for where its failures say they arose. -/
theorem likewise_parseMap (path path' : List String) {entries : Entries}
    (all : ∀ entry ∈ entries, P entry.1 ∧ P entry.2) :
    Likewise like (fun spec => spec.Has P) (parseMap settings path entries)
      (parseMap settings path' entries) := by
  have inherited := kindred.inherited
  have attributes : ∀ entry ∈ attributesOf settings.marker entries, P entry.2 :=
    has_of_mem_attributesOf all
  have slot : (nameSlot settings.marker entries).Has P := has_nameSlot all
  unfold parseMap
  refine (kindred.likewise_absent _).discard.bind fun _ _ => ?_
  split <;> rename_i found <;> rw [found] at slot
  · exact (kindred.likewise_readExplicit slot).bind fun _ named =>
      likewise_pure (inherited.ofNamed named.1 named.2 attributes)
  · exact likewise_pure
      (inherited.ofNamed slot.2 (inherited.of_mem_compactChildren slot.1) attributes)
  · exact (kindred.likewise_readMarked _ _ slot).bind fun _ named =>
      likewise_pure (inherited.ofNamed named.1 named.2 attributes)
  · exact likewise_pure
      (inherited.ofNamed (inherited.bare rfl) (List.forall_mem_nil _) attributes)
  · exact (kindred.likewise_quoted (inherited.map.mpr all)).bind fun _ _ =>
      kindred.likewise_failSpec rfl _ _ _

theorem likewise_parse (path path' : List String) (holds : P value) :
    Likewise like (fun spec => ∀ found ∈ spec, found.Has P) (parse settings path value)
      (parse settings path' value) := by
  unfold parse
  refine (kindred.likewise_absent value).bind fun isAbsent _ => ?_
  split
  · exact likewise_pure fun _ isFound => by cases isFound
  · split
    · exact likewise_pure fun _ isFound => by
        cases isFound
        exact Spec.has_existing.mpr holds
    · exact likewise_pure fun _ isFound => by
        cases isFound
        exact Spec.has_callable.mpr holds
    · refine (kindred.likewise_parseMap path path' (kindred.inherited.map.mp holds)).bind
        fun _ has => ?_
      exact likewise_pure fun _ isFound => by
        cases isFound
        exact has
    · split
      · exact (kindred.likewise_members holds).bind fun _ all => likewise_pure fun _ isFound => by
          cases isFound
          exact kindred.inherited.sequence.mpr all
      · exact likewise_pure fun _ isFound => by
          cases isFound
          exact Spec.has_text.mpr holds

end Reading

/-! ## The parts of a node -/

section Parts

variable {spec spec' : Spec} {path path' : List String} {children : List Value}
  {attributes : RawAttributes}

/-- The context of a failure is found without a failure. -/
theorem echo_specContext (operation : String) :
    Echo like (fun _ _ => True) (specContext spec path operation)
      (specContext spec' path' operation) :=
  fun _ _ goes => .ok trivial goes

variable (kindred : Kindred like P fills)

include kindred

theorem likewise_readPart {settings : Settings} {value : Value} {place place' : Place}
    (checks : Likewise like Anything (checkDepth settings value place)
      (checkDepth settings value place')) (holds : P value) :
    Likewise like (fun spec => ∀ found ∈ spec, found.Has P) (readPart settings value place)
      (readPart settings value place') := by
  unfold readPart
  refine checks.bind fun _ _ => ?_
  refine (kindred.likewise_parse place.path place'.path holds).bind fun spec has => ?_
  cases spec with
  | none => exact likewise_pure fun _ isFound => by cases isFound
  | some spec => exact (kindred.likewise_note _ _ _ _).bind fun _ _ => likewise_pure has

theorem likewise_doctypeName (root : Value) :
    Likewise like Anything (doctypeName root) (doctypeName root) := by
  unfold doctypeName
  split
  · exact (kindred.likewise_name root).bind fun _ _ => likewise_pure trivial
  · exact likewise_pure trivial

variable {scene scene' : Scene} (alike : scene.Like scene')
  (given : ∀ argument ∈ scene.arguments, P argument)

include alike given

theorem likewise_childrenText (all : ∀ child ∈ children, P child) :
    Likewise like Anything (childrenText scene children) (childrenText scene' children) := by
  unfold childrenText
  rw [alike.arguments]
  exact (kindred.likewise_flatten given (kindred.inherited.list.mpr all)).bind fun _ _ =>
    likewise_pure trivial

theorem likewise_leadingText (kind : SpecialKind) (all : ∀ child ∈ children, P child) :
    Likewise like Anything (leadingText scene kind spec path children)
      (leadingText scene' kind spec path' children) := by
  have first : P (children.head?.getD .null) :=
    List.head?_eq_getElem? ▸ kindred.inherited.of_getElem all 0
  unfold leadingText
  rw [alike.arguments, alike.settings]
  refine (kindred.likewise_flatten given first).bind fun text _ => ?_
  cases text with
  | some text => exact likewise_pure trivial
  | none =>
      refine Echo.bind (echo_specContext _) fun _ _ _ => ?_
      exact kindred.likewise_failSpec rfl _ _ _

theorem likewise_pseudoAttributes :
    ∀ {attributes : RawAttributes}, (∀ entry ∈ attributes, P entry.2) →
      Likewise like Anything (pseudoAttributes scene attributes) (pseudoAttributes scene' attributes)
  | [], _ => likewise_pure trivial
  | (key, value) :: rest, all => by
      rw [List.forall_mem_cons] at all
      unfold pseudoAttributes
      rw [alike.arguments]
      refine (kindred.likewise_flatten given all.1).bind fun text _ => ?_
      cases text with
      | none => exact likewise_pseudoAttributes all.2
      | some text => exact (likewise_pseudoAttributes all.2).bind fun _ _ => likewise_pure trivial

theorem likewise_identifier (index : Nat) (key : String) (all : ∀ child ∈ children, P child)
    (areAttributes : ∀ entry ∈ attributes, P entry.2) :
    Likewise like Anything (identifier scene children index key attributes)
      (identifier scene' children index key attributes) := by
  have child := kindred.inherited.of_getElem all index
  have instead := kindred.inherited.of_lookup areAttributes key
  unfold identifier
  rw [alike.arguments]
  refine (kindred.likewise_flatten given child).bind fun text _ => ?_
  cases text with
  | some text => exact likewise_pure trivial
  | none => exact kindred.likewise_flatten given instead

end Parts

end Kindred

end MarkupSpec
