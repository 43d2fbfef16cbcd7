import Mathlib.Data.List.Forall2
import MarkupSpec.Proofs.Value.Renumbering

/-!
# Flattening at another time

The same values are flattened in two worlds with one forest, where what is made in the first has
other numbers in the second.  Steps carry values over from one to the other if worlds that go
together have the same to say of them, under these numbers (`Carries`).  Then what is filled,
returned and put into streams is the same but for the numbers (`Carries.carried_fill`,
`Carries.carried_call`), and so flattening comes to the same text
(`Carries.carried_flattenWithin`).

A case of this are two worlds where the second one has made some streams, functions and things
more (`World.Shifted`).  Whatever is made in both has greater numbers in the second one, by how
much it was ahead (`Shift`).
-/

namespace MarkupSpec

open Build

/-! ## Values that go together -/

section Together

variable {α β : Type}

/-- An entry has the same key as another one, and a value that goes together with its value. -/
inductive EntryGoes (R : Value → Value → Prop) : α × Value → α × Value → Prop
  | entry {key : α} {value value' : Value} : R value value' → EntryGoes R (key, value) (key, value')

namespace EntryGoes

variable {R S : Value → Value → Prop} {entry entry' : α × Value}

theorem of_key (key : entry'.1 = entry.1) (value : R entry.2 entry'.2) :
    EntryGoes R entry entry' := by
  obtain ⟨_, _⟩ := entry
  obtain ⟨_, _⟩ := entry'
  cases key
  exact .entry value

theorem key (goes : EntryGoes R entry entry') : entry'.1 = entry.1 := by
  cases goes
  rfl

theorem value (goes : EntryGoes R entry entry') : R entry.2 entry'.2 := by
  cases goes with
  | entry value => exact value

theorem imp (goes : EntryGoes R entry entry')
    (implies : ∀ value value', R value value' → S value value') : EntryGoes S entry entry' :=
  of_key goes.key (implies _ _ goes.value)

end EntryGoes

theorem forall₂_insertByText {R : α → β → Prop} {text : α → String} {text' : β → String}
    (same : ∀ member member', R member member' → text' member' = text member) {new : α} {new' : β}
    (goes : R new new') {members : List α} {members' : List β}
    (all : List.Forall₂ R members members') :
    List.Forall₂ R (Text.insertByText text new members)
      (Text.insertByText text' new' members') := by
  induction all with
  | nil => exact .cons goes .nil
  | cons first rest ih =>
      unfold Text.insertByText
      rw [same _ _ goes, same _ _ first]
      split
      · exact .cons first ih
      · exact .cons goes (.cons first rest)

/-- Members that go together do so when both lists are sorted by the same texts. -/
theorem forall₂_sortByText {R : α → β → Prop} {text : α → String} {text' : β → String}
    (same : ∀ member member', R member member' → text' member' = text member)
    {members : List α} {members' : List β} (all : List.Forall₂ R members members') :
    List.Forall₂ R (Text.sortByText text members) (Text.sortByText text' members') := by
  induction all with
  | nil => exact .nil
  | cons first _ ih => exact forall₂_insertByText same first ih

/-- Steps that come to the same may be followed by steps that begin with the same. -/
theorem Echo.bind_same {ε σ γ : Type} {like : Likeness ε σ} {done : α → β → Prop}
    {first second : EStateM ε σ γ} {next : γ → EStateM ε σ α} {next' : γ → EStateM ε σ β}
    (onFirst : Echo like Eq first second)
    (onNext : ∀ result, Echo like done (next result) (next' result)) :
    Echo like done (first >>= next) (second >>= next') := by
  refine onFirst.bind ?_
  rintro result _ rfl
  exact onNext result

variable {like : Likeness Failure World} {one one' : Value → Build (Option String)}

/-- Values whose texts are found alike come to the same words. -/
theorem echo_words {values values' : List Value}
    (all : List.Forall₂ (fun value value' => Echo like Eq (one value) (one' value'))
      values values') :
    Echo like Eq (Flatten.words one values) (Flatten.words one' values') := by
  induction all with
  | nil => exact Echo.pure rfl
  | cons first _ ih =>
      unfold Flatten.words
      exact first.bind_same fun _ => ih.bind_same fun _ => Echo.pure rfl

/-- Entries whose texts are found alike come to the same words. -/
theorem echo_entryWords {entries entries' : List (String × Value)}
    (all : List.Forall₂ (EntryGoes fun value value' => Echo like Eq (one value) (one' value'))
      entries entries') :
    Echo like Eq (Flatten.entryWords one entries) (Flatten.entryWords one' entries') := by
  induction all with
  | nil => exact Echo.pure rfl
  | @cons entry entry' _ _ first _ ih =>
      unfold Flatten.entryWords
      rw [first.key]
      refine first.value.bind_same fun text => ?_
      cases text with
      | none => exact ih
      | some text => exact ih.bind_same fun _ => Echo.pure rfl

theorem forall₂_renumbered {P : Value → Prop} (numbers : Renumbering) {values : List Value}
    (all : ∀ value ∈ values, P value) :
    List.Forall₂ (fun value value' => value' = value.renumbered numbers ∧ P value) values
      (values.map (Value.renumbered numbers)) := by
  rw [List.forall₂_map_right_iff, List.forall₂_same]
  exact fun value among => ⟨rfl, all value among⟩

/-- The entries of a map, renumbered, are in the same order. -/
theorem forall₂_sortedEntries_renumbered {P : Value → Prop} (numbers : Renumbering)
    (describe : NodeId → String) {entries : Entries}
    (all : ∀ entry ∈ entries, P entry.1 ∧ P entry.2) :
    List.Forall₂ (EntryGoes fun value value' => value' = value.renumbered numbers ∧ P value)
      (sortedEntries describe entries)
      (sortedEntries describe (Value.renumberedEntries numbers entries)) := by
  refine forall₂_sortByText (fun _ _ goes => goes.key) ?_
  rw [Value.renumberedEntries_eq_map, List.map_map, List.forall₂_map_left_iff,
    List.forall₂_map_right_iff, List.forall₂_same]
  exact fun entry among =>
    .of_key (Value.plain_renumbered describe entry.1) ⟨rfl, (all entry among).2⟩

end Together

/-! ## Steps under other numbers -/

/-- From worlds that go together the second step comes to the value that the first one comes to,
under other numbers, and that value has a property. -/
abbrev Carried (like : Likeness Failure World) (numbers : Renumbering) (P : Value → Prop)
    (first second : Build Value) : Prop :=
  Echo like (fun value value' => value' = value.renumbered numbers ∧ P value) first second

/-- The same of several values. -/
abbrev CarriedAll (like : Likeness Failure World) (numbers : Renumbering) (P : Value → Prop)
    (first second : Build (List Value)) : Prop :=
  Echo like
    (fun values values' => values' = values.map (Value.renumbered numbers) ∧ ∀ value ∈ values, P value)
    first second

/-- Worlds that go together have the same to say of values with a property, under other numbers. -/
structure Carries (like : Likeness Failure World) (numbers : Renumbering) (P : Value → Prop)
    (fills : Template → Prop) : Prop where
  faithful : numbers.Faithful
  inherited : Inherited P
  causes : ∀ cause, like.causes cause cause
  forest : ∀ {world world'}, like.states world world' → world'.forest = world.forest
  log : ∀ {world world'}, like.states world world' → ∀ calls calls',
    like.states { world with calls := calls } { world' with calls := calls' }
  nextId : ∀ {world world'}, like.states world world' →
    world'.nextId = numbers.id world.nextId ∧
      like.states { world with nextId := world.nextId + 1 } { world' with nextId := world'.nextId + 1 }
  remaining : ∀ {world world' id}, like.states world world' → P (.stream id) →
    (world'.streams[numbers.stream id]?).getD [] =
        ((world.streams[id]?).getD []).map (Value.renumbered numbers) ∧
      ∀ item ∈ (world.streams[id]?).getD [], P item
  setRemaining : ∀ {world world' id items}, like.states world world' → P (.stream id) →
    (∀ item ∈ items, P item) →
      like.states { world with streams := world.streams.modify id fun _ => items }
        { world' with
          streams := world'.streams.modify (numbers.stream id)
            fun _ => items.map (Value.renumbered numbers) }
  newStream : ∀ {world world' items}, like.states world world' → (∀ item ∈ items, P item) →
    world'.streams.size = numbers.stream world.streams.size ∧ P (.stream world.streams.size) ∧
      like.states { world with streams := world.streams.push items }
        { world' with streams := world'.streams.push (items.map (Value.renumbered numbers)) }
  named : ∀ {name walk}, fills (.named name walk) →
    Carried like numbers P (named name walk) (named name walk)
  function : ∀ {callee : Function}, P (.function callee) ↔ fills callee.body
  parts : ∀ {template : Template}, fills template → ∀ part ∈ template.parts, fills part

section Carrying

variable {α β : Type} {done : α → β → Prop} {like : Likeness Failure World}
  {numbers : Renumbering} {P : Value → Prop} {fills : Template → Prop}

theorem echo_absent {value value' : Value} (isCountable : value'.isCountable = value.isCountable)
    (isAbsent : value'.isAbsent = value.isAbsent) (alike : like.causes .uncountable .uncountable) :
    Echo like Eq (absent value) (absent value') := by
  unfold absent
  rw [isCountable, isAbsent]
  split
  · exact Echo.pure rfl
  · exact Echo.throw alike

/-- What is made of the forest. -/
theorem echo_forest (same : ∀ {world world'}, like.states world world' → world'.forest = world.forest)
    {next : Forest → Build α} {next' : Forest → Build β}
    (onNext : ∀ forest, Echo like done (next forest) (next' forest)) :
    Echo like done (Build.forest >>= next) (Build.forest >>= next') := by
  intro world world' goes
  show Echoes like done (next world.forest world) (next' world'.forest world')
  rw [same goes]
  exact onNext _ world world' goes

/-- A named value is looked up, and a walk goes through the same forest. -/
theorem carried_named {name : String} {walk : List Walk} (causes : ∀ cause, like.causes cause cause)
    (forest : ∀ {world world'}, like.states world world' → world'.forest = world.forest)
    (names : ∀ {world world'}, like.states world world' → world'.names = world.names)
    (onNode : ∀ id, P (.node id))
    (onFound : ∀ {world world' value}, like.states world world' →
      world.names.lookup name = some value → value.renumbered numbers = value ∧ P value) :
    Carried like numbers P (named name walk) (named name walk) := by
  refine Echo.bind_get fun world world' goes => ?_
  have found (value : Value) : world.names.lookup name = some value →
      value.renumbered numbers = value ∧ P value := onFound goes
  rw [names goes]
  generalize world.names.lookup name = named at found ⊢
  split
  · exact .failed (causes _) goes
  · exact .ok ⟨(found _ rfl).1.symm, (found _ rfl).2⟩ goes
  · refine echo_forest forest (fun forest => ?_) world world' goes
    split
    · exact Echo.pure ⟨rfl, onNode _⟩
    · exact Echo.throw (causes _)
  · exact .failed (causes _) goes

namespace Carries

section Values

variable (carries : Carries like numbers P fills)

include carries

/-- What is made of the descriptions of nodes. -/
theorem echo_describe {next : (NodeId → String) → Build α} {next' : (NodeId → String) → Build β}
    (onNext : ∀ describe, Echo like done (next describe) (next' describe)) :
    Echo like done (describe >>= next) (describe >>= next') :=
  echo_forest carries.forest fun forest => onNext forest.describe

/-! ### Streams -/

theorem carried_remaining {id : Nat} (holds : P (.stream id)) :
    CarriedAll like numbers P (Build.remaining id) (Build.remaining (numbers.stream id)) :=
  fun _ _ goes => .ok (carries.remaining goes holds) goes

theorem carried_setRemaining {id : Nat} {items : List Value} (holds : P (.stream id))
    (all : ∀ item ∈ items, P item) :
    Echo like Eq (Build.setRemaining id items)
      (Build.setRemaining (numbers.stream id) (items.map (Value.renumbered numbers))) :=
  Echo.modify rfl fun _ _ goes => carries.setRemaining goes holds all

theorem carried_newStream {items : List Value} (all : ∀ item ∈ items, P item) :
    Carried like numbers P (Build.newStream items)
      (Build.newStream (items.map (Value.renumbered numbers))) := by
  intro world world' goes
  obtain ⟨size, holds, goes⟩ := carries.newStream goes all
  exact .ok ⟨congrArg Value.stream size, holds⟩ goes

theorem carried_takeNext {id : Nat} (holds : P (.stream id)) :
    Echo like (fun item item' => item' = item.map (Value.renumbered numbers) ∧ ∀ value ∈ item, P value)
      (takeNext id) (takeNext (numbers.stream id)) := by
  refine (carries.carried_remaining holds).bind ?_
  rintro items _ ⟨rfl, all⟩
  cases items with
  | nil => exact Echo.pure ⟨rfl, nofun⟩
  | cons item rest =>
      rw [List.forall_mem_cons] at all
      refine (carries.carried_setRemaining holds all.2).bind fun _ _ _ => Echo.pure ⟨rfl, ?_⟩
      rintro _ ⟨⟩
      exact all.1

/-! ### Filling and calling -/

theorem carried_freshId : Echo like (fun id id' => id' = numbers.id id) freshId freshId := by
  intro world world' goes
  obtain ⟨same, goes⟩ := carries.nextId goes
  exact .ok same goes

theorem carried_bytesOf (isMutable : Bool) :
    ∀ content : List Int, Echo like Eq (bytesOf isMutable content) (bytesOf isMutable content)
  | [] => Echo.pure rfl
  | number :: rest => by
      unfold bytesOf
      split
      · exact (carried_bytesOf isMutable rest).bind_same fun _ => Echo.pure rfl
      · exact Echo.throw (carries.causes _)

theorem carried_floatOf (text : String) : Carried like numbers P (floatOf text) (floatOf text) := by
  unfold floatOf
  split
  · exact carries.carried_freshId.bind fun _ _ same =>
      Echo.pure ⟨by rw [same]; rfl, carries.inherited.bare rfl⟩
  · exact Echo.pure ⟨rfl, carries.inherited.bare rfl⟩
  · exact Echo.throw (carries.causes _)

theorem carried_setOf : ∀ {values members : List Value}, (∀ value ∈ values, P value) →
    (∀ member ∈ members, P member) →
      CarriedAll like numbers P (Build.setOf values members)
        (Build.setOf (values.map (Value.renumbered numbers))
          (members.map (Value.renumbered numbers)))
  | [], _, _, all => Echo.pure ⟨rfl, all⟩
  | member :: rest, members, areValues, all => by
      rw [List.forall_mem_cons] at areValues
      simp only [List.map_cons, Build.setOf, Value.isKey_renumbered]
      split
      · rw [Value.addMember_renumbered carries.faithful]
        exact carried_setOf areValues.2 (has_of_mem_addMember areValues.1 all)
      · exact Echo.throw (carries.causes _)

end Values

/-- The arguments have a property, and are the same under other numbers. -/
def Same (numbers : Renumbering) (P : Value → Prop) (arguments : List Value) : Prop :=
  ∀ argument ∈ arguments, argument.renumbered numbers = argument ∧ P argument

section Filling

variable {arguments : List Value}

mutual

theorem carried_fill (carries : Carries like numbers P fills) (given : Same numbers P arguments) :
    ∀ template : Template, fills template →
      Carried like numbers P (template.fill arguments) (template.fill arguments)
  | .null, _ | .bool _, _ | .int _, _ | .text _, _ => Echo.pure ⟨rfl, carries.inherited.bare rfl⟩
  | .float written, _ => carries.carried_floatOf written
  | .bytes isMutable content, _ =>
      (carries.carried_bytesOf isMutable content).bind fun _ _ same =>
        Echo.pure ⟨by rw [same]; rfl, carries.inherited.bare rfl⟩
  | .range start stop step, _ => by
      unfold Template.fill
      split
      · exact Echo.throw (carries.causes _)
      · exact Echo.pure ⟨rfl, carries.inherited.bare rfl⟩
  | .list items, filled =>
      (carried_fillAll carries given items (carries.parts filled)).bind fun _ _ same =>
        Echo.pure ⟨by rw [same.1, Value.renumbered, Value.renumberedAll_eq_map],
          carries.inherited.list.mpr same.2⟩
  | .tuple items, filled =>
      (carried_fillAll carries given items (carries.parts filled)).bind fun _ _ same =>
        Echo.pure ⟨by rw [same.1, Value.renumbered, Value.renumberedAll_eq_map],
          carries.inherited.tuple.mpr same.2⟩
  | .set isFrozen members, filled => by
      unfold Template.fill
      refine (carried_fillAll carries given members (carries.parts filled)).bind ?_
      rintro values _ ⟨rfl, all⟩
      refine (carries.carried_setOf all (List.forall_mem_nil _)).bind fun _ _ same =>
        Echo.pure ⟨?_, carries.inherited.set.mpr same.2⟩
      rw [same.1, Value.renumbered, Value.renumberedAll_eq_map]
  | .map entries, filled =>
      (carried_fillEntries carries given entries (carries.parts filled) []
        (List.forall_mem_nil _)).bind fun _ _ same =>
          Echo.pure ⟨by rw [same.1]; rfl, carries.inherited.map.mpr same.2⟩
  | .stream items, filled => by
      unfold Template.fill
      refine (carried_fillAll carries given items (carries.parts filled)).bind ?_
      rintro values _ ⟨rfl, all⟩
      exact carries.carried_newStream all
  | .thing _, _ =>
      carries.carried_freshId.bind fun _ _ same =>
        Echo.pure ⟨by rw [same]; rfl, carries.inherited.bare rfl⟩
  | .function _ body, filled =>
      carries.carried_freshId.bind fun _ _ same =>
        Echo.pure ⟨by rw [same]; rfl,
          carries.function.mpr (carries.parts filled body List.mem_cons_self)⟩
  | .argument index, _ => by
      refine Echo.pure ?_
      cases there : arguments[index]? with
      | none => exact ⟨rfl, carries.inherited.bare rfl⟩
      | some argument =>
          have isGiven := given argument (List.mem_of_getElem? there)
          exact ⟨isGiven.1.symm, isGiven.2⟩
  | .arguments, _ => by
      refine Echo.pure ⟨?_, carries.inherited.list.mpr fun argument among => (given argument among).2⟩
      rw [Value.renumbered, Value.renumberedAll_eq_map,
        List.map_congr_left fun argument among => (given argument among).1, List.map_id']
  | .concat parts, filled => by
      unfold Template.fill
      refine (carried_fillAll carries given parts (carries.parts filled)).bind ?_
      rintro values _ ⟨rfl, -⟩
      refine carries.echo_describe fun describe => Echo.pure ⟨?_, carries.inherited.bare rfl⟩
      simp only [List.map_map, Function.comp_def, Value.plain_renumbered]
      rfl
  | .fail _, _ => Echo.throw (carries.causes _)
  | .named _ _, filled => carries.named filled
termination_by structural template => template

theorem carried_fillAll (carries : Carries like numbers P fills)
    (given : Same numbers P arguments) :
    ∀ templates : List Template, (∀ template ∈ templates, fills template) →
      CarriedAll like numbers P (Template.fillAll arguments templates)
        (Template.fillAll arguments templates)
  | [], _ => Echo.pure ⟨rfl, List.forall_mem_nil _⟩
  | template :: rest, filled => by
      rw [List.forall_mem_cons] at filled
      unfold Template.fillAll
      refine (carried_fill carries given template filled.1).bind ?_
      rintro value _ ⟨rfl, holds⟩
      refine (carried_fillAll carries given rest filled.2).bind ?_
      rintro values _ ⟨rfl, all⟩
      exact Echo.pure ⟨rfl, List.forall_mem_cons.mpr ⟨holds, all⟩⟩
termination_by structural templates => templates

theorem carried_fillEntries (carries : Carries like numbers P fills)
    (given : Same numbers P arguments) :
    ∀ templates : List (Template × Template),
      (∀ template ∈ templates.flatMap fun entry => [entry.1, entry.2], fills template) →
      ∀ entries : Entries, (∀ entry ∈ entries, P entry.1 ∧ P entry.2) →
        Echo like
          (fun filled filled' => filled' = Value.renumberedEntries numbers filled ∧
            ∀ entry ∈ filled, P entry.1 ∧ P entry.2)
          (Template.fillEntries arguments templates entries)
          (Template.fillEntries arguments templates (Value.renumberedEntries numbers entries))
  | [], _, _, all => Echo.pure ⟨rfl, all⟩
  | (key, value) :: rest, filled, entries, all => by
      rw [List.flatMap_cons, List.forall_mem_append, List.forall_mem_cons,
        List.forall_mem_singleton] at filled
      unfold Template.fillEntries
      refine (carried_fill carries given key filled.1.1).bind ?_
      rintro key _ ⟨rfl, isKey⟩
      refine (carried_fill carries given value filled.1.2).bind ?_
      rintro value _ ⟨rfl, isValue⟩
      rw [Value.isKey_renumbered, Value.put_renumbered carries.faithful]
      split
      · exact carried_fillEntries carries given rest filled.2 _ (has_of_mem_put isKey isValue all)
      · exact Echo.throw (carries.causes _)
termination_by structural templates => templates

end

/-- A function returns the same to the same arguments, whatever its own number. -/
theorem carried_call (carries : Carries like numbers P fills) (given : Same numbers P arguments)
    {callee : Function} (holds : P (.function callee)) (id : Nat) :
    Carried like numbers P (callee.call arguments)
      (Function.call { callee with id } arguments) := by
  have filled := carries.carried_fill given callee.body (carries.function.mp holds)
  have logs (calls calls' : World → Array Call) :
      Echo like Eq (modify fun world => { world with calls := calls world } : Build Unit)
        (modify fun world => { world with calls := calls' world }) :=
    Echo.modify rfl fun _ _ goes => carries.log goes _ _
  unfold Function.call
  dsimp only
  split
  · exact (logs _ _).bind fun _ _ _ => filled
  · exact filled

end Filling

/-! ### Flattening -/

section Flattening

variable {arguments : List Value}

theorem carried_streamWords (carries : Carries like numbers P fills)
    {one one' : Value → Build (Option String)}
    (each : ∀ value, P value → Echo like Eq (one value) (one' (value.renumbered numbers)))
    {id : Nat} (holds : P (.stream id)) :
    ∀ most : Nat, Echo like Eq (Flatten.streamWords one id most)
      (Flatten.streamWords one' (numbers.stream id) most)
  | 0 => Echo.pure rfl
  | most + 1 => by
      unfold Flatten.streamWords
      refine (carries.carried_takeNext holds).bind ?_
      rintro item _ ⟨rfl, isItem⟩
      cases item with
      | none => exact Echo.pure rfl
      | some value =>
          exact (each value (isItem value rfl)).bind_same fun _ =>
            (carried_streamWords carries each holds most).bind_same fun _ => Echo.pure rfl

/-- A value comes to the same text under other numbers, as long as its streams have the numbers
that they have in the other world. -/
theorem carried_flattenWithin (carries : Carries like numbers P fills)
    (given : ∀ callee, P (.function callee) → Same numbers P arguments) :
    ∀ (depth : Nat) (value : Value), P value → ∀ numbers' : Renumbering,
      numbers'.stream = numbers.stream →
        Echo like Eq (flattenWithin (pure arguments) depth value)
          (flattenWithin (pure arguments) depth (value.renumbered numbers'))
  | 0, _, _, _, _ => Echo.throw (carries.causes _)
  | depth + 1, value, holds, numbers', streams => by
      have inherited := carries.inherited
      have each (value value' : Value) (same : value' = value.renumbered numbers' ∧ P value) :
          Echo like Eq (flattenWithin (pure arguments) depth value)
            (flattenWithin (pure arguments) depth value') := by
        rw [same.1]
        exact carried_flattenWithin carries given depth value same.2 numbers' streams
      let one := flattenWithin (pure arguments) depth
      have words {values values' : List Value}
          (all : List.Forall₂ (fun value value' => value' = value.renumbered numbers' ∧ P value)
            values values') :
          Echo like Eq (do return joinWords (← Flatten.words one values))
            (do return joinWords (← Flatten.words one values')) :=
        (echo_words (all.imp each)).bind_same fun _ => Echo.pure rfl
      unfold flattenWithin
      refine (echo_absent (Value.isCountable_renumbered value)
        (Value.isAbsent_renumbered value) (carries.causes _)).bind_same fun isAbsent => ?_
      split
      · exact Echo.pure rfl
      cases value with
      | map entries =>
          refine carries.echo_describe fun describe => ?_
          have goes := forall₂_sortedEntries_renumbered numbers' describe (inherited.map.mp holds)
          exact (echo_entryWords (goes.imp fun _ _ goes => goes.imp each)).bind_same
            fun _ => Echo.pure rfl
      | function callee =>
          refine (carries.carried_call (given callee holds) holds _).bind ?_
          rintro value _ ⟨rfl, holds⟩
          exact carried_flattenWithin carries given depth value holds numbers rfl
      | set _ members =>
          refine carries.echo_describe fun describe => words (forall₂_sortByText ?_ ?_)
          · rintro member _ ⟨rfl, -⟩
            exact Value.plain_renumbered describe member
          · rw [Value.renumberedAll_eq_map]
            exact forall₂_renumbered numbers' (inherited.set.mp holds)
      | list items =>
          refine words ?_
          rw [Value.renumberedAll_eq_map]
          exact forall₂_renumbered numbers' (inherited.list.mp holds)
      | tuple items =>
          refine words ?_
          rw [Value.renumberedAll_eq_map]
          exact forall₂_renumbered numbers' (inherited.tuple.mp holds)
      | range start stop step =>
          refine words (List.forall₂_same.mpr fun item among => ?_)
          obtain ⟨index, -, rfl⟩ := List.mem_map.mp among
          exact ⟨rfl, inherited.bare rfl⟩
      | stream id =>
          have next (value : Value) (holds : P value) :=
            carried_flattenWithin carries given depth value holds numbers rfl
          simp only [Value.renumbered, streams]
          refine (carries.carried_remaining holds).bind ?_
          rintro items _ ⟨rfl, -⟩
          rw [List.length_map]
          exact (carries.carried_streamWords next holds items.length).bind_same
            fun _ => Echo.pure rfl
      | _ => exact carries.echo_describe fun describe => Echo.pure rfl

end Flattening

end Carries

end Carrying

/-! ## Worlds that are ahead -/

/-- What two worlds have in common, and how far the second one is ahead. -/
structure Shift where
  forest : Forest
  /-- The values that have a name. -/
  names : List (String × Value)
  /-- What has a smaller number was made before both. -/
  bound : Nat
  /-- How many functions and things the second world has made since. -/
  ids : Nat
  /-- The streams it has made since, with what they still have to give. -/
  streams : Array (List Value)

namespace Shift

variable (shift : Shift)

/-- What is made in both worlds has greater numbers in the one that is ahead. -/
def numbers : Renumbering where
  id := fun id => if id < shift.bound then id else id + shift.ids
  stream := fun id => shift.streams.size + id

theorem faithful : shift.numbers.Faithful where
  id := by
    intro first second
    simp only [numbers]
    split <;> split <;> omega
  stream := by
    intro first second
    simp only [numbers]
    omega

/-- A value as it is in the world that is ahead. -/
abbrev value (value : Value) : Value := value.renumbered shift.numbers

variable {shift}

/-- What was made before is the same in both worlds. -/
theorem value_of_predates {value : Value} (early : value.predates shift.bound) :
    shift.value value = value :=
  Value.renumbered_of_isStill (fun _ early => if_pos (of_decide_eq_true early)) value early

end Shift

/-- The second world is the first one, but for what it has made since. -/
structure World.Shifted (shift : Shift) (world world' : World) : Prop where
  forest : world.forest = shift.forest
  forest' : world'.forest = shift.forest
  names : world.names = shift.names
  names' : world'.names = shift.names
  early : ∀ entry ∈ shift.names, entry.2.predates shift.bound
  bound : shift.bound ≤ world.nextId
  nextId : world'.nextId = world.nextId + shift.ids
  streams : world'.streams = shift.streams ++ world.streams.map (List.map shift.value)

namespace World.Shifted

variable {shift : Shift} {world world' : World} (shifted : world.Shifted shift world')

include shifted

/-- Worlds stay as they are to each other when they change in what is not compared. -/
theorem remains {calls calls' notices notices'} :
    Shifted shift { world with calls := calls, notices := notices }
      { world' with calls := calls', notices := notices' } :=
  ⟨shifted.forest, shifted.forest', shifted.names, shifted.names', shifted.early, shifted.bound,
    shifted.nextId, shifted.streams⟩

/-- Both worlds may have other streams if these go together. -/
theorem restreamed {streams streams' : Array (List Value)}
    (goes : streams' = shift.streams ++ streams.map (List.map shift.value)) :
    Shifted shift { world with streams } { world' with streams := streams' } :=
  ⟨shifted.forest, shifted.forest', shifted.names, shifted.names', shifted.early, shifted.bound,
    shifted.nextId, goes⟩

end World.Shifted

/-- All that is asked of the failures in a world and in one that is ahead is that none is
missing. -/
def Shift.likeness (shift : Shift) : Likeness Failure World where
  excuse := fun _ => False
  causes := fun _ _ => True
  states := World.Shifted shift

/-- All values are carried over to a world that is ahead. -/
theorem Shift.carries (shift : Shift) :
    Carries shift.likeness shift.numbers Anything fun _ => True where
  faithful := shift.faithful
  inherited := by constructor <;> simp
  causes := fun _ => trivial
  forest := fun shifted => shifted.forest'.trans shifted.forest.symm
  log := fun shifted _ _ => shifted.remains
  nextId := fun {world world'} shifted => by
    have notEarly : ¬ world.nextId < shift.bound := Nat.not_lt.mpr shifted.bound
    refine ⟨by simp only [numbers, if_neg notEarly, shifted.nextId], ?_⟩
    refine ⟨shifted.forest, shifted.forest', shifted.names, shifted.names', shifted.early,
      Nat.le_succ_of_le shifted.bound, ?_, shifted.streams⟩
    show world'.nextId + 1 = world.nextId + 1 + shift.ids
    rw [shifted.nextId]
    omega
  remaining := fun {world world' id} shifted _ => by
    refine ⟨?_, fun _ _ => trivial⟩
    show (world'.streams[shift.streams.size + id]?).getD [] = _
    rw [shifted.streams, Array.getElem?_append_right (Nat.le_add_right _ _),
      Nat.add_sub_cancel_left, Array.getElem?_map]
    cases world.streams[id]? <;> rfl
  setRemaining := fun shifted _ _ => by
    refine shifted.restreamed (Array.ext_getElem? fun other => ?_)
    have isAhead (id : Nat) : shift.numbers.stream id = shift.streams.size + id := rfl
    simp only [shifted.streams, isAhead, Array.getElem?_modify, Array.getElem?_append,
      Array.getElem?_map]
    grind
  newStream := fun {world world'} _ shifted _ => by
    have size : world'.streams.size = shift.streams.size + world.streams.size := by
      rw [shifted.streams, Array.size_append, Array.size_map]
    refine ⟨size, trivial, shifted.restreamed ?_⟩
    rw [shifted.streams, Array.map_push, Array.append_push]
  named := fun _ => carried_named (fun _ => trivial)
    (fun shifted => shifted.forest'.trans shifted.forest.symm)
    (fun shifted => shifted.names'.trans shifted.names.symm)
    (fun _ => trivial) fun shifted found => by
      rw [shifted.names] at found
      exact ⟨value_of_predates (shifted.early _ (mem_of_lookup found)), trivial⟩
  function := Iff.rfl
  parts := fun _ _ _ => trivial

/-- A value comes to the same text in a world that is ahead, whatever numbers it has there, as
long as its streams are the same. -/
theorem shifted_flattenWithin {shift : Shift} {arguments : List Value}
    (early : ∀ argument ∈ arguments, argument.predates shift.bound) (depth : Nat) (value : Value)
    (numbers : Renumbering) (streams : numbers.stream = shift.numbers.stream) :
    Echo shift.likeness Eq (flattenWithin (pure arguments) depth value)
      (flattenWithin (pure arguments) depth (value.renumbered numbers)) :=
  shift.carries.carried_flattenWithin
    (fun _ _ argument among => ⟨Shift.value_of_predates (early argument among), trivial⟩)
    depth value trivial numbers streams

end MarkupSpec
