import MarkupSpec.Proofs.Flatten.ShiftedWorlds

/-!
# What flattening can reach

A value is within a reach if the streams in it, and the names that its functions take, belong to
that reach (`Reach`, `Value.IsWithin`).  A world is closed under a reach if whatever such streams
still have to give, and whatever such names stand for, is within it too (`World.IsClosed`).

What is flattened within a reach leaves all other streams alone.  It comes to the same text in
two worlds that agree within the reach, also where the second one has made some streams,
functions and things more (`Lead.echo_flattenWithin`).
-/

namespace MarkupSpec

open Build

/-! ## Reaches -/

/-- What values may go by. -/
structure Reach where
  /-- The numbers of functions, things and floats that are no number. -/
  id : Nat → Prop
  stream : Nat → Prop
  /-- The names that functions take. -/
  name : String → Prop
  /-- There may be functions at all. -/
  calls : Prop

/-- The template takes names that pass a test only. -/
inductive Template.Takes (name : String → Prop) : Template → Prop
  | of {template} : (∀ taken walk, template = .named taken walk → name taken) →
      (∀ part ∈ template.parts, Takes name part) → Takes name template

/-- All that a value goes by is within reach. -/
inductive Value.IsWithin (reach : Reach) : Value → Prop
  | list {items} : (∀ item ∈ items, IsWithin reach item) → IsWithin reach (.list items)
  | tuple {items} : (∀ item ∈ items, IsWithin reach item) → IsWithin reach (.tuple items)
  | set {isFrozen items} : (∀ item ∈ items, IsWithin reach item) →
      IsWithin reach (.set isFrozen items)
  | map {entries} : (∀ entry ∈ entries, IsWithin reach entry.1) →
      (∀ entry ∈ entries, IsWithin reach entry.2) → IsWithin reach (.map entries)
  | nan {id} : reach.id id → IsWithin reach (.nan id)
  | thing {id content} : reach.id id → IsWithin reach (.thing id content)
  | stream {id} : reach.stream id → IsWithin reach (.stream id)
  | function {callee} : reach.calls → reach.id callee.id → callee.body.Takes reach.name →
      IsWithin reach (.function callee)
  | null : IsWithin reach .null
  | bool {truth} : IsWithin reach (.bool truth)
  | int {number} : IsWithin reach (.int number)
  | float {number} : IsWithin reach (.float number)
  | text {content} : IsWithin reach (.text content)
  | bytes {isMutable content} : IsWithin reach (.bytes isMutable content)
  | range {start stop step} : IsWithin reach (.range start stop step)
  | node {id} : IsWithin reach (.node id)

section Within

variable {reach reach' : Reach}

theorem stream_of_isWithin {id : Nat} (within : (Value.stream id).IsWithin reach) :
    reach.stream id := by
  cases within with
  | stream inReach => exact inReach

theorem taken_of_takes {test : String → Prop} {name : String} {walk : List Walk}
    (takes : (Template.named name walk).Takes test) : test name := by
  cases takes with
  | of named => exact named name walk rfl

theorem Template.Takes.mono {test test' : String → Prop} (names : ∀ name, test name → test' name)
    {template : Template} (takes : template.Takes test) : template.Takes test' := by
  induction takes with
  | of named _ ih => exact .of (fun taken walk same => names taken (named taken walk same)) ih

/-- Whatever is within the first reach is within the second one. -/
structure Reach.Below (reach reach' : Reach) : Prop where
  id : ∀ id, reach.id id → reach'.id id
  stream : ∀ id, reach.stream id → reach'.stream id
  name : ∀ name, reach.name name → reach'.name name
  calls : reach.calls → reach'.calls

/-- What is within a reach is within a wider one. -/
theorem Value.IsWithin.mono (below : reach.Below reach') {value : Value}
    (within : value.IsWithin reach) : value.IsWithin reach' := by
  induction within with
  | list _ ih => exact .list ih
  | tuple _ ih => exact .tuple ih
  | set _ ih => exact .set ih
  | map _ _ onKeys onValues => exact .map onKeys onValues
  | nan holds => exact .nan (below.id _ holds)
  | thing holds => exact .thing (below.id _ holds)
  | stream holds => exact .stream (below.stream _ holds)
  | function mayCall holds takes =>
      exact .function (below.calls mayCall) (below.id _ holds) (takes.mono below.name)
  | null => exact .null
  | bool => exact .bool
  | int => exact .int
  | float => exact .float
  | text => exact .text
  | bytes => exact .bytes
  | range => exact .range
  | node => exact .node

/-- Where all numbers are within reach, values are so by their parts. -/
theorem inherited_isWithin (ids : ∀ id, reach.id id) : Inherited (Value.IsWithin reach) where
  list := ⟨fun within => by cases within with | list all => exact all, .list⟩
  tuple := ⟨fun within => by cases within with | tuple all => exact all, .tuple⟩
  set := ⟨fun within => by cases within with | set all => exact all, .set⟩
  map := by
    refine ⟨fun within => ?_, fun all => ?_⟩
    · cases within with
      | map onKeys onValues => exact fun entry among => ⟨onKeys entry among, onValues entry among⟩
    · exact .map (fun entry among => (all entry among).1) fun entry among => (all entry among).2
  bare := by
    intro value isBare
    cases value with
    | list | tuple | set | map | stream | function | node => cases isBare
    | nan => exact .nan (ids _)
    | thing => exact .thing (ids _)
    | _ => constructor

/-- A value is left alone if nothing that it goes by is exchanged. -/
theorem Value.renumbered_of_isWithin {numbers : Renumbering}
    (ids : ∀ id, reach.id id → numbers.id id = id)
    (streams : ∀ id, reach.stream id → numbers.stream id = id) {value : Value}
    (within : value.IsWithin reach) : value.renumbered numbers = value := by
  have all {items : List Value} (each : ∀ item ∈ items, item.renumbered numbers = item) :
      items.map (Value.renumbered numbers) = items :=
    (List.map_congr_left each).trans (List.map_id' items)
  induction within with
  | list _ ih | tuple _ ih | set _ ih => rw [renumbered, renumberedAll_eq_map, all ih]
  | @map entries _ _ onKeys onValues =>
      rw [renumbered, renumberedEntries_eq_map]
      refine congrArg Value.map ((List.map_congr_left fun entry among => ?_).trans (List.map_id' _))
      rw [onKeys entry among, onValues entry among]
  | nan holds => rw [renumbered, ids _ holds]
  | thing holds => rw [renumbered, ids _ holds]
  | stream holds => rw [renumbered, streams _ holds]
  | function _ holds => rw [renumbered, ids _ holds]
  | null | bool | int | float | text | bytes | range | node => rfl

/-- The streams and the names within reach hold only what is within reach. -/
structure World.IsClosed (reach : Reach) (world : World) : Prop where
  /-- What is within reach was made. -/
  ids : ∀ id, reach.id id → id < world.nextId
  made : ∀ id, reach.stream id → id < world.streams.size
  streams : ∀ id items, reach.stream id → world.streams[id]? = some items →
    ∀ item ∈ items, item.IsWithin reach
  names : ∀ name value, reach.name name → world.names.lookup name = some value →
    value.IsWithin reach

/-- Values, and the arguments if there are functions among them, are within a reach that a world is
closed under. -/
structure Reach.Covers (reach : Reach) (world : World) (arguments values : List Value) : Prop where
  closed : world.IsClosed reach
  given : reach.calls → ∀ argument ∈ arguments, argument.IsWithin reach
  within : ∀ value ∈ values, value.IsWithin reach

theorem Reach.Covers.mono {world : World} {arguments values values' : List Value}
    (covers : reach.Covers world arguments values) (fewer : ∀ value ∈ values', value ∈ values) :
    reach.Covers world arguments values' :=
  { covers with within := fun value among => covers.within value (fewer value among) }

/-- What is within one of two reaches. -/
def Reach.either (reach reach' : Reach) : Reach where
  id := fun id => reach.id id ∨ reach'.id id
  stream := fun id => reach.stream id ∨ reach'.stream id
  name := fun name => reach.name name ∨ reach'.name name
  calls := reach.calls ∨ reach'.calls

theorem Reach.below_either_left : reach.Below (reach.either reach') :=
  ⟨fun _ => .inl, fun _ => .inl, fun _ => .inl, .inl⟩

theorem Reach.below_either_right : reach'.Below (reach.either reach') :=
  ⟨fun _ => .inr, fun _ => .inr, fun _ => .inr, .inr⟩

theorem Reach.Covers.append {world : World} {arguments front back : List Value}
    (covers : reach.Covers world arguments front) (covers' : reach'.Covers world arguments back) :
    (reach.either reach').Covers world arguments (front ++ back) where
  closed := {
    ids := fun id inReach => inReach.elim (covers.closed.ids id) (covers'.closed.ids id)
    made := fun id inReach => inReach.elim (covers.closed.made id) (covers'.closed.made id)
    streams := fun id items inReach there item among => inReach.elim
      (fun inReach => (covers.closed.streams id items inReach there item among).mono below_either_left)
      fun inReach => (covers'.closed.streams id items inReach there item among).mono below_either_right
    names := fun name value inReach found => inReach.elim
      (fun inReach => (covers.closed.names name value inReach found).mono below_either_left)
      fun inReach => (covers'.closed.names name value inReach found).mono below_either_right }
  given := fun calls argument among => calls.elim
    (fun calls => (covers.given calls argument among).mono below_either_left)
    fun calls => (covers'.given calls argument among).mono below_either_right
  within := fun value among => (List.mem_append.mp among).elim
    (fun among => (covers.within value among).mono below_either_left)
    fun among => (covers'.within value among).mono below_either_right

end Within

/-! ## Worlds that agree within a reach -/

/-- What two worlds have in common within a reach, and how far the second one is ahead. -/
structure Lead where
  reach : Reach
  forest : Forest
  names : List (String × Value)
  notices : Array Notice
  /-- Functions and things with a smaller number were made before both. -/
  bound : Nat
  /-- How many of them the second world has made since. -/
  ids : Nat
  /-- Streams with a smaller number were made before both. -/
  first : Nat
  /-- How many of them the second world has made since. -/
  streams : Nat
  /-- What the streams out of reach have to give in the first world. -/
  aside : Nat → Option (List Value)
  /-- What the streams out of reach have to give in the second world. -/
  aside' : Nat → Option (List Value)

namespace Lead

variable (lead : Lead)

/-- What is made in both worlds has greater numbers in the one that is ahead. -/
def numbers : Renumbering where
  id := fun id => if id < lead.bound then id else id + lead.ids
  stream := fun id => if id < lead.first then id else id + lead.streams

theorem faithful : lead.numbers.Faithful where
  id := by
    intro first second
    simp only [numbers]
    split <;> split <;> omega
  stream := by
    intro first second
    simp only [numbers]
    split <;> split <;> omega

/-- What is within reach, and all that is made since. -/
def since : Reach where
  id := fun _ => True
  stream := fun id => lead.reach.stream id ∨ lead.first ≤ id
  name := lead.reach.name
  calls := lead.reach.calls

theorem below_since : lead.reach.Below lead.since where
  id := fun _ _ => trivial
  stream := fun _ inReach => .inl inReach
  name := fun _ inReach => inReach
  calls := fun calls => calls

/-- The worlds agree within reach, and each has the rest as it was. -/
structure Holds (world world' : World) : Prop where
  forest : world.forest = lead.forest
  forest' : world'.forest = lead.forest
  names : world.names = lead.names
  names' : world'.names = lead.names
  notices : world.notices = lead.notices
  notices' : world'.notices = lead.notices
  bound : lead.bound ≤ world.nextId
  nextId : world'.nextId = world.nextId + lead.ids
  first : lead.first ≤ world.streams.size
  size : world'.streams.size = world.streams.size + lead.streams
  early : ∀ id, lead.reach.id id → id < lead.bound
  made : ∀ id, lead.reach.stream id → id < lead.first
  named : ∀ name value, lead.reach.name name → lead.names.lookup name = some value →
    value.IsWithin lead.reach
  same : ∀ id, lead.since.stream id →
    world'.streams[lead.numbers.stream id]? =
        world.streams[id]?.map (List.map (Value.renumbered lead.numbers)) ∧
      ∀ items, world.streams[id]? = some items → ∀ item ∈ items, item.IsWithin lead.since
  rest : ∀ id, ¬ lead.since.stream id → world.streams[id]? = lead.aside id
  rest' : ∀ id, id < lead.first + lead.streams → ¬ lead.reach.stream id →
    world'.streams[id]? = lead.aside' id

/-- Worlds are compared where they agree within reach, but for what was logged. -/
def likeness : Likeness Failure World where
  excuse := fun _ => False
  causes := Eq
  states := lead.Holds

variable {lead}

/-- What is within reach from the start has the same numbers in both worlds. -/
theorem value_of_isWithin (early : ∀ id, lead.reach.id id → id < lead.bound)
    (made : ∀ id, lead.reach.stream id → id < lead.first) {value : Value}
    (within : value.IsWithin lead.reach) :
    value.renumbered lead.numbers = value ∧ value.IsWithin lead.since := by
  refine ⟨Value.renumbered_of_isWithin (fun id inReach => ?_) (fun id inReach => ?_) within, ?_⟩
  · exact if_pos (early id inReach)
  · exact if_pos (made id inReach)
  · exact within.mono lead.below_since

theorem stream_of_first_le (lead : Lead) {id : Nat} (isLater : lead.first ≤ id) :
    lead.numbers.stream id = id + lead.streams :=
  if_neg (Nat.not_lt.mpr isLater)

/-- No stream within reach or made since has the number of one that is out of reach. -/
theorem Holds.stream_ne {world world' : World} (holds : lead.Holds world world') {id other : Nat}
    (inReach : lead.since.stream id) (early : other < lead.first + lead.streams)
    (outOfReach : ¬ lead.reach.stream other) : lead.numbers.stream id ≠ other := by
  rintro rfl
  rcases inReach with inReach | isLater
  · have same : lead.numbers.stream id = id := if_pos (holds.made id inReach)
    exact outOfReach (same.symm ▸ inReach)
  · rw [lead.stream_of_first_le isLater] at early
    omega

/-- Both worlds may go on with the same in the place of what is left of a stream. -/
theorem Holds.setRemaining {world world' : World} (holds : lead.Holds world world') {id : Nat}
    {items : List Value} (inReach : lead.since.stream id)
    (all : ∀ item ∈ items, item.IsWithin lead.since) :
    lead.Holds { world with streams := world.streams.modify id fun _ => items }
      { world' with
        streams := world'.streams.modify (lead.numbers.stream id)
          fun _ => items.map (Value.renumbered lead.numbers) } := by
  refine { holds with first := ?_, size := ?_, same := ?_, rest := ?_, rest' := ?_ }
  · simpa using holds.first
  · simpa using holds.size
  · intro other isSince
    simp only [Array.getElem?_modify, lead.faithful.stream]
    obtain ⟨same, within⟩ := holds.same other isSince
    rw [same]
    split
    · cases world.streams[other]? with
      | none => exact ⟨rfl, nofun⟩
      | some =>
          refine ⟨rfl, ?_⟩
          rintro _ ⟨⟩
          exact all
    · exact ⟨rfl, within⟩
  · intro other outOfReach
    have isOther : id ≠ other := by
      rintro rfl
      exact outOfReach inReach
    simp only [Array.getElem?_modify, if_neg isOther]
    exact holds.rest other outOfReach
  · intro other early outOfReach
    simp only [Array.getElem?_modify, if_neg (holds.stream_ne inReach early outOfReach)]
    exact holds.rest' other early outOfReach

/-- Both worlds may make a stream of the same. -/
theorem Holds.newStream {world world' : World} (holds : lead.Holds world world')
    {items : List Value} (all : ∀ item ∈ items, item.IsWithin lead.since) :
    lead.Holds { world with streams := world.streams.push items }
      { world' with
        streams := world'.streams.push (items.map (Value.renumbered lead.numbers)) } := by
  have first := holds.first
  have size := holds.size
  have isNext : lead.numbers.stream world.streams.size = world'.streams.size := by
    rw [lead.stream_of_first_le first, size]
  refine { holds with first := ?_, size := ?_, same := ?_, rest := ?_, rest' := ?_ }
  · simp only [Array.size_push]
    omega
  · simp only [Array.size_push]
    omega
  · intro other isSince
    simp only [Array.getElem?_push, ← isNext, lead.faithful.stream]
    split
    · refine ⟨rfl, ?_⟩
      rintro _ ⟨⟩
      exact all
    · exact holds.same other isSince
  · intro other outOfReach
    have isOther : other ≠ world.streams.size := by
      rintro rfl
      exact outOfReach (.inr first)
    simp only [Array.getElem?_push, if_neg isOther]
    exact holds.rest other outOfReach
  · intro other early outOfReach
    have isOther : other ≠ world'.streams.size := by omega
    simp only [Array.getElem?_push, if_neg isOther]
    exact holds.rest' other early outOfReach

/-- All that is within reach is carried over. -/
theorem carries (lead : Lead) :
    Carries lead.likeness lead.numbers (Value.IsWithin lead.since)
      fun template => lead.reach.calls ∧ template.Takes lead.reach.name where
  faithful := lead.faithful
  inherited := inherited_isWithin fun _ => trivial
  causes := fun _ => rfl
  forest := fun holds => holds.forest'.trans holds.forest.symm
  log := fun holds _ _ => { holds with }
  nextId := fun {world world'} holds => by
    have notEarly : ¬ world.nextId < lead.bound := Nat.not_lt.mpr holds.bound
    refine ⟨by simp only [numbers, if_neg notEarly, holds.nextId], ?_⟩
    have next : world'.nextId + 1 = world.nextId + 1 + lead.ids := by
      rw [holds.nextId]
      omega
    exact { holds with bound := Nat.le_succ_of_le holds.bound, nextId := next }
  remaining := fun {world world' id} holds within => by
    obtain ⟨same, all⟩ := holds.same id (stream_of_isWithin within)
    rw [same]
    cases there : world.streams[id]? with
    | none => exact ⟨rfl, List.forall_mem_nil _⟩
    | some items => exact ⟨rfl, all items there⟩
  setRemaining := fun {world world' id items} holds within all =>
    holds.setRemaining (stream_of_isWithin within) all
  newStream := fun {world world' items} holds all =>
    ⟨holds.size.trans (lead.stream_of_first_le holds.first).symm, .stream (.inr holds.first),
      holds.newStream all⟩
  named := fun {name walk} filled => by
    have inReach := taken_of_takes filled.2
    refine carried_named (fun _ => rfl) (fun holds => holds.forest'.trans holds.forest.symm)
      (fun holds => holds.names'.trans holds.names.symm) (fun _ => .node) fun holds found => ?_
    rw [holds.names] at found
    exact value_of_isWithin holds.early holds.made (holds.named _ _ inReach found)
  function := by
    refine ⟨fun within => ?_, fun filled => .function filled.1 trivial filled.2⟩
    cases within with
    | function calls _ takes => exact ⟨calls, takes⟩
  parts := fun filled part among => by
    cases filled.2 with
    | of _ parts => exact ⟨filled.1, parts part among⟩

/-- A world and a later one, of which the later one is ahead. -/
def between (reach : Reach) (world later : World) : Lead where
  reach := reach
  forest := world.forest
  names := world.names
  notices := world.notices
  bound := world.nextId
  ids := later.nextId - world.nextId
  first := world.streams.size
  streams := later.streams.size - world.streams.size
  aside := fun id => world.streams[id]?
  aside' := fun id => later.streams[id]?

/-- A world that is closed under a reach agrees with a later one that has the same streams within
it. -/
theorem holds_between {reach : Reach} {world later : World} (closed : world.IsClosed reach)
    (forest : later.forest = world.forest) (names : later.names = world.names)
    (notices : later.notices = world.notices) (nextId : world.nextId ≤ later.nextId)
    (size : world.streams.size ≤ later.streams.size)
    (streams : ∀ id, reach.stream id → later.streams[id]? = world.streams[id]?) :
    (between reach world later).Holds world later where
  forest := rfl
  forest' := forest
  names := rfl
  names' := names
  notices := rfl
  notices' := notices
  bound := Nat.le_refl _
  nextId := (Nat.add_sub_cancel' nextId).symm
  first := Nat.le_refl _
  size := (Nat.add_sub_cancel' size).symm
  early := closed.ids
  made := closed.made
  named := closed.names
  same := by
    let lead := between reach world later
    rintro id (inReach | isLater)
    · have early : (between reach world later).numbers.stream id = id := if_pos (closed.made id inReach)
      rw [early, streams id inReach]
      cases there : world.streams[id]? with
      | none => exact ⟨rfl, nofun⟩
      | some items =>
          have each (item : Value) (among : item ∈ items) :
              item.renumbered lead.numbers = item ∧ item.IsWithin lead.since :=
            value_of_isWithin closed.ids closed.made (closed.streams id items inReach there item among)
          constructor
          · refine congrArg some ((List.map_congr_left fun item among => ?_).trans (List.map_id' _)).symm
            exact (each item among).1
          · rintro _ ⟨⟩ item among
            exact (each item among).2
    · have isNone : world.streams[id]? = none := Array.getElem?_eq_none isLater
      rw [stream_of_first_le _ isLater, isNone]
      refine ⟨Array.getElem?_eq_none ?_, nofun⟩
      simp only [between] at isLater ⊢
      omega
  rest := fun _ _ => rfl
  rest' := fun _ _ _ => rfl

/-- What is within reach comes to the same text in both worlds, with the rest left as it was. -/
theorem echo_flattenWithin (lead : Lead) {arguments : List Value}
    (given : lead.reach.calls → ∀ argument ∈ arguments, argument.IsWithin lead.reach)
    (depth : Nat) {value : Value} (within : value.IsWithin lead.reach) :
    Echo lead.likeness Eq (flattenWithin (pure arguments) depth value)
      (flattenWithin (pure arguments) depth value) := by
  intro world world' holds
  obtain ⟨same, since⟩ := value_of_isWithin holds.early holds.made within
  have isGiven : ∀ callee, (Value.function callee).IsWithin lead.since →
      Carries.Same lead.numbers (Value.IsWithin lead.since) arguments := by
    intro callee isFunction argument among
    cases isFunction with
    | function calls =>
        exact value_of_isWithin holds.early holds.made (given calls argument among)
  have echo := lead.carries.carried_flattenWithin isGiven depth value since lead.numbers rfl
  rw [same] at echo
  exact echo world world' holds

end Lead

end MarkupSpec
