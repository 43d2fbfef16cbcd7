import MarkupSpec.Proofs.Flatten.Reach
import MarkupSpec.Proofs.Flatten.Words

/-!
# Flattening nested sequences

A group in a list is flattened like its members in its place: a list, a tuple, a stream that nothing
else reaches, and a function that gives one of them (`Stands`, `flattening_group`).  The two runs are
compared in worlds that are beside each other: they agree about all that is within reach, while the
stream that only one of them reads has something else to give in each (`Beside`).

Two lists come, one after the other in one list, to the text of the one and the text of the other with
a blank between them, if the second of them is flattened in the world that the first one leaves
(`flattening_append`).  If they share no stream it is the same with the text that the second one comes
to by itself (`gives_append`).  By itself it finds another world, but one that agrees with the first
about all that is within its reach, and a function does the same in both, as it keeps nothing from one
call to the next (`Value`).

The main statement is `flattening_nested`.
-/

namespace MarkupSpec

open Build Flatten

/-! ## What a group stands for -/

/-- Two worlds are the same, but for what was logged and for what some streams have to give. -/
structure World.AlikeBut (own : Nat → Prop) (world world' : World) : Prop where
  forest : world'.forest = world.forest
  names : world'.names = world.names
  notices : world'.notices = world.notices
  nextId : world'.nextId = world.nextId
  size : world'.streams.size = world.streams.size
  streams : ∀ id, ¬ own id → world'.streams[id]? = world.streams[id]?

/-- In some world a value stands for members: it is absent or holds them, or it is one of some
streams and they are what it still has to give, or it is a function that gives such a value and
does nothing else but log its calls. -/
inductive Stands (world : World) (arguments : List Value) (own : Nat → Prop) :
    Value → List Value → Prop
  | absent {value} : value.isAbsent → Stands world arguments own value []
  | list {ys} : Stands world arguments own (.list ys) ys
  | tuple {ys} : Stands world arguments own (.tuple ys) ys
  | stream {id ys} : own id → world.streams[id]? = some ys → Stands world arguments own (.stream id) ys
  | returned {callee value ys} : (∀ start : World, start.names = world.names →
      ∃ calls, callee.call arguments start = .ok value { start with calls }) →
      Stands world arguments own value ys → Stands world arguments own (.function callee) ys

/-- Two worlds agree within a reach, and about all other streams but some, of which the first world
still has something given. -/
inductive Beside (reach : Reach) (names : List (String × Value)) (own : Nat → Prop)
    (left : Nat → Option (List Value)) : World → World → Prop
  | of {world world'} (lead : Lead) : lead.reach = reach → lead.names = names → lead.ids = 0 →
      lead.streams = 0 → (∀ id, own id → ¬ lead.since.stream id ∧ lead.aside id = left id) →
      (∀ id, ¬ own id → lead.aside' id = lead.aside id) → lead.Holds world world' →
      Beside reach names own left world world'

namespace Beside

variable {reach : Reach} {names : List (String × Value)} {own : Nat → Prop}
  {left : Nat → Option (List Value)} {world world' : World}

theorem names_eq (beside : Beside reach names own left world world') : world.names = names := by
  cases beside with
  | of lead _ isNames _ _ _ _ holds => exact holds.names.trans isNames

theorem left_eq (beside : Beside reach names own left world world') {id : Nat} (isOwn : own id) :
    world.streams[id]? = left id := by
  cases beside with
  | of lead _ _ _ _ apart _ holds =>
      obtain ⟨outOfReach, isLeft⟩ := apart id isOwn
      exact (holds.rest id outOfReach).trans isLeft

/-- The first world may log calls. -/
theorem log (beside : Beside reach names own left world world') (calls : Array Call) :
    Beside reach names own left { world with calls } world' := by
  cases beside with
  | of lead isReach isNames ids streams apart others holds =>
      exact .of lead isReach isNames ids streams apart others { holds with }

/-- The first world may change what is left of the streams that are its own. -/
theorem setRemaining (beside : Beside reach names own left world world') {id : Nat} (isOwn : own id)
    {old : List Value} (there : left id = some old) (items : List Value) :
    Beside reach names own (fun other => if other = id then some items else left other)
      { world with streams := world.streams.modify id fun _ => items } world' := by
  have isThere := (beside.left_eq isOwn).trans there
  cases beside with
  | of lead isReach isNames ids streams apart others holds =>
      refine .of { lead with
        aside := fun other => if other = id then some items else lead.aside other }
        isReach isNames ids streams (fun other isOwn => ⟨(apart other isOwn).1, ?_⟩)
        (fun other notOwn => ?_) ?_
      · dsimp only
        split
        · rfl
        · exact (apart other isOwn).2
      · have isOther : other ≠ id := by
          rintro rfl
          exact notOwn isOwn
        dsimp only
        rw [if_neg isOther]
        exact others other notOwn
      · refine { holds with first := ?_, size := ?_, same := ?_, rest := ?_ }
        · simpa using holds.first
        · simpa using holds.size
        · intro other inReach
          have isOther : id ≠ other := by
            rintro rfl
            exact (apart id isOwn).1 inReach
          simp only [Array.getElem?_modify, if_neg isOther]
          exact holds.same other inReach
        · intro other outOfReach
          dsimp only
          rw [Array.getElem?_modify]
          by_cases same : other = id
          · rw [if_pos same.symm, if_pos same, same, isThere]
            rfl
          · rw [if_neg (Ne.symm same), if_neg same]
            exact holds.rest other outOfReach

/-- Worlds that are beside each other are alike. -/
theorem alikeBut (beside : Beside reach names own left world world') :
    world.AlikeBut own world' := by
  cases beside with
  | of lead _ _ ids streams _ others holds =>
      have sameId (id : Nat) : lead.numbers.id id = id := by simp [Lead.numbers, ids]
      have sameStream (id : Nat) : lead.numbers.stream id = id := by simp [Lead.numbers, streams]
      refine ⟨holds.forest'.trans holds.forest.symm, holds.names'.trans holds.names.symm,
        holds.notices'.trans holds.notices.symm, ?_, ?_, fun id notOwn => ?_⟩
      · simpa [ids] using holds.nextId
      · simpa [streams] using holds.size
      · by_cases inReach : lead.since.stream id
        · obtain ⟨same, within⟩ := holds.same id inReach
          rw [sameStream] at same
          rw [same]
          cases there : world.streams[id]? with
          | none => rfl
          | some items =>
              refine congrArg some ((List.map_congr_left fun item among => ?_).trans (List.map_id' _))
              exact Value.renumbered_of_isWithin (fun id _ => sameId id) (fun id _ => sameStream id)
                (within items there item among)
        · have early : id < lead.first := Nat.lt_of_not_le fun isLater => inReach (.inr isLater)
          rw [holds.rest id inReach, ← others id notOwn]
          exact holds.rest' id (Nat.lt_add_right _ early) fun inReach' => inReach (.inl inReach')

end Beside

section Standing

variable {reach : Reach} {names : List (String × Value)} {own : Nat → Prop}
  {left : Nat → Option (List Value)} {arguments : List Value} {world world' : World}

/-- What is within reach comes to the same text in worlds that are beside each other. -/
theorem beside_flattenWithin
    (given : reach.calls → ∀ argument ∈ arguments, argument.IsWithin reach) (budget : Nat)
    {value : Value} (within : value.IsWithin reach) :
    Echo (exactly (Beside reach names own left)) Eq (flattenWithin (pure arguments) budget value)
      (flattenWithin (pure arguments) budget value) := by
  rintro world world' ⟨lead, rfl, isNames, ids, streams, apart, others, holds⟩
  refine (lead.echo_flattenWithin given budget within world world' holds).weaken ⟨?_, ?_, ?_⟩
  · exact fun _ => id
  · exact fun _ _ => id
  · exact fun _ _ holds => .of lead rfl isNames ids streams apart others holds

theorem beside_words
    (given : reach.calls → ∀ argument ∈ arguments, argument.IsWithin reach) (budget : Nat)
    {values : List Value} (within : ∀ value ∈ values, value.IsWithin reach) :
    Echo (exactly (Beside reach names own left)) Eq (words (flattenWithin (pure arguments) budget) values)
      (words (flattenWithin (pure arguments) budget) values) :=
  echo_words (List.forall₂_same.mpr fun value among =>
    beside_flattenWithin given budget (within value among))

/-- The worlds are beside each other, whatever the first one has left in streams of its own. -/
abbrev BesideAnyhow (reach : Reach) (names : List (String × Value)) (own : Nat → Prop)
    (world world' : World) : Prop :=
  ∃ left, Beside reach names own left world world'

theorem beside_weakens : (exactly (Beside reach names own left)).Weakens
    (exactly (BesideAnyhow reach names own)) :=
  exactly_weakens fun _ _ beside => ⟨left, beside⟩

/-- The items of a stream come to the words that they come to in a list. -/
theorem beside_streamWords
    (given : reach.calls → ∀ argument ∈ arguments, argument.IsWithin reach) (budget : Nat) {id : Nat}
    (isOwn : own id) :
    ∀ (items : List Value) (left : Nat → Option (List Value)) (world world' : World),
      (∀ item ∈ items, item.IsWithin reach) → left id = some items →
      Beside reach names own left world world' →
      Echoes (exactly (BesideAnyhow reach names own)) Eq
        (streamWords (flattenWithin (pure arguments) budget) id items.length world)
        (words (flattenWithin (pure arguments) budget) items world')
  | [], left, _, _, _, _, beside => .ok rfl ⟨left, beside⟩
  | item :: rest, left, world, world', within, isLeft, beside => by
      rw [List.forall_mem_cons] at within
      have isThere := (beside.left_eq isOwn).trans isLeft
      have remains : Build.remaining id world = .ok (item :: rest) world := by
        show EStateM.Result.ok ((world.streams[id]?).getD []) world = _
        rw [isThere, Option.getD_some]
      have takes : takeNext id world = .ok (some item)
          { world with streams := world.streams.modify id fun _ => rest } := by
        unfold takeNext
        rw [bind_run remains]
        rfl
      have after := beside.setRemaining isOwn isLeft rest
      unfold words
      rw [List.length_cons, streamWords, bind_run takes]
      have onItem := beside_flattenWithin given budget within.1 _ _ after
      refine onItem.bind_weaker beside_weakens ?_
      rintro text _ start start' rfl goes
      have onRest := beside_streamWords given budget isOwn rest _ start start' within.2
        (if_pos rfl) goes
      refine onRest.bind fun _ _ _ _ _ _ same goes => ?_
      exact .ok (congrArg (consWord text) same) goes

/-- What stands for members comes to their words. -/
theorem Stands.echoes {start : World} {group : Value} {ys : List Value}
    (stands : Stands start arguments own group ys)
    (given : reach.calls → ∀ argument ∈ arguments, argument.IsWithin reach)
    (within : ∀ y ∈ ys, y.IsWithin reach) :
    ∃ more, ∀ budget world world',
      Beside reach start.names own (fun id => start.streams[id]?) world world' →
      Echoes (exactly (BesideAnyhow reach start.names own)) Stated
        (flattenWithin (pure arguments) (budget + more) group world)
        (words (flattenWithin (pure arguments) budget) ys world') := by
  induction stands with
  | absent isAbsent =>
      refine ⟨1, fun budget world world' beside => ?_⟩
      rw [flattenWithin_of_isAbsent isAbsent]
      exact .ok ⟨rfl, .nil⟩ ⟨_, beside⟩
  | list =>
      refine ⟨1, fun budget world world' beside => ?_⟩
      rw [flattenWithin_list]
      refine stated_of_echoes (fun _ _ => noneEmpty_words) ?_
      exact (beside_words given budget within _ _ beside).weaken beside_weakens
  | tuple =>
      refine ⟨1, fun budget world world' beside => ?_⟩
      rw [flattenWithin_tuple]
      refine stated_of_echoes (fun _ _ => noneEmpty_words) ?_
      exact (beside_words given budget within _ _ beside).weaken beside_weakens
  | @stream id ys isOwn isLeft =>
      refine ⟨1, fun budget world world' beside => ?_⟩
      have isThere := (beside.left_eq isOwn).trans isLeft
      have remains : Build.remaining id world = .ok ys world := by
        show EStateM.Result.ok ((world.streams[id]?).getD []) world = _
        rw [isThere]
        rfl
      rw [flattenWithin_stream, bind_run remains]
      refine stated_of_echoes (fun _ _ => noneEmpty_streamWords) ?_
      exact beside_streamWords given budget isOwn ys _ _ _ within isLeft beside
  | returned returns _ ih =>
      obtain ⟨more, echoes⟩ := ih within
      refine ⟨more + 1, fun budget world world' beside => ?_⟩
      obtain ⟨calls, run⟩ := returns world beside.names_eq
      rw [← Nat.add_assoc, flattenWithin_function, pure_bind, bind_run run]
      exact echoes budget _ _ (beside.log calls)

variable {front back ys : List Value} {group : Value}

/-- A list with a value in it that stands for members is flattened like the list with these members
in its place. -/
theorem flattening_group (covers : reach.Covers world arguments (front ++ (ys ++ back)))
    (apart : ∀ id, own id → id < world.streams.size ∧ ¬ reach.stream id)
    (stands : Stands world arguments own group ys) :
    EndAlike (World.AlikeBut own) (flattening arguments (front ++ group :: back))
      (flattening arguments (front ++ (ys ++ back))) world world := by
  obtain ⟨closed, given, within⟩ := covers
  rw [List.forall_mem_append, List.forall_mem_append] at within
  obtain ⟨onFront, onYs, onBack⟩ := within
  obtain ⟨more, echoes⟩ := stands.echoes given onYs
  have holds := Lead.holds_between closed rfl rfl rfl (Nat.le_refl _) (Nat.le_refl _) fun _ _ => rfl
  have beside : Beside reach world.names own (fun id => world.streams[id]?) world world := by
    refine .of (.between reach world world) rfl rfl (Nat.sub_self _) (Nat.sub_self _)
      (fun id isOwn => ⟨?_, rfl⟩) (fun _ _ => rfl) holds
    rintro (inReach | isLater)
    · exact (apart id isOwn).2 inReach
    · exact absurd (apart id isOwn).1 (Nat.not_lt.mpr isLater)
  refine endAlike_of_echoes more fun budget => ?_
  have alike : Echoes (exactly (BesideAnyhow reach world.names own)) Eq
      (flattening arguments (front ++ group :: back) (budget + more + 1) world)
      (flatteningMixed arguments front ys back more budget world) := by
    refine echoes_nested beside_weakens (beside_words given _ onFront _ _ beside)
      (echoes budget) ?_
    rintro start start' ⟨left, beside⟩
    exact (beside_words given _ onBack _ _ beside).weaken beside_weakens
  exact alike.weaken (exactly_weakens fun _ _ ⟨_, beside⟩ => beside.alikeBut)

end Standing

/-! ## Lists that share no stream -/

/-- A list of values comes to a text, or to nothing. -/
def Gives (arguments items : List Value) (world : World) (text : Option String) : Prop :=
  ∃ after, Ends (flattening arguments items) world (.ok text after)

section Giving

variable {arguments items : List Value} {world after : World} {text : Option String}
  {found : List String}

theorem gives_iff : Gives arguments items world text ↔ ∃ budget found,
    (∃ after, words (flattenWithin (pure arguments) budget) items world = .ok found after) ∧
      text = joinWords found := by
  simp only [Gives, ends_iff_words]
  constructor
  · rintro ⟨after, budget, found, run, joined⟩
    exact ⟨budget, found, ⟨after, run⟩, joined⟩
  · rintro ⟨budget, found, ⟨after, run⟩, joined⟩
    exact ⟨after, budget, found, run, joined⟩

theorem Lead.echo_words (lead : Lead)
    (given : lead.reach.calls → ∀ argument ∈ arguments, argument.IsWithin lead.reach)
    (budget : Nat) (within : ∀ item ∈ items, item.IsWithin lead.reach) :
    Echo lead.likeness Eq (words (flattenWithin (pure arguments) budget) items)
      (words (flattenWithin (pure arguments) budget) items) :=
  MarkupSpec.echo_words (List.forall₂_same.mpr fun item among =>
    lead.echo_flattenWithin given budget (within item among))

variable {reach other : Reach}

/-- What is within one reach comes to its words in a world that agrees with a later one about another
reach, as long as no stream is within both. -/
theorem holds_after_words (covers : reach.Covers world arguments items)
    (closed : world.IsClosed other) (apart : ∀ id, reach.stream id → ¬ other.stream id) {budget : Nat}
    (run : words (flattenWithin (pure arguments) budget) items world = .ok found after) :
    (Lead.between other world after).Holds world after := by
  let lead := Lead.between reach world world
  have start : lead.Holds world world :=
    Lead.holds_between covers.closed rfl rfl rfl (Nat.le_refl _) (Nat.le_refl _) fun _ _ => rfl
  have echoes := lead.echo_words covers.given budget covers.within world world start
  rw [run] at echoes
  obtain ⟨_, _, -, -, holds⟩ := echoes.of_ok
  refine Lead.holds_between closed holds.forest holds.names holds.notices holds.bound holds.first ?_
  intro id inOther
  refine holds.rest id ?_
  rintro (inReach | isLater)
  · exact apart id inReach inOther
  · exact absurd (closed.made id inOther) (Nat.not_lt.mpr isLater)

/-- Values within a reach come to the same words in a world and in a later one that agrees with it. -/
theorem words_later {later : World} (covers : other.Covers world arguments items)
    (holds : (Lead.between other world later).Holds world later) (budget : Nat) :
    (∃ after, words (flattenWithin (pure arguments) budget) items world = .ok found after) ↔
      ∃ after, words (flattenWithin (pure arguments) budget) items later = .ok found after := by
  have echoes := (Lead.between other world later).echo_words covers.given budget covers.within _ _ holds
  generalize words (flattenWithin (pure arguments) budget) items world = outcome at echoes ⊢
  generalize words (flattenWithin (pure arguments) budget) items later = outcome' at echoes ⊢
  cases echoes with
  | ok same => simp [same]
  | failed => simp
  | excused excuse => exact excuse.elim

/-- Two lists that share no stream come, one after the other in one list, to the texts that each of
them comes to by itself. -/
theorem gives_append {xs ys : List Value} (covers : reach.Covers world arguments xs)
    (covers' : other.Covers world arguments ys) (apart : ∀ id, reach.stream id → ¬ other.stream id) :
    Gives arguments (xs ++ ys) world text ↔ ∃ first second,
      Gives arguments xs world first ∧ Gives arguments ys world second ∧
        text = joinTexts first second := by
  simp only [gives_iff]
  constructor
  · rintro ⟨budget, found, ⟨after, run⟩, rfl⟩
    obtain ⟨front, middle, back, onFirst, onSecond, rfl⟩ := words_append_eq_ok.mp run
    have holds := holds_after_words covers covers'.closed apart onFirst
    have alone := (words_later covers' holds budget).mpr ⟨after, onSecond⟩
    exact ⟨_, _, ⟨budget, front, ⟨middle, onFirst⟩, rfl⟩, ⟨budget, back, alone, rfl⟩,
      joinWords_append front back⟩
  · rintro ⟨_, _, ⟨budget, front, ⟨middle, onFirst⟩, rfl⟩, ⟨budget', back, ⟨after, onSecond⟩, rfl⟩, rfl⟩
    have onFirst := words_more (Nat.le_max_left budget budget') onFirst
    have onSecond := words_more (Nat.le_max_right budget budget') onSecond
    have holds := holds_after_words covers covers'.closed apart onFirst
    obtain ⟨last, onSecond⟩ := (words_later covers' holds _).mp ⟨after, onSecond⟩
    exact ⟨_, _, ⟨last, words_append_eq_ok.mpr ⟨front, middle, back, onFirst, onSecond, rfl⟩⟩,
      (joinWords_append front back).symm⟩

theorem gives_of_endAlike {states : World → World → Prop} {items' : List Value} {world' : World}
    (alike : EndAlike states (flattening arguments items) (flattening arguments items') world world') :
    Gives arguments items world text ↔ Gives arguments items' world' text := by
  constructor
  · rintro ⟨after, ends⟩
    obtain ⟨_, ends', same⟩ := alike.forth _ ends
    cases same with
    | ok same => exact ⟨_, same ▸ ends'⟩
  · rintro ⟨after, ends⟩
    obtain ⟨_, ends', same⟩ := alike.back _ ends
    cases same with
    | ok same => exact ⟨_, same ▸ ends'⟩
    | excused excuse => exact excuse.elim

/-- The second world is the first one with some more functions, things and streams, and calls. -/
structure World.Makes (world made : World) : Prop where
  forest : made.forest = world.forest
  names : made.names = world.names
  notices : made.notices = world.notices
  nextId : world.nextId ≤ made.nextId
  streams : ∃ more, made.streams = world.streams ++ more

theorem World.Makes.stream_eq {made : World} (makes : world.Makes made) {id : Nat}
    (early : id < world.streams.size) : made.streams[id]? = world.streams[id]? := by
  obtain ⟨more, streams⟩ := makes.streams
  rw [streams, Array.getElem?_append_left early]

theorem World.Makes.size_le {made : World} (makes : world.Makes made) :
    world.streams.size ≤ made.streams.size := by
  obtain ⟨more, streams⟩ := makes.streams
  rw [streams, Array.size_append]
  exact Nat.le_add_right _ _

/-- What is within reach in a world is so in one where more was made. -/
theorem Reach.Covers.made {made : World} (covers : reach.Covers world arguments items)
    (makes : world.Makes made) : reach.Covers made arguments items where
  closed := {
    ids := fun id inReach => Nat.lt_of_lt_of_le (covers.closed.ids id inReach) makes.nextId
    made := fun id inReach => Nat.lt_of_lt_of_le (covers.closed.made id inReach) makes.size_le
    streams := fun id items inReach there =>
      covers.closed.streams id items inReach (makes.stream_eq (covers.closed.made id inReach) ▸ there)
    names := fun name value inReach found =>
      covers.closed.names name value inReach (makes.names ▸ found) }
  given := covers.given
  within := covers.within

/-- A function that is called in a world makes a value which stands for members: a list or a tuple of
them, or a new stream. -/
def Function.Yields (callee : Function) (world : World) (arguments ys : List Value) : Prop :=
  ∃ value made own, callee.call arguments world = .ok value made ∧ world.Makes made ∧
    (∀ id, own id → world.streams.size ≤ id ∧ id < made.streams.size) ∧
    Stands made arguments own value ys

/-- A function that yields members comes to their text. -/
theorem gives_call {callee : Function} (yields : callee.Yields world arguments items)
    (covers : reach.Covers world arguments items) :
    Gives arguments [.function callee] world text ↔ Gives arguments items world text := by
  obtain ⟨value, made, own, call, makes, fresh, stands⟩ := yields
  have covers' := covers.made makes
  have apart (id : Nat) (isOwn : own id) : id < made.streams.size ∧ ¬ reach.stream id :=
    ⟨(fresh id isOwn).2, fun inReach =>
      absurd (covers.closed.made id inReach) (Nat.not_lt.mpr (fresh id isOwn).1)⟩
  have asGroup : Gives arguments [value] made text ↔ Gives arguments items made text := by
    have covers'' : reach.Covers made arguments ([] ++ (items ++ [])) := by simpa using covers'
    simpa using gives_of_endAlike (flattening_group covers'' apart stands)
  have holds : (Lead.between reach world made).Holds world made :=
    Lead.holds_between covers.closed makes.forest makes.names makes.notices makes.nextId
      makes.size_le fun id inReach => makes.stream_eq (covers.closed.made id inReach)
  have again : Gives arguments items world text ↔ Gives arguments items made text := by
    simp only [gives_iff, words_later covers holds]
  have called : Gives arguments [.function callee] world text ↔ Gives arguments [value] made text := by
    have same (budget : Nat) : words (flattenWithin (pure arguments) (budget + 1)) [.function callee]
        world = words (flattenWithin (pure arguments) budget) [value] made := by
      unfold words
      rw [flattenWithin_function, pure_bind, bind_assoc, bind_run call]
      rfl
    simp only [gives_iff]
    constructor
    · rintro ⟨budget, found, ⟨after, run⟩, joined⟩
      cases budget with
      | zero => cases run
      | succ budget => exact ⟨budget, found, ⟨after, same budget ▸ run⟩, joined⟩
    · rintro ⟨budget, found, ⟨after, run⟩, joined⟩
      exact ⟨budget + 1, found, ⟨after, (same budget).trans run⟩, joined⟩
  exact called.trans (asGroup.trans again.symm)

/-- What comes to the text of some values may stand in their place, where no streams are shared. -/
theorem gives_replaced {third : Reach} {xs ys zs : List Value} {group : Value}
    (same : ∀ text, Gives arguments [group] world text ↔ Gives arguments ys world text)
    (covers : reach.Covers world arguments xs) (covers' : other.Covers world arguments (group :: ys))
    (covers'' : third.Covers world arguments zs)
    (apart : ∀ id, reach.stream id → ¬ other.stream id ∧ ¬ third.stream id)
    (apart' : ∀ id, other.stream id → ¬ third.stream id) :
    Gives arguments (xs ++ group :: zs) world text ↔ Gives arguments (xs ++ (ys ++ zs)) world text := by
  have onGroup : other.Covers world arguments [group] := covers'.mono (by simp)
  have onYs : other.Covers world arguments ys := covers'.mono fun _ => List.mem_cons_of_mem _
  have apartBoth (id : Nat) (inReach : reach.stream id) : ¬ (other.either third).stream id :=
    fun inEither => inEither.elim (apart id inReach).1 (apart id inReach).2
  have behind (text : Option String) :
      Gives arguments ([group] ++ zs) world text ↔ Gives arguments (ys ++ zs) world text := by
    rw [gives_append onGroup covers'' apart', gives_append onYs covers'' apart']
    simp only [same]
  rw [← List.singleton_append, gives_append covers (onGroup.append covers'') apartBoth,
    gives_append covers (onYs.append covers'') apartBoth]
  simp only [behind]

end Giving

/-! ## Nesting does not matter -/

/-- Flattening does not see how sequences are nested.

* A list or a tuple in a list is flattened like its members in its place.
* So is a stream, which nothing else reaches, and a function that gives a list, a tuple or such a
  stream and does nothing else.  Where no streams are shared, the function may make what it gives.
* Two lists come to their two texts with a blank between them, or to the one of them that is there,
  if they are flattened one after the other.  So they do if each of them is flattened by itself and
  they share no stream, where functions reach the arguments too.
* Lists and tuples may be taken apart and absent values dropped at every depth, and what remains
  comes to the texts of its values that are not empty, with a blank between each two. -/
theorem flattening_nested (arguments xs ys zs : List Value) (world : World) :
    (∀ group outcome, group = .list ys ∨ group = .tuple ys →
      (Ends (flattening arguments (xs ++ group :: zs)) world outcome ↔
        Ends (flattening arguments (xs ++ (ys ++ zs))) world outcome)) ∧
    (∀ (reach : Reach) (own : Nat → Prop) (group : Value),
      reach.Covers world arguments (xs ++ (ys ++ zs)) →
      (∀ id, own id → id < world.streams.size ∧ ¬ reach.stream id) →
      Stands world arguments own group ys →
      EndAlike (World.AlikeBut own) (flattening arguments (xs ++ group :: zs))
        (flattening arguments (xs ++ (ys ++ zs))) world world) ∧
    (∀ (reach other third : Reach) (callee : Function) (text : Option String),
      callee.Yields world arguments ys → reach.Covers world arguments xs →
      other.Covers world arguments (.function callee :: ys) → third.Covers world arguments zs →
      (∀ id, reach.stream id → ¬ other.stream id ∧ ¬ third.stream id) →
      (∀ id, other.stream id → ¬ third.stream id) →
      (Gives arguments (xs ++ .function callee :: zs) world text ↔
        Gives arguments (xs ++ (ys ++ zs)) world text)) ∧
    (∀ budget, flattening arguments (xs ++ ys) budget =
      (do
        let first ← flattening arguments xs budget
        let second ← flattening arguments ys budget
        return joinTexts first second)) ∧
    (∀ (reach other : Reach) (text : Option String), reach.Covers world arguments xs →
      other.Covers world arguments ys → (∀ id, reach.stream id → ¬ other.stream id) →
      (Gives arguments (xs ++ ys) world text ↔ ∃ first second,
        Gives arguments xs world first ∧ Gives arguments ys world second ∧
          text = joinTexts first second)) ∧
    (∀ outcome, Ends (flattening arguments xs) world outcome ↔
      Ends (flattening arguments (Value.leavesAll xs)) world outcome) ∧
    ∀ text after, Ends (flattening arguments xs) world (.ok text after) ↔
      ∃ found, Tells arguments (Value.leavesAll xs) world found after ∧ text = joinWords found := by
  have leaves (outcome : EStateM.Result Failure World (Option String)) :
      Ends (flattening arguments xs) world outcome ↔
        Ends (flattening arguments (Value.leavesAll xs)) world outcome := by
    simpa using flattening_leavesAll xs [] []
  refine ⟨?_, ?_, ?_, flattening_append arguments xs ys, ?_, leaves, fun text after =>
    (leaves _).trans ends_iff_tells⟩
  · rintro group outcome (isList | isTuple)
    · exact flattening_held (.inl isList) world outcome
    · exact flattening_held (.inr (.inl isTuple)) world outcome
  · intro reach own group covers apart stands
    exact flattening_group covers apart stands
  · intro reach other third callee text yields covers covers' covers'' apart apart'
    have onYs : other.Covers world arguments ys := covers'.mono fun _ => List.mem_cons_of_mem _
    exact gives_replaced (fun _ => gives_call yields onYs) covers covers' covers'' apart apart'
  · intro reach other text covers covers' apart
    exact gives_append covers covers' apart

/-- A function that gives a stream by its name. -/
def dispenser : Value := .function { id := 0, label := some "d", body := .named "it" [] }

/-- A function that makes a stream whenever it is called. -/
def maker : Function := { id := 0, label := none, body := .stream [.text "b"] }

/-- A world with the named stream. -/
def dispensary : World :=
  { streams := #[[.text "b", .text ""]], nextId := 1, names := [("it", .stream 0)] }

/-- Texts are within any reach. -/
theorem covers_texts (world : World) (arguments : List Value) (texts : List String) :
    Reach.Covers ⟨fun _ => False, fun _ => False, fun _ => False, False⟩ world arguments
      (texts.map .text) where
  closed := ⟨nofun, nofun, nofun, nofun⟩
  given := nofun
  within := by
    intro value among
    obtain ⟨_, -, rfl⟩ := List.mem_map.mp among
    exact .text

theorem covers_maker :
    Reach.Covers ⟨(· = 0), fun _ => False, fun _ => False, True⟩ dispensary []
      [.function maker, .text "b"] where
  closed := ⟨by rintro _ rfl; decide, nofun, nofun, nofun⟩
  given := by simp
  within := by
    have takes : maker.body.Takes fun _ => False := by
      refine .of nofun fun part among => ?_
      obtain rfl := List.mem_singleton.mp among
      exact .of nofun nofun
    simp only [List.forall_mem_cons]
    exact ⟨.function trivial rfl takes, .text, List.forall_mem_nil _⟩

theorem maker_yields : maker.Yields dispensary [] [.text "b"] := by
  refine ⟨.stream 1, { dispensary with streams := dispensary.streams.push [.text "b"] }, (· = 1),
    rfl, ⟨rfl, rfl, rfl, Nat.le_refl _, #[[.text "b"]], rfl⟩, ?_, .stream rfl rfl⟩
  rintro _ rfl
  decide

/-- The items of a stream are taken between two texts, whether a function gives it or makes it. -/
theorem flattening_nested_dispenser :
    EndAlike (World.AlikeBut (· = 0)) (flattening [.stream 0] [.text "a", dispenser, .text "c"])
      (flattening [.stream 0] [.text "a", .text "b", .text "", .text "c"]) dispensary dispensary ∧
    (∃ after, Ends (flattening [.stream 0] [.text "a", dispenser, .text "c"]) dispensary
      (.ok (some "a b c") after)) ∧
    Gives [] [.text "a", .function maker, .text "c"] dispensary (some "a b c") ∧
    Gives [.stream 0] [.text "a", .text "b"] dispensary (some "a b") := by
  have nested := flattening_nested [.stream 0] [.text "a"] [.text "b", .text ""] [.text "c"] dispensary
  have stands : Stands dispensary [.stream 0] (· = 0) dispenser [.text "b", .text ""] := by
    refine .returned (fun start names => ?_) (.stream rfl rfl)
    exact call_named rfl (by rw [names]; rfl) _
  have alike := nested.2.1 _ (· = 0) dispenser
    (covers_texts dispensary [.stream 0] ["a", "b", "", "c"])
    (by rintro _ rfl; exact ⟨by decide, id⟩) stands
  refine ⟨alike, ?_, ?_, ?_⟩
  · obtain ⟨outcome, ends, same⟩ := alike.back (.ok (some "a b c") dispensary) ⟨2, rfl, nofun⟩
    cases same with
    | ok same => exact ⟨_, same ▸ ends⟩
    | excused excuse => exact excuse.elim
  · have made := flattening_nested [] [.text "a"] [.text "b"] [.text "c"] dispensary
    refine (made.2.2.1 _ _ _ maker _ maker_yields (covers_texts _ _ ["a"]) covers_maker
      (covers_texts _ _ ["c"]) nofun nofun).mpr ?_
    exact ⟨dispensary, 2, rfl, nofun⟩
  · have joined := flattening_nested [.stream 0] [.text "a"] [.text "b"] [] dispensary
    refine (joined.2.2.2.2.1 _ _ _ (covers_texts _ _ ["a"]) (covers_texts _ _ ["b"]) nofun).mpr ?_
    exact ⟨some "a", some "b", ⟨dispensary, 2, rfl, nofun⟩, ⟨dispensary, 2, rfl, nofun⟩, rfl⟩

/-- A function that gives its first argument. -/
def echoing : Value := .function { id := 0, label := none, body := .argument 0 }

/-- A world with a stream of one item. -/
def stocked : World := { streams := #[[.text "a"]], nextId := 1 }

/-- Where functions reach a stream by way of the arguments, it is given to the first of them.  Then a
stream is not flattened like its items in its place, and two lists do not come to their two texts,
though no stream is in both of them. -/
theorem flattening_shared :
    echoing.IsWithin ⟨fun _ => True, fun _ => False, fun _ => False, True⟩ ∧
    Stands stocked [.stream 0] (· = 0) (.stream 0) [.text "a"] ∧
    endsIn (flatten [.stream 0] (.list [echoing, .stream 0])) stocked
      (fun text _ => text = some "a") (fun _ _ => False) ∧
    endsIn (flatten [.stream 0] (.list [echoing, .text "a"])) stocked
      (fun text _ => text = some "a a") (fun _ _ => False) ∧
    endsIn (flatten [.stream 0] (.list [echoing])) stocked
      (fun text _ => text = some "a") (fun _ _ => False) ∧
    endsIn (flatten [.stream 0] (.list [echoing, echoing])) stocked
      (fun text _ => text ≠ joinTexts (some "a") (some "a")) (fun _ _ => False) := by
  refine ⟨.function trivial trivial (.of nofun nofun), .stream rfl rfl, ?_⟩
  decide +kernel

end MarkupSpec
