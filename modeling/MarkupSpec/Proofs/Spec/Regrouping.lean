import MarkupSpec.Proofs.Build.Concatenation

/-!
# Members that are grouped in another way

Two specs are *regrouped* from one another if runs of members are gathered in one or the other:
in a list, a tuple or a range in their place, or in a function that gives it, at any depth and
in any number of places; and if parts of them are wrapped in functions that give them
(`Regrouped`).  The relation goes along with how values are read: what is grouped in another
way are the members of a sequence and the children of an element (`RegroupedSpec`), in
whatever form a map or a list may have them.  Streams that are set aside have members that are
grouped in another way too.

Regrouped specs are built alike at places that match, once the second build has a few more
steps to nest (`Regrouped.followed`).  The proof is by induction on the relation, for values,
for what they are read as and for members at once.  It comes down to two facts.  Under a node,
the members that a value holds are built like members in its place (`Gathers.likewise_left`,
`Gathers.likewise_right`), since they go under the same node with namespaces from the same
one.  And neither the way to a part nor its depth matters for what it is built to, as long as
there is no limit.
-/

namespace MarkupSpec

open Build

/-! ## How values are read -/

section Readings

variable {settings : Settings} {entries : Entries} {slot key name : Value} {children : List Value}

/-- The value is read as the spec, and nothing else happens. -/
def Value.IsReadAs (settings : Settings) (value : Value) (spec : Spec) : Prop :=
  ∀ path, parse settings path value = pure (some spec)

/-- The value is read as what the reader makes of all that a stream has left. -/
def Value.IsReadFrom (settings : Settings) (value : Value) (id : Nat)
    (reader : List Value → Spec) : Prop :=
  ∀ path, parse settings path value = (fun items => some (reader items)) <$> drain id

theorem isReadAs_sequence {value : Value} {items : List Value} (held : value.held? = some items)
    (some : items ≠ []) : value.IsReadAs settings (.sequence items) := by
  intro path
  rw [parse_held held, if_neg (by simpa using some)]

theorem absent_of_isAbsent {value : Value} (isAbsent : value.isAbsent) : absent value = pure true := by
  have isCountable : value.isCountable := by
    cases value with
    | range start stop step =>
        simp only [Value.isAbsent, beq_iff_eq] at isAbsent
        simp [Value.isCountable, isAbsent]
    | _ => rfl
  rw [absent, if_pos isCountable, isAbsent]

theorem absent_map (isThere : entries ≠ []) : absent (.map entries) = pure false := by
  cases entries with
  | nil => exact absurd rfl isThere
  | cons => rfl

/-- Where there is no explicit slot the entry of null is missing or absent. -/
theorem absent_of_explicitSlot? (none : explicitSlot? entries = none) :
    absent ((Value.lookup .null entries).getD .null) = pure true := by
  unfold explicitSlot? at none
  cases found : Value.lookup .null entries with
  | none => rfl
  | some slot =>
      rw [found, Option.filter_eq_none_iff] at none
      exact absent_of_isAbsent (by simpa using none slot rfl)

/-- A map with a slot that holds a name and children is read as what they say. -/
theorem isReadAs_explicit (found : explicitSlot? entries = some slot)
    (held : slot.held? = some (name :: children)) :
    (Value.map entries).IsReadAs settings
      (.ofNamed settings.marker name children (attributesOf settings.marker entries)) := by
  intro path
  obtain ⟨isSequence, gives⟩ := members_held held
  have slots : nameSlot settings.marker entries = .explicit slot := by
    unfold nameSlot
    rw [found]
  have looked : Value.lookup .null entries = some slot := (Option.filter_eq_some_iff.mp found).1
  have isThere : entries ≠ [] := by
    rintro rfl
    cases looked
  simp only [parse, absent_map isThere, parseMap, looked, Option.getD_some, absent_held held, slots,
    readExplicit, isSequence, gives, pure_bind, map_pure, discard, Functor.discard, if_true,
    Functor.mapConst, bind_pure_comp, Function.comp]
  rfl

/-- A map with one key that holds children is read as an element with these, or as what its name
says. -/
theorem isReadAs_compact (none : explicitSlot? entries = none)
    (only : compactEntries entries = [(key, name)]) :
    (Value.map entries).IsReadAs settings
      (.ofNamed settings.marker name (compactChildren key) (attributesOf settings.marker entries)) := by
  intro path
  have slots : nameSlot settings.marker entries = .compact key name := by
    unfold nameSlot
    rw [none, only]
  have isThere : entries ≠ [] := by
    rintro rfl
    cases only
  simp only [parse, absent_map isThere, parseMap, absent_of_explicitSlot? none, slots, pure_bind,
    discard, Functor.discard, Functor.mapConst, Function.comp]
  rfl

end Readings

/-! ## The relation -/

/-- The value holds the run of members, or is a function that gives one that does. -/
inductive Gathers (terms : Terms) (given : List Value) : Value → List Value → Prop
  | held {value run} : value.held? = some run → Gathers terms given value run
  | returned {function value run} : Idle terms (function.call given) value →
      Gathers terms given value run → Gathers terms given (.function function) run

section Relation

variable (terms : Terms) (settings : Settings) (given : List Value)

mutual

/-- Two specs that differ in how members are grouped and in what is wrapped in functions. -/
inductive Regrouped : Value → Value → Prop
  /-- Nothing differs. -/
  | same {value} : value.isClear terms → Regrouped value value
  /-- What the values are read as is regrouped. -/
  | read {value value' spec spec'} : value.IsReadAs settings spec →
      value'.IsReadAs settings spec' → RegroupedSpec spec spec' → Regrouped value value'
  /-- What a value is read as from a stream that is set aside is regrouped. -/
  | drained {value id items items' reader} : terms.aside id = some (items, items') →
      value.IsReadFrom settings id reader → (reader []).IsClear terms →
      RegroupedSpec (reader items) (reader items') → Regrouped value value
  /-- The second spec is wrapped in a function that gives it. -/
  | wrapped {value value' function} : Regrouped value value' →
      Idle terms (function.call given) value' → Regrouped value (.function function)
  /-- The first spec is wrapped in a function that gives it. -/
  | unwrapped {value value' function} : Idle terms (function.call given) value →
      Regrouped value value' → Regrouped (.function function) value'

/-- Sequences with members and elements with children that are grouped in another way. -/
inductive RegroupedSpec : Spec → Spec → Prop
  | sequence {items items'} : RegroupedAll items items' →
      RegroupedSpec (.sequence items) (.sequence items')
  | element {name attributes children children'} : name.isClear terms →
      (∀ entry ∈ attributes, entry.2.isClear terms) → RegroupedAll children children' →
      RegroupedSpec (.element name attributes children) (.element name attributes children')

/-- Members that are grouped in another way. -/
inductive RegroupedAll : List Value → List Value → Prop
  | nil : RegroupedAll [] []
  | cons {item item' rest rest'} : Regrouped item item' → RegroupedAll rest rest' →
      RegroupedAll (item :: rest) (item' :: rest')
  /-- A run of the first members is gathered in one of the second. -/
  | gathered {run run' group rest rest'} : Gathers terms given group run' →
      RegroupedAll run run' → RegroupedAll rest rest' →
      RegroupedAll (run ++ rest) (group :: rest')
  /-- A run of the second members is gathered in one of the first. -/
  | scattered {run run' group rest rest'} : Gathers terms given group run →
      RegroupedAll run run' → RegroupedAll rest rest' →
      RegroupedAll (group :: rest) (run' ++ rest')

end

end Relation

/-! ## Members in the place of a group -/

section Groups

variable {terms : Terms} {scene : Scene} {place place' : Place}

theorem Place.Matches.trans {third : Place} (onFirst : place.Matches terms place')
    (onSecond : place'.Matches terms third) : place.Matches terms third :=
  ⟨onSecond.target.trans onFirst.target, onSecond.pseudo.trans onFirst.pseudo,
    onSecond.anchor.trans onFirst.anchor,
    fun levelled => (onSecond.depth levelled).trans (onFirst.depth levelled)⟩

/-- Where depths do not count, a place matches itself further down. -/
theorem Place.matches_deeper (free : ¬ terms.levelled) (place : Place) (segment : String) :
    place.Matches terms (place.deeper segment) :=
  ⟨rfl, rfl, rfl, fun levelled => absurd levelled free⟩

theorem Place.deeper_matches (free : ¬ terms.levelled) (place : Place) (segment : String) :
    (place.deeper segment).Matches terms place :=
  ⟨rfl, rfl, rfl, fun levelled => absurd levelled free⟩

theorem Place.Matches.isInside (matching : place.Matches terms place') (isInside : place.Inside) :
    place'.Inside where
  isUnder := matching.target ▸ isInside.isUnder
  pseudo := matching.pseudo ▸ isInside.pseudo

theorem Place.Inside.deeper (isInside : place.Inside) (segment : String) :
    (place.deeper segment).Inside :=
  ⟨isInside.isUnder, isInside.pseudo⟩

theorem Place.Matches.opened (matching : place.Matches terms place') :
    place.opened.Matches terms place'.opened := by
  unfold Place.opened
  rw [matching.target, matching.pseudo]
  exact ⟨rfl, rfl, matching.anchor, matching.depth⟩

/-- Further down in a sequence the members have the place of the sequence. -/
theorem Place.Inside.opened (isInside : place.Inside) : place.opened = place := by
  obtain ⟨pseudo, isPseudo⟩ := Option.isSome_iff_exists.mp isInside.pseudo
  unfold Place.opened
  rw [isPseudo, Option.getD_some, ← isPseudo]

/-- Builds without a limit that are compared without regard to how deep places are. -/
structure Loose (terms : Terms) (scene : Scene) : Prop where
  free : ¬ terms.levelled
  deep : terms.mayBeDeep
  noLimit : scene.settings.maxDepth = none
  given : AreClear terms scene.arguments

theorem Loose.admits (loose : Loose terms scene) (depth : Nat) : scene.settings.Admits depth := by
  intro limit isLimit
  rw [loose.noLimit] at isLimit
  cases isLimit

/-- A function that does nothing but give a value is built as the value. -/
theorem comesTo_call {function : Function} {value : Value}
    (admits : scene.settings.Admits place.depth)
    (gives : Idle terms (function.call scene.arguments) value) (budget : Nat) :
    ComesTo terms (buildWithin scene (budget + 1) (.function function) place)
      (buildWithin scene budget value (place.deeper "()")) := by
  have reads : Idle terms (parse scene.settings place.path (.function function))
      (some (.callable function)) := idle_pure _
  refine (comesTo_buildSpec admits reads budget).trans ?_
  exact gives.comesTo fun value => buildWithin scene budget value (place.deeper "()")

variable {group : Value} {run : List Value} {other : Build (Option NodeId)}
  (loose : Loose terms scene)

include loose

/-- A build that has used up its budget goes like anything. -/
theorem Loose.likewise_exhausted :
    Likewise terms.likeness Anything (throw .exhausted : Build (Option NodeId)) other := by
  refine Echo.excused ?_ other
  exact ⟨loose.free, rfl⟩

/-- A group is built like anything that the members in its place are built like. -/
theorem Gathers.likewise_left (gathers : Gathers terms scene.arguments group run) :
    ∀ (budget : Nat) (place : Place), place.Inside →
      (∀ (below : Nat) (inside : Place), below < budget → inside.Inside →
        inside.Matches terms place →
        Likewise terms.likeness Anything (buildMembers (buildWithin scene below) inside 0 none run)
          other) →
      Likewise terms.likeness Anything (buildWithin scene budget group place) other := by
  induction gathers with
  | held held =>
      intro budget place isInside members
      cases budget with
      | zero => exact loose.likewise_exhausted
      | succ budget =>
          have admits := loose.admits place.depth
          have opens : ComesTo terms _ _ := comesTo_buildMembers held isInside.isUnder admits budget
          rw [isInside.opened] at opens
          exact opens.likewise_left
            (members budget place (Nat.lt_succ_self _) isInside (.refl place))
  | returned gives _ ih =>
      intro budget place isInside members
      cases budget with
      | zero => exact loose.likewise_exhausted
      | succ budget =>
          have admits := loose.admits place.depth
          refine (comesTo_call admits gives budget).likewise_left ?_
          refine ih budget (place.deeper "()") (isInside.deeper _) ?_
          intro below inside less isIn matching
          exact members below inside (Nat.lt_succ_of_lt less) isIn
            (matching.trans (place.deeper_matches loose.free _))

/-- What is built like the members in the place of a group is built like the group, given a few
more steps to nest. -/
theorem Gathers.likewise_right (gathers : Gathers terms scene.arguments group run) :
    ∃ extra, ∀ (other : Build (Option NodeId)) (budget : Nat) (place : Place), place.Inside →
      (∀ inside : Place, inside.Inside → place.Matches terms inside →
        Likewise terms.likeness Anything other
          (buildMembers (buildWithin scene budget) inside 0 none run)) →
      Likewise terms.likeness Anything other (buildWithin scene (budget + extra) group place) := by
  induction gathers with
  | held held =>
      refine ⟨1, fun other budget place isInside members => ?_⟩
      have admits := loose.admits place.depth
      have opens : ComesTo terms _ _ := comesTo_buildMembers held isInside.isUnder admits budget
      rw [isInside.opened] at opens
      exact opens.likewise_right (members place isInside (.refl place))
  | returned gives _ ih =>
      obtain ⟨extra, follows⟩ := ih
      refine ⟨extra + 1, fun other budget place isInside members => ?_⟩
      have admits := loose.admits place.depth
      refine (comesTo_call admits gives (budget + extra)).likewise_right ?_
      refine follows other budget (place.deeper "()") (isInside.deeper _) fun inside isIn matching => ?_
      exact members inside isIn ((place.matches_deeper loose.free _).trans matching)

end Groups

/-! ## Regrouped specs are built alike -/

/-- The second value is built like the first one, given some more steps to nest. -/
def Followed (terms : Terms) (scene : Scene) (value value' : Value) : Prop :=
  ∃ extra, ∀ budget budget', budget + extra ≤ budget' →
    ∀ place place' : Place, place.Matches terms place' →
      Likewise terms.likeness Anything (buildWithin scene budget value place)
        (buildWithin scene budget' value' place')

/-- So is what the second value was read as. -/
def SpecFollowed (terms : Terms) (scene : Scene) (spec spec' : Spec) : Prop :=
  ∃ extra, ∀ budget budget', budget + extra ≤ budget' →
    ∀ place place' : Place, place.Matches terms place' →
      Likewise terms.likeness Anything (buildSpec scene (buildWithin scene budget) place spec)
        (buildSpec scene (buildWithin scene budget') place' spec')

/-- So are the second members in a sequence. -/
def AllFollowed (terms : Terms) (scene : Scene) (items items' : List Value) : Prop :=
  ∃ extra, ∀ budget budget', budget + extra ≤ budget' →
    ∀ place place' : Place, place.Inside → place.Matches terms place' →
      ∀ index index', Likewise terms.likeness Anything
        (buildMembers (buildWithin scene budget) place index none items)
        (buildMembers (buildWithin scene budget') place' index' none items')

section Builds

variable {terms : Terms} {scene : Scene}

/-- Members that come after something are built alike if they are on their own. -/
theorem Likewise.thenMembers {below below' : Builder} {place place' : Place}
    {step step' : Build (Option NodeId)} {items items' : List Value} {index index' : Nat}
    (onFirst : Likewise terms.likeness Anything step step')
    (onRest : Likewise terms.likeness Anything (buildMembers below place index none items)
      (buildMembers below' place' index' none items')) :
    Likewise terms.likeness Anything
      (step >>= fun last => buildMembers below place index last items)
      (step' >>= fun last => buildMembers below' place' index' last items') := by
  refine onFirst.bind fun last _ => ?_
  rw [buildMembers_last place items index last, buildMembers_last place' items' index' last,
    ← bind_pure_comp, ← bind_pure_comp]
  exact onRest.bind fun _ _ => likewise_pure trivial

/-- The first of some members is built before the others. -/
theorem buildMembers_cons (below : Builder) (place : Place) (index : Nat) (item : Value)
    (rest : List Value) : buildMembers below place index none (item :: rest) = (do
      let last ← below item (place.deeper (memberSegment index))
      buildMembers below place (index + 1) last rest) := by
  rw [buildMembers]
  congr 1
  funext node
  cases node <;> rfl

variable {spec spec' : Spec} {items items' children children' : List Value}

theorem AllFollowed.nil : AllFollowed terms scene [] [] :=
  ⟨0, fun _ _ _ _ _ _ _ _ _ => likewise_pure trivial⟩

theorem AllFollowed.cons {item item' : Value} {rest rest' : List Value}
    (onItem : Followed terms scene item item') (onRest : AllFollowed terms scene rest rest') :
    AllFollowed terms scene (item :: rest) (item' :: rest') := by
  obtain ⟨extra, item⟩ := onItem
  obtain ⟨more, all⟩ := onRest
  refine ⟨extra + more, ?_⟩
  intro budget budget' most place place' isInside matching index index'
  rw [buildMembers_cons, buildMembers_cons]
  refine Likewise.thenMembers ?_ ?_
  · exact item budget budget' (by omega) _ _ (matching.deeper _ _)
  · exact all budget budget' (by omega) place place' isInside matching _ _

section Loose

variable (loose : Loose terms scene)

include loose

theorem AllFollowed.gathered {run run' rest rest' : List Value} {group : Value}
    (gathers : Gathers terms scene.arguments group run')
    (onRun : AllFollowed terms scene run run') (onRest : AllFollowed terms scene rest rest') :
    AllFollowed terms scene (run ++ rest) (group :: rest') := by
  obtain ⟨extra, members⟩ := onRun
  obtain ⟨more, all⟩ := onRest
  obtain ⟨steps, follows⟩ := gathers.likewise_right loose
  refine ⟨extra + more + steps, ?_⟩
  intro budget budget' most place place' isInside matching index index'
  rw [buildMembers_append, buildMembers_cons]
  refine Likewise.thenMembers ?_ ?_
  · obtain ⟨rest, rfl⟩ : ∃ rest, budget' = rest + steps := ⟨budget' - steps, by omega⟩
    refine follows _ rest _ ((matching.isInside isInside).deeper _) fun inside _ deeper => ?_
    refine members budget rest (by omega) place inside isInside ?_ index 0
    exact (matching.trans (place'.matches_deeper loose.free _)).trans deeper
  · exact all budget budget' (by omega) place place' isInside matching _ _

theorem AllFollowed.scattered {run run' rest rest' : List Value} {group : Value}
    (gathers : Gathers terms scene.arguments group run)
    (onRun : AllFollowed terms scene run run') (onRest : AllFollowed terms scene rest rest') :
    AllFollowed terms scene (group :: rest) (run' ++ rest') := by
  obtain ⟨extra, members⟩ := onRun
  obtain ⟨more, all⟩ := onRest
  refine ⟨extra + more, ?_⟩
  intro budget budget' most place place' isInside matching index index'
  rw [buildMembers_append, buildMembers_cons]
  refine Likewise.thenMembers ?_ ?_
  · refine gathers.likewise_left loose budget _ (isInside.deeper _) ?_
    intro below inside less isIn deeper
    refine members below budget' (by omega) inside place' isIn ?_ 0 index'
    exact (deeper.trans (place.deeper_matches loose.free _)).trans matching
  · exact all budget budget' (by omega) place place' isInside matching _ _

/-- The children of an element are built like the members of a sequence. -/
theorem comesTo_buildChildren {inside : Place} (isUnder : inside.target.isUnder) (budget : Nat)
    (children : List Value) :
    ComesTo terms (buildChildren (buildWithin scene (budget + 1)) children inside)
      (buildMembers (buildWithin scene budget) inside.opened 0 none children) := by
  have admits := loose.admits inside.depth
  cases children with
  | nil => exact .refl _
  | cons child rest => exact comesTo_buildMembers rfl isUnder admits budget

theorem AllFollowed.inElement (onAll : AllFollowed terms scene children children') :
    ∃ extra, ∀ budget budget', budget + extra ≤ budget' →
      ∀ inside inside' : Place, inside.Matches terms inside' → inside.target.isUnder →
        Likewise terms.likeness Anything (buildChildren (buildWithin scene budget) children inside)
          (buildChildren (buildWithin scene budget') children' inside') := by
  obtain ⟨extra, all⟩ := onAll
  refine ⟨extra + 1, ?_⟩
  intro budget budget' most inside inside' matching isUnder
  obtain ⟨rest, rfl⟩ : ∃ rest, budget' = rest + 1 := ⟨budget' - 1, by omega⟩
  have isUnder' : inside'.target.isUnder := matching.target ▸ isUnder
  have members (below : Nat) (most : below + extra ≤ rest) :=
    all below rest most inside.opened inside'.opened ⟨isUnder, rfl⟩ matching.opened 0 0
  refine (comesTo_buildChildren loose isUnder' rest children').likewise_right ?_
  cases budget with
  | zero =>
      cases children with
      | nil => exact members 0 (by omega)
      | cons => exact loose.likewise_exhausted
  | succ budget =>
      exact (comesTo_buildChildren loose isUnder budget children).likewise_left
        (members budget (by omega))

omit loose in
theorem SpecFollowed.sequence (onAll : AllFollowed terms scene items items') :
    SpecFollowed terms scene (.sequence items) (.sequence items') := by
  obtain ⟨extra, all⟩ := onAll
  refine ⟨extra, fun budget budget' most place place' matching => ?_⟩
  refine likewise_buildSequence matching fun inside inside' within isInside => ?_
  exact all budget budget' most inside inside' isInside within 0 0

theorem SpecFollowed.element {name : Value} {attributes : RawAttributes} (isName : name.isClear terms)
    (areAttributes : ∀ entry ∈ attributes, entry.2.isClear terms)
    (onAll : AllFollowed terms scene children children') :
    SpecFollowed terms scene (.element name attributes children)
      (.element name attributes children') := by
  obtain ⟨extra, all⟩ := onAll.inElement loose
  refine ⟨extra, fun budget budget' most place place' matching => ?_⟩
  exact likewise_buildElement loose.given matching isName areAttributes
    fun inside inside' within isUnder => all budget budget' most inside inside' within isUnder

theorem Followed.same {value : Value} (isClear : value.isClear terms) :
    Followed terms scene value value :=
  ⟨0, fun budget budget' most _ _ matching => likewise_buildWithin loose.deep loose.given budget
    budget' (.inr ⟨loose.free, loose.noLimit, most⟩) value _ _ isClear matching⟩

theorem Followed.read {value value' : Value} (reads : value.IsReadAs scene.settings spec)
    (reads' : value'.IsReadAs scene.settings spec') (onSpec : SpecFollowed terms scene spec spec') :
    Followed terms scene value value' := by
  obtain ⟨extra, follows⟩ := onSpec
  refine ⟨extra, fun budget budget' most place place' matching => ?_⟩
  cases budget with
  | zero => exact loose.likewise_exhausted
  | succ budget =>
      obtain ⟨rest, rfl⟩ : ∃ rest, budget' = rest + 1 := ⟨budget' - 1, by omega⟩
      have asRead {value : Value} {spec : Spec} (reads : value.IsReadAs scene.settings spec)
          (place : Place) (budget : Nat) :
          ComesTo terms (buildWithin scene (budget + 1) value place)
            (buildSpec scene (buildWithin scene budget) place spec) := by
        refine comesTo_buildSpec (loose.admits _) ?_ budget
        rw [reads]
        exact idle_pure _
      refine (asRead reads place budget).likewise_left ?_
      refine (asRead reads' place' rest).likewise_right ?_
      exact follows budget rest (by omega) place place' matching

theorem Followed.wrapped {value value' : Value} {function : Function}
    (onValue : Followed terms scene value value')
    (gives : Idle terms (function.call scene.arguments) value') :
    Followed terms scene value (.function function) := by
  obtain ⟨extra, follows⟩ := onValue
  refine ⟨extra + 1, fun budget budget' most place place' matching => ?_⟩
  obtain ⟨rest, rfl⟩ : ∃ rest, budget' = rest + 1 := ⟨budget' - 1, by omega⟩
  have admits := loose.admits place'.depth
  refine (comesTo_call admits gives rest).likewise_right ?_
  exact follows budget rest (by omega) place _ (matching.trans (place'.matches_deeper loose.free _))

theorem Followed.unwrapped {value value' : Value} {function : Function}
    (gives : Idle terms (function.call scene.arguments) value)
    (onValue : Followed terms scene value value') :
    Followed terms scene (.function function) value' := by
  obtain ⟨extra, follows⟩ := onValue
  refine ⟨extra, fun budget budget' most place place' matching => ?_⟩
  cases budget with
  | zero => exact loose.likewise_exhausted
  | succ budget =>
      have admits := loose.admits place.depth
      refine (comesTo_call admits gives budget).likewise_left ?_
      exact follows budget budget' (by omega) _ place' ((place.deeper_matches loose.free _).trans matching)

omit loose in
/-- A stream that is set aside gives in each world what it has there, or nothing in either. -/
theorem echo_drain {id : Nat} (isAside : terms.aside id = some (items, items')) :
    Echo terms.likeness (fun given given' =>
      given = items ∧ given' = items' ∨ given = [] ∧ given' = []) (drain id) (drain id) := by
  intro world world' even
  have streams := World.Even.streams even id
  have emptied := World.Even.setRemaining even (.read : Streams.Even terms id _ _)
  have drains (world : World) : drain id world = .ok ((world.streams[id]?).getD [])
      { world with streams := world.streams.modify id fun _ => [] } := rfl
  rw [drains, drains]
  generalize world.streams[id]? = given at streams ⊢
  generalize world'.streams[id]? = given' at streams ⊢
  cases streams with
  | missing none | same none => rw [isAside] at none; cases none
  | unread both =>
      rw [isAside] at both
      cases both
      exact .ok (.inl ⟨rfl, rfl⟩) emptied
  | read => exact .ok (.inr ⟨rfl, rfl⟩) emptied

theorem Followed.drained {value : Value} {id : Nat} {reader : List Value → Spec}
    (isAside : terms.aside id = some (items, items'))
    (reads : value.IsReadFrom scene.settings id reader) (isClear : (reader []).IsClear terms)
    (onSpec : SpecFollowed terms scene (reader items) (reader items')) :
    Followed terms scene value value := by
  obtain ⟨extra, follows⟩ := onSpec
  refine ⟨extra, fun budget budget' most place place' matching => ?_⟩
  cases budget with
  | zero => exact loose.likewise_exhausted
  | succ budget =>
      obtain ⟨rest, rfl⟩ : ∃ rest, budget' = rest + 1 := ⟨budget' - 1, by omega⟩
      have each := likewise_buildWithin loose.deep loose.given budget rest
        (.inr ⟨loose.free, loose.noLimit, by omega⟩)
      have found : Echo terms.likeness (fun found found' =>
          found = some (reader items) ∧ found' = some (reader items') ∨
            found = some (reader []) ∧ found' = some (reader []))
          (readPart scene.settings value place) (readPart scene.settings value place') := by
        unfold readPart
        rw [checkDepth_eq (loose.admits _), checkDepth_eq (loose.admits _), pure_bind, pure_bind,
          reads, reads, ← bind_pure_comp, bind_assoc, bind_assoc]
        refine Echo.bind (echo_drain isAside) fun given given' gives => ?_
        rw [pure_bind, pure_bind]
        refine Echo.bind ((kindred_clear terms).likewise_note _ _ _ _) fun _ _ _ => Echo.pure ?_
        rcases gives with ⟨rfl, rfl⟩ | ⟨rfl, rfl⟩
        · exact .inl ⟨rfl, rfl⟩
        · exact .inr ⟨rfl, rfl⟩
      refine Echo.bind found ?_
      rintro _ _ (⟨rfl, rfl⟩ | ⟨rfl, rfl⟩)
      · exact follows budget rest (by omega) place place' matching
      · exact likewise_buildSpec loose.given each matching isClear

end Loose

end Builds

/-! ## The induction -/

mutual

theorem Regrouped.followed {terms : Terms} {scene : Scene} (loose : Loose terms scene) :
    ∀ {value value' : Value}, Regrouped terms scene.settings scene.arguments value value' →
      Followed terms scene value value'
  | _, _, .same isClear => .same loose isClear
  | _, _, .read reads reads' parts =>
      .read loose reads reads' (parts.followed loose)
  | _, _, .drained isAside reads isClear parts =>
      .drained loose isAside reads isClear (parts.followed loose)
  | _, _, .wrapped regrouped gives => (regrouped.followed loose).wrapped loose gives
  | _, _, .unwrapped gives regrouped =>
      .unwrapped loose gives (regrouped.followed loose)
termination_by structural _ _ regrouped => regrouped

theorem RegroupedSpec.followed {terms : Terms} {scene : Scene} (loose : Loose terms scene) :
    ∀ {spec spec' : Spec}, RegroupedSpec terms scene.settings scene.arguments spec spec' →
      SpecFollowed terms scene spec spec'
  | _, _, .sequence all => .sequence (all.followed loose)
  | _, _, .element isName areAttributes all =>
      .element loose isName areAttributes (all.followed loose)
termination_by structural _ _ regrouped => regrouped

theorem RegroupedAll.followed {terms : Terms} {scene : Scene} (loose : Loose terms scene) :
    ∀ {items items' : List Value}, RegroupedAll terms scene.settings scene.arguments items items' →
      AllFollowed terms scene items items'
  | _, _, .nil => .nil
  | _, _, .cons item rest => .cons (item.followed loose) (rest.followed loose)
  | _, _, .gathered gathers run rest =>
      .gathered loose gathers (run.followed loose)
        (rest.followed loose)
  | _, _, .scattered gathers run rest =>
      .scattered loose gathers (run.followed loose)
        (rest.followed loose)
termination_by structural _ _ regrouped => regrouped

end

/-! ## The other way round -/

/-- The same terms for the two worlds the other way round. -/
def Terms.swapped (terms : Terms) : Terms :=
  { terms with aside := fun id => (terms.aside id).map Prod.swap }

section Swapped

variable {terms : Terms} {settings : Settings} {given : List Value}

theorem Terms.aside_swapped {id : Nat} : terms.swapped.aside id = none ↔ terms.aside id = none :=
  Option.map_eq_none_iff

theorem Terms.isClear_swapped {value : Value} (isClear : value.isClear terms) :
    value.isClear terms.swapped :=
  Value.isClear_mono (fun _ => aside_swapped.mpr) isClear

theorem World.Even.swapped {world world' : World} (even : world.Even terms world') :
    world'.Even terms.swapped world where
  forest := even.forest.symm
  nextId := even.nextId.symm
  names := even.names'
  names' := even.names
  clear := fun entry among => Terms.isClear_swapped (even.clear entry among)
  size := even.size.symm
  streams := fun id => by
    have streams := even.streams id
    generalize world.streams[id]? = given at streams ⊢
    generalize world'.streams[id]? = given' at streams ⊢
    cases streams with
    | missing none => exact .missing (Terms.aside_swapped.mpr none)
    | same none areClear =>
        exact .same (Terms.aside_swapped.mpr none)
          fun item among => Terms.isClear_swapped (areClear item among)
    | unread isAside =>
        refine .unread ?_
        show (terms.aside id).map Prod.swap = _
        rw [isAside]
        rfl
    | read => exact .read
  calls := fun logged => (even.calls logged).symm

theorem Idle.swapped {α : Type} {step : Build α} {result : α} (idle : Idle terms step result) :
    Idle terms.swapped step result := by
  intro world names
  obtain ⟨after, run, same⟩ := idle world names
  exact ⟨after, run, same.forest, same.streams, same.nextId, same.names, same.calls⟩

theorem Gathers.swapped {group : Value} {run : List Value} (gathers : Gathers terms given group run) :
    Gathers terms.swapped given group run := by
  induction gathers with
  | held held => exact .held held
  | returned gives _ ih => exact .returned gives.swapped ih

mutual

theorem Regrouped.swapped : ∀ {value value' : Value}, Regrouped terms settings given value value' →
    Regrouped terms.swapped settings given value' value
  | _, _, .same isClear => .same (Terms.isClear_swapped isClear)
  | _, _, .read reads reads' parts => .read reads' reads parts.swapped
  | _, _, .drained isAside reads isClear parts =>
      .drained (congrArg (Option.map Prod.swap) isAside) reads
        (fun part among => Terms.isClear_swapped (isClear part among)) parts.swapped
  | _, _, .wrapped regrouped gives => .unwrapped gives.swapped regrouped.swapped
  | _, _, .unwrapped gives regrouped => .wrapped regrouped.swapped gives.swapped
termination_by structural _ _ regrouped => regrouped

theorem RegroupedSpec.swapped : ∀ {spec spec' : Spec},
    RegroupedSpec terms settings given spec spec' →
      RegroupedSpec terms.swapped settings given spec' spec
  | _, _, .sequence all => .sequence all.swapped
  | _, _, .element isName areAttributes all =>
      .element (Terms.isClear_swapped isName)
        (fun entry among => Terms.isClear_swapped (areAttributes entry among)) all.swapped
termination_by structural _ _ regrouped => regrouped

theorem RegroupedAll.swapped : ∀ {items items' : List Value},
    RegroupedAll terms settings given items items' →
      RegroupedAll terms.swapped settings given items' items
  | _, _, .nil => .nil
  | _, _, .cons item rest => .cons item.swapped rest.swapped
  | _, _, .gathered gathers run rest => .scattered gathers.swapped run.swapped rest.swapped
  | _, _, .scattered gathers run rest => .gathered gathers.swapped run.swapped rest.swapped
termination_by structural _ _ regrouped => regrouped

end

end Swapped

end MarkupSpec
