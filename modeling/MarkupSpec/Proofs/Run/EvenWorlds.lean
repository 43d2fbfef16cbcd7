import MarkupSpec.Proofs.Run.Kindred

/-!
# Worlds that are even

Two worlds are even if they have the same forest, the same names and the same streams, apart
from some streams that are set aside: each of these has something else to give in either
world, until it is read in both (`World.Even`).  The notices may differ, and the log where it
is not compared.

A value is clear if it goes by no stream that is set aside (`Value.isClear`).  Even worlds have
the same to say of clear values (`kindred_clear`), and edits do the same in both.  So all steps
of a build at one place, but for what is below it, go likewise in even worlds.
-/

namespace MarkupSpec

open Build

/-- What is known of two worlds that are compared. -/
structure Terms where
  /-- The values that have a name. -/
  names : List (String × Value) := []
  /-- What a stream that is set aside has to give in each of the worlds. -/
  aside : Nat → Option (List Value × List Value) := fun _ => none
  /-- The logs are compared too. -/
  logged : Prop := True
  /-- Places that go together are equally deep, and builds have the same budget.  Otherwise the
  first build is excused if its budget is used up. -/
  levelled : Prop := True
  /-- A step may fail because a place is too deep. -/
  mayBeDeep : Prop := True

/-! ## Clear values -/

namespace Value

mutual

/-- Does the value go by no stream that is set aside? -/
def isClear (terms : Terms) : Value → Bool
  | .list items | .tuple items | .set _ items => areClear terms items
  | .map entries => entriesClear terms entries
  | .stream id => (terms.aside id).isNone
  | _ => true
termination_by structural value => value

def areClear (terms : Terms) : List Value → Bool
  | [] => true
  | value :: rest => isClear terms value && areClear terms rest
termination_by structural values => values

def entriesClear (terms : Terms) : List (Value × Value) → Bool
  | [] => true
  | (key, value) :: rest => isClear terms key && isClear terms value && entriesClear terms rest
termination_by structural entries => entries

end

section Parts

variable {terms : Terms} {items : List Value} {entries : Entries}

theorem areClear_iff : areClear terms items ↔ ∀ item ∈ items, item.isClear terms := by
  induction items with
  | nil => simp [areClear]
  | cons item rest ih => simp [areClear, ih]

theorem entriesClear_iff : entriesClear terms entries ↔
    ∀ entry ∈ entries, entry.1.isClear terms ∧ entry.2.isClear terms := by
  induction entries with
  | nil => simp [entriesClear]
  | cons entry rest ih => simp [entriesClear, ih, and_assoc]

theorem isClear_stream {id : Nat} : (Value.stream id).isClear terms ↔ terms.aside id = none :=
  Option.isNone_iff_eq_none

end Parts

end Value

theorem inherited_isClear (terms : Terms) : Inherited fun value => value.isClear terms where
  list := Value.areClear_iff
  tuple := Value.areClear_iff
  set := Value.areClear_iff
  map := Value.entriesClear_iff
  bare := by
    intro value isBare
    cases value with
    | list | tuple | set | map | stream | function | node => cases isBare
    | _ => rfl

/-- Where nothing is set aside all values are clear. -/
theorem Value.isClear_of_nothing {terms : Terms} (nothing : ∀ id, terms.aside id = none)
    (value : Value) : value.isClear terms :=
  (inherited_isClear terms).everywhere (fun id => isClear_stream.mpr (nothing id)) (fun _ => rfl)
    (fun _ => rfl) value

/-- Where less is set aside more values are clear. -/
theorem Value.isClear_mono {terms terms' : Terms}
    (less : ∀ id, terms.aside id = none → terms'.aside id = none) {value : Value}
    (isClear : value.isClear terms) : value.isClear terms' := by
  have brings : Inherited.Brings (fun value => value.isClear terms) fun value => value.isClear terms' :=
    { first := inherited_isClear terms
      second := inherited_isClear terms'
      stream := fun id isClear => isClear_stream.mpr (less id (isClear_stream.mp isClear))
      function := fun _ _ => rfl
      node := fun _ _ => rfl }
  exact brings.value value isClear

/-- The values are clear. -/
abbrev AreClear (terms : Terms) (items : List Value) : Prop := ∀ item ∈ items, item.isClear terms

/-- The parts of what a value was read as are clear. -/
abbrev Spec.IsClear (terms : Terms) (spec : Spec) : Prop := spec.Has fun part => part.isClear terms

/-! ## Even worlds -/

/-- What a stream still has to give in two worlds. -/
inductive Streams.Even (terms : Terms) (id : Nat) : Option (List Value) → Option (List Value) → Prop
  /-- There is no such stream. -/
  | missing : terms.aside id = none → Even terms id none none
  /-- A stream that has the same to give in both. -/
  | same {items} : terms.aside id = none → AreClear terms items →
      Even terms id (some items) (some items)
  /-- A stream that is set aside and was read in neither of the worlds. -/
  | unread {items items'} : terms.aside id = some (items, items') →
      Even terms id (some items) (some items')
  /-- A stream that is set aside and was read in both. -/
  | read : Even terms id (some []) (some [])

/-- Two worlds are the same, but for the streams that are set aside and for what was logged and
noticed. -/
structure World.Even (terms : Terms) (world world' : World) : Prop where
  forest : world'.forest = world.forest
  nextId : world'.nextId = world.nextId
  names : world.names = terms.names
  names' : world'.names = terms.names
  clear : ∀ entry ∈ terms.names, entry.2.isClear terms
  size : world'.streams.size = world.streams.size
  streams : ∀ id, Streams.Even terms id world.streams[id]? world'.streams[id]?
  calls : terms.logged → world'.calls = world.calls

/-- The terms on which even worlds are compared. -/
def Terms.likeness (terms : Terms) : Likeness Failure World where
  excuse := fun cause => ¬ terms.levelled ∧ cause = .exhausted
  causes := fun cause cause' =>
    cause'.kind = cause.kind ∧ (cause.kind = .spec .tooDeep → terms.mayBeDeep)
  states := World.Even terms

namespace World.Even

variable {terms : Terms} {world world' : World} (even : world.Even terms world')

include even

/-- A stream that is not set aside has the same to give, which is clear. -/
theorem remaining {id : Nat} (isClear : terms.aside id = none) :
    (world'.streams[id]?).getD [] = (world.streams[id]?).getD [] ∧
      AreClear terms ((world.streams[id]?).getD []) := by
  have streams := even.streams id
  generalize world.streams[id]? = given at streams ⊢
  generalize world'.streams[id]? = given' at streams ⊢
  cases streams with
  | missing => exact ⟨rfl, List.forall_mem_nil _⟩
  | same _ areClear => exact ⟨rfl, areClear⟩
  | unread isAside => rw [isClear] at isAside; cases isAside
  | read => exact ⟨rfl, List.forall_mem_nil _⟩

/-- Worlds stay even when the same is put in the place of what is left of a stream. -/
theorem setRemaining {id : Nat} {items : List Value}
    (holds : Streams.Even terms id (some items) (some items)) :
    World.Even terms { world with streams := world.streams.modify id fun _ => items }
      { world' with streams := world'.streams.modify id fun _ => items } := by
  refine ⟨even.forest, even.nextId, even.names, even.names', even.clear, ?_, ?_, even.calls⟩
  · simp only [Array.size_modify, even.size]
  · intro other
    have streams := even.streams other
    simp only [Array.getElem?_modify]
    split
    · rename_i same
      subst same
      generalize world.streams[id]? = given at streams ⊢
      generalize world'.streams[id]? = given' at streams ⊢
      cases streams with
      | missing none => exact .missing none
      | same | unread | read => exact holds
    · exact streams

/-- The next stream is not set aside. -/
theorem aside_size : terms.aside world.streams.size = none := by
  have streams := even.streams world.streams.size
  rw [Array.getElem?_size, ← even.size, Array.getElem?_size] at streams
  cases streams with
  | missing none => exact even.size ▸ none

/-- Worlds stay even when a stream with the same to give is added to both. -/
theorem newStream {items : List Value} (areClear : AreClear terms items) :
    World.Even terms { world with streams := world.streams.push items }
      { world' with streams := world'.streams.push items } := by
  refine ⟨even.forest, even.nextId, even.names, even.names', even.clear, ?_, ?_, even.calls⟩
  · simp only [Array.size_push, even.size]
  · intro other
    simp only [Array.getElem?_push, even.size]
    split
    · rename_i isNew
      subst isNew
      exact .same even.aside_size areClear
    · exact even.streams other

/-- What a name stands for is clear. -/
theorem lookup {name : String} {value : Value} (found : terms.names.lookup name = some value) :
    value.isClear terms :=
  even.clear (name, value) (mem_of_lookup found)

/-- Where nothing is set aside all streams have the same to give. -/
theorem streams_eq (nothing : ∀ id, terms.aside id = none) : world'.streams = world.streams := by
  refine Array.ext_getElem? fun id => ?_
  have same := even.streams id
  generalize world.streams[id]? = given at same ⊢
  generalize world'.streams[id]? = given' at same ⊢
  cases same with
  | missing | same | read => rfl
  | unread isAside => rw [nothing] at isAside; cases isAside

end World.Even

/-- A world is even to itself, where nothing is set aside. -/
theorem World.Even.refl {terms : Terms} {world : World} (names : world.names = terms.names)
    (nothing : ∀ id, terms.aside id = none) : world.Even terms world where
  forest := rfl
  nextId := rfl
  names := names
  names' := names
  clear := fun _ _ => Value.isClear_of_nothing nothing _
  size := rfl
  streams := fun id => by
    cases world.streams[id]? with
    | none => exact .missing (nothing id)
    | some items => exact .same (nothing id) fun _ _ => Value.isClear_of_nothing nothing _
  calls := fun _ => rfl

/-! ## Steps in even worlds -/

section Worlds

variable {α : Type} {terms : Terms} {R : α → Prop}

/-- What is made of the forest. -/
theorem likewise_forest {next next' : Forest → Build α}
    (onNext : ∀ forest, Likewise terms.likeness R (next forest) (next' forest)) :
    Likewise terms.likeness R (Build.forest >>= next) (Build.forest >>= next') := by
  intro world world' even
  have goes := onNext world.forest world world' even
  show Echoes terms.likeness _ (next world.forest world) (next' world'.forest world')
  rw [World.Even.forest even]
  exact goes

/-- A named value is looked up, and from there a walk goes through the same forest. -/
theorem likewise_lookup (name : String) (walk : List Walk) :
    Likewise terms.likeness (fun value => value.isClear terms) (named name walk)
      (named name walk) := by
  refine Echo.bind_get fun world world' even => ?_
  rw [World.Even.names even, World.Even.names' even]
  have isClear : ∀ value, terms.names.lookup name = some value → value.isClear terms :=
    fun value found => World.Even.lookup even found
  generalize terms.names.lookup name = found at isClear ⊢
  split
  · exact .failed ⟨rfl, nofun⟩ even
  · exact .ok ⟨rfl, isClear _ rfl⟩ even
  · refine likewise_forest (fun forest => ?_) world world' even
    split
    · exact likewise_pure rfl
    · exact Echo.throw ⟨rfl, nofun⟩
  · exact .failed ⟨rfl, nofun⟩ even

/-- Even worlds have the same to say of clear values. -/
theorem kindred_clear (terms : Terms) :
    Kindred terms.likeness (fun value => value.isClear terms) fun _ => True where
  inherited := inherited_isClear terms
  causes := fun kind ofValue => ⟨kind, fun isDeep => by
    rw [isDeep] at ofValue
    cases ofValue⟩
  quoted := fun even _ _ => by rw [World.Even.forest even]
  note := fun even _ _ =>
    ⟨even.forest, even.nextId, even.names, even.names', even.clear, even.size, even.streams,
      even.calls⟩
  log := fun even label arguments =>
    ⟨even.forest, even.nextId, even.names, even.names', even.clear, even.size, even.streams,
      fun logged => by
        dsimp only
        rw [even.calls logged, even.forest]⟩
  nextId := fun even => ⟨even.nextId, fun _ =>
    ⟨even.forest, rfl, even.names, even.names', even.clear, even.size, even.streams, even.calls⟩⟩
  remaining := fun even isClear => even.remaining (Value.isClear_stream.mp isClear)
  setRemaining := fun even isClear areClear =>
    even.setRemaining (.same (Value.isClear_stream.mp isClear) areClear)
  newStream := fun even areClear =>
    ⟨even.size, Value.isClear_stream.mpr even.aside_size, even.newStream areClear⟩
  named := fun _ => likewise_lookup _ _
  function := iff_of_true rfl trivial
  parts := fun _ _ _ => trivial

/-- An edit of the one forest is an edit of the other one. -/
theorem likewise_edit (step : Edit α) :
    Likewise terms.likeness Anything (edit step) (edit step) := by
  intro world world' even
  have after : ∀ forest, World.Even terms { world with forest } { world' with forest } :=
    fun forest => ⟨rfl, even.nextId, even.names, even.names', even.clear, even.size,
      even.streams, even.calls⟩
  unfold edit
  rw [World.Even.forest even]
  cases step world.forest with
  | ok result forest => exact .ok ⟨rfl, trivial⟩ (after forest)
  | error cause forest =>
      refine .failed ⟨rfl, fun isDeep => ?_⟩ (after forest)
      cases cause with
      | badAttribute cause => cases cause <;> cases isDeep
      | _ => cases isDeep

theorem likewise_nodeOrNone (value : Value) :
    Likewise terms.likeness Anything (nodeOrNone value) (nodeOrNone value) := by
  cases value with
  | node id => exact likewise_pure trivial
  | _ => exact likewise_forest fun _ => likewise_pure trivial

theorem likewise_implicitParent (target : Target) :
    Likewise terms.likeness Anything (implicitParent target) (implicitParent target) := by
  unfold implicitParent
  split
  · exact likewise_pure trivial
  · unfold parentBeside
    refine (likewise_edit _).bind fun row _ => ?_
    split
    · exact likewise_pure trivial
    · exact Echo.throw ⟨rfl, nofun⟩

theorem likewise_attach (target : Target) (node : NodeId) :
    Likewise terms.likeness Anything (attach target node) (attach target node) := by
  unfold attach
  refine (likewise_implicitParent target).discard.bind fun _ _ => ?_
  refine Likewise.bind (R := Anything) ?_ fun _ _ => likewise_edit _
  exact (kindred_clear terms).likewise_describe fun _ _ _ =>
    (kindred_clear terms).likewise_note _ _ _ _

theorem likewise_scopeAt : ∀ nodes : List NodeId,
    Likewise terms.likeness Anything (scopeAt nodes) (scopeAt nodes)
  | [] => likewise_pure trivial
  | node :: behind => by
      unfold scopeAt
      refine (likewise_edit _).bind fun _ _ => ?_
      refine likewise_forest fun forest => ?_
      exact (likewise_scopeAt behind).bind fun _ _ => likewise_pure trivial

theorem likewise_resolve (name : String) {attributes : RawAttributes} (nodes : List NodeId)
    {arguments : List Value} (context context' : Option ErrorContext) (level : ErrorLevel)
    (given : AreClear terms arguments) (areAttributes : ∀ entry ∈ attributes, entry.2.isClear terms) :
    Likewise terms.likeness Anything (resolve name attributes nodes arguments context level)
      (resolve name attributes nodes arguments context' level) := by
  have kindred := kindred_clear terms
  unfold resolve resolveFlat
  refine (kindred.likewise_flattenAttributes given attributes areAttributes).bind fun flat _ => ?_
  have ends (scope : List (String × String)) : Likewise terms.likeness Anything
      (resolutionOr name context level (resolveIn scope name (sortAttributes flat)))
      (resolutionOr name context' level (resolveIn scope name (sortAttributes flat))) := by
    unfold resolutionOr
    split
    · exact likewise_pure trivial
    · exact kindred.likewise_failSpec rfl _ _ _
  dsimp only
  split
  · exact ends []
  · exact (likewise_scopeAt nodes).bind fun scope _ => ends scope

end Worlds

/-! ## Nodes in even worlds -/

/-- Places that nodes get their place and their namespaces from in the same way. -/
structure Place.Matches (terms : Terms) (place place' : Place) : Prop where
  target : place'.target = place.target
  pseudo : place'.pseudo = place.pseudo
  anchor : place'.anchor = place.anchor
  depth : terms.levelled → place'.depth = place.depth

theorem Place.Matches.refl {terms : Terms} (place : Place) : place.Matches terms place :=
  ⟨rfl, rfl, rfl, fun _ => rfl⟩

theorem Place.Matches.deeper {terms : Terms} {place place' : Place}
    (matching : place.Matches terms place') (segment segment' : String) :
    (place.deeper segment).Matches terms (place'.deeper segment') :=
  ⟨matching.target, matching.pseudo, matching.anchor,
    fun levelled => congrArg (· + 1) (matching.depth levelled)⟩

section Nodes

variable {terms : Terms} {scene : Scene} {place place' : Place} {spec spec' : Spec}
  {children : List Value} {attributes : RawAttributes} {name : Value}
  (given : AreClear terms scene.arguments)

/-- An element is made alike in two builds, and the places inside of it match. -/
structure Made.Matches (terms : Terms) (made made' : Made) : Prop where
  element : made'.element = made.element
  inside : made.inside.Matches terms made'.inside
  isUnder : made.inside.target.isUnder

theorem likewise_nearest (matching : place.Matches terms place') :
    Likewise terms.likeness Anything place.nearest place'.nearest := by
  unfold Place.nearest
  rw [matching.pseudo, matching.target]
  split
  · exact likewise_pure trivial
  · exact likewise_implicitParent _

include given in
theorem likewise_resolveElement (matching : place.Matches terms place')
    (isName : name.isClear terms) (areAttributes : ∀ entry ∈ attributes, entry.2.isClear terms) :
    Likewise terms.likeness Anything (resolveElement scene place spec name attributes)
      (resolveElement scene place' spec' name attributes) := by
  have kindred := kindred_clear terms
  unfold resolveElement
  rw [matching.anchor]
  refine Echo.bind (Kindred.echo_specContext _) fun context context' _ => ?_
  refine (kindred.likewise_flatten given isName).bind fun text _ => ?_
  cases text with
  | none => exact kindred.likewise_failSpec rfl _ _ _
  | some text =>
      refine (likewise_nearest matching).bind fun near _ => ?_
      exact (likewise_resolve text _ _ _ _ given areAttributes).bind fun _ _ => likewise_pure trivial

include given in
theorem echo_makeElement (matching : place.Matches terms place') (isName : name.isClear terms)
    (areAttributes : ∀ entry ∈ attributes, entry.2.isClear terms) :
    Echo terms.likeness (Made.Matches terms) (makeElement scene place spec name attributes)
      (makeElement scene place' spec' name attributes) := by
  unfold makeElement
  refine Echo.bind (likewise_resolveElement given matching isName areAttributes) ?_
  rintro ⟨near, resolution⟩ _ ⟨rfl, -⟩
  refine Echo.bind (likewise_edit _) ?_
  rintro element _ ⟨rfl, -⟩
  rw [matching.target]
  refine Echo.bind (likewise_attach _ _) fun _ _ _ => Echo.pure ⟨rfl, ?_, rfl⟩
  unfold Place.within
  rw [matching.anchor]
  exact ⟨rfl, rfl, rfl, fun levelled => congrArg (· + 1) (matching.depth levelled)⟩

/-- The place of the members of a sequence: under a node, with namespaces from a node that is
known. -/
structure Place.Inside (place : Place) : Prop where
  isUnder : place.target.isUnder
  pseudo : place.pseudo.isSome

theorem echo_openSequence (matching : place.Matches terms place') :
    Echo terms.likeness (fun inside inside' => inside.Matches terms inside' ∧ inside.Inside)
      (openSequence scene place) (openSequence scene place') := by
  unfold openSequence
  rw [matching.target, matching.pseudo]
  refine Echo.bind (likewise_implicitParent _) ?_
  rintro parent _ ⟨rfl, -⟩
  refine Echo.bind (?_ : Likewise _ Anything _ _) ?_
  · unfold holderFor
    split
    · exact likewise_pure trivial
    · exact likewise_edit _
  · rintro holder _ ⟨rfl, -⟩
    exact Echo.pure ⟨⟨rfl, rfl, matching.anchor, matching.depth⟩, rfl, rfl⟩

theorem likewise_closeSequence (target : Target) (holder : NodeId) (last : Option NodeId) :
    Likewise terms.likeness Anything (closeSequence target holder last)
      (closeSequence target holder last) := by
  unfold closeSequence
  split
  · exact likewise_attach _ _
  · exact likewise_pure trivial

variable {path path' : List String}

theorem likewise_noticeReplaced (document : NodeId) (root : Value) :
    Likewise terms.likeness Anything (noticeReplaced document root)
      (noticeReplaced document root) := by
  unfold noticeReplaced
  refine likewise_forest fun forest => ?_
  split
  · exact (kindred_clear terms).likewise_note _ _ _ _
  · exact likewise_pure trivial

theorem likewise_giveDoctype (document : NodeId) (root : Value) (publicId systemId : Option String) :
    Likewise terms.likeness Anything (giveDoctype document root publicId systemId)
      (giveDoctype document root publicId systemId) := by
  unfold giveDoctype
  refine (likewise_edit _).bind fun _ _ => ?_
  refine ((kindred_clear terms).likewise_doctypeName root).bind fun asked _ => ?_
  refine (likewise_edit _).bind fun doctype _ => ?_
  refine (likewise_noticeReplaced document root).bind fun _ _ => ?_
  exact (likewise_edit _).bind fun _ _ => likewise_pure trivial

include given in
theorem likewise_buildDoctype (all : AreClear terms children)
    (areAttributes : ∀ entry ∈ attributes, entry.2.isClear terms) :
    Likewise terms.likeness Anything (buildDoctype scene spec path children attributes)
      (buildDoctype scene spec path' children attributes) := by
  have kindred := kindred_clear terms
  have alike : scene.Like scene := ⟨rfl, rfl⟩
  unfold buildDoctype
  refine (kindred.likewise_leadingText alike given _ all).bind fun name _ => ?_
  refine (kindred.likewise_identifier alike given _ _ all areAttributes).bind fun publicId _ => ?_
  refine (kindred.likewise_identifier alike given _ _ all areAttributes).bind fun systemId _ => ?_
  exact likewise_giveDoctype _ _ _ _

include given in
theorem likewise_buildInstruction (all : AreClear terms children)
    (areAttributes : ∀ entry ∈ attributes, entry.2.isClear terms) :
    Likewise terms.likeness Anything (buildInstruction scene spec path children attributes)
      (buildInstruction scene spec path' children attributes) := by
  have kindred := kindred_clear terms
  have alike : scene.Like scene := ⟨rfl, rfl⟩
  unfold buildInstruction
  refine (kindred.likewise_leadingText alike given _ all).bind fun target _ => ?_
  dsimp only
  split
  · have sorted : ∀ entry ∈ Text.sortByText Prod.fst attributes, entry.2.isClear terms :=
      fun entry among => areAttributes entry (Text.mem_sortByText.mp among)
    exact (kindred.likewise_pseudoAttributes alike given sorted).bind fun _ _ => likewise_edit _
  · have rest : AreClear terms children.tail :=
      fun child among => all child (List.mem_of_mem_tail among)
    exact (kindred.likewise_childrenText alike given rest).bind fun _ _ => likewise_edit _

include given in
theorem likewise_makeLeaf (isClear : spec.IsClear terms) :
    Likewise terms.likeness Anything (makeLeaf scene path spec) (makeLeaf scene path' spec) := by
  have kindred := kindred_clear terms
  have inherited := inherited_isClear terms
  have alike : scene.Like scene := ⟨rfl, rfl⟩
  cases spec with
  | comment children =>
      exact (kindred.likewise_childrenText alike given (inherited.comment.mp isClear)).bind
        fun _ _ => likewise_edit _
  | cdata children =>
      exact (kindred.likewise_childrenText alike given (inherited.cdata.mp isClear)).bind
        fun _ _ => likewise_edit _
  | instruction children attributes =>
      obtain ⟨all, areAttributes⟩ := inherited.instruction.mp isClear
      exact likewise_buildInstruction given all areAttributes
  | existing node => exact likewise_edit _
  | text value =>
      refine kindred.likewise_describe fun describe describe' same => ?_
      rw [Value.scalarText_of_quoted (same value (Spec.has_text.mp isClear))]
      exact likewise_edit _
  | sequence | callable | element | doctype =>
      exact kindred.likewise_throw rfl rfl

include given in
theorem likewise_buildLeaf (matching : place.Matches terms place') (isClear : spec.IsClear terms) :
    Likewise terms.likeness Anything (buildLeaf scene place spec) (buildLeaf scene place' spec) := by
  unfold buildLeaf
  rw [matching.target]
  refine (likewise_makeLeaf given isClear).bind fun node _ => ?_
  exact (likewise_attach _ _).bind fun _ _ => likewise_pure trivial

end Nodes

end MarkupSpec
