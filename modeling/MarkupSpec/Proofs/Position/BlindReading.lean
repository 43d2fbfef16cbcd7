import MarkupSpec.Proofs.Position.BlindValues
import MarkupSpec.Proofs.Run.Kindred

/-!
# Reading without looking at the tree

Two worlds are abreast if the values in them are the same and go by known nodes only, which
are described in the same way in both (`World.Abreast`).  How the nodes are linked may
differ, and so may the log and the notices.

Such worlds have the same to say of values that do not look at the tree (`kindred_blind`).  So
filling a template, calling a function, flattening a value and reading a spec come to the
same in two of them, if the values they begin with do not look at the tree (`Blindly`).
-/

namespace MarkupSpec

open Build

/-- The values in a world do not look at the tree, apart from those whose names or streams
are not known. -/
structure World.IsBlind (known : Known) (world : World) : Prop where
  streams : ∀ id items, known.stream id → world.streams[id]? = some items →
    ∀ item ∈ items, item.isBlind known
  /-- Streams that are still to be made are known. -/
  later : ∀ id, world.streams.size ≤ id → known.stream id
  names : ∀ entry ∈ world.names, known.name entry.1 → entry.2.isBlind known

/-- Two worlds have the same values, which do not look at the tree, and describe the nodes
that these go by in the same way. -/
structure World.Abreast (known : Known) (world world' : World) : Prop where
  streams : world'.streams = world.streams
  nextId : world'.nextId = world.nextId
  names : world'.names = world.names
  blind : world.IsBlind known
  describe : ∀ id, known.node id → world'.forest.describe id = world.forest.describe id

/-- In worlds that are abreast the steps come to the same, which has a property, and leave
the forests alone. -/
def BlindTo {α : Type} (known : Known) (R : α → Prop) (step step' : Build α) : Prop :=
  ∀ world world', world.Abreast known world' →
    Concurs step step' world world' fun result after result' after' =>
      result' = result ∧ R result ∧ after.Abreast known after' ∧
        after.forest = world.forest ∧ after'.forest = world'.forest

/-- A step comes to the same in worlds that are abreast. -/
abbrev Blindly {α : Type} (known : Known) (R : α → Prop) (step : Build α) : Prop :=
  BlindTo known R step step

/-- The values do not look at the tree. -/
abbrev AreBlind (known : Known) (items : List Value) : Prop :=
  ∀ item ∈ items, item.isBlind known

section Worlds

variable {known : Known} {world world' : World}

theorem World.IsBlind.remaining (blind : world.IsBlind known) {id : Nat}
    (isKnown : known.stream id) : AreBlind known ((world.streams[id]?).getD []) := by
  cases there : world.streams[id]? with
  | none => exact List.forall_mem_nil _
  | some items => exact blind.streams id items isKnown there

/-- Worlds stay abreast when one of their streams changes in the same way. -/
theorem World.Abreast.restream (abreast : world.Abreast known world')
    (change : Array (List Value) → Array (List Value))
    (size : world.streams.size ≤ (change world.streams).size)
    (blind : ∀ id items, known.stream id → (change world.streams)[id]? = some items →
      AreBlind known items) :
    World.Abreast known { world with streams := change world.streams }
      { world' with streams := change world'.streams } where
  streams := congrArg change abreast.streams
  nextId := abreast.nextId
  names := abreast.names
  blind := ⟨blind, fun id new => abreast.blind.later id (Nat.le_trans size new),
    abreast.blind.names⟩
  describe := abreast.describe

theorem World.Abreast.setRemaining (abreast : world.Abreast known world') {id : Nat}
    {items : List Value} (blind : AreBlind known items) :
    World.Abreast known { world with streams := world.streams.modify id fun _ => items }
      { world' with streams := world'.streams.modify id fun _ => items } := by
  refine abreast.restream (·.modify id fun _ => items) (by simp) fun other list isKnown there => ?_
  rw [Array.getElem?_modify] at there
  split at there
  · obtain ⟨_, -, rfl⟩ := Option.map_eq_some_iff.mp there
    exact blind
  · exact abreast.blind.streams other list isKnown there

theorem World.Abreast.newStream (abreast : world.Abreast known world') {items : List Value}
    (blind : AreBlind known items) :
    World.Abreast known { world with streams := world.streams.push items }
      { world' with streams := world'.streams.push items } := by
  refine abreast.restream (·.push items) (by simp) fun other list isKnown there => ?_
  rw [Array.getElem?_push] at there
  split at there
  · obtain rfl := Option.some.inj there
    exact blind
  · exact abreast.blind.streams other list isKnown there

/-- What a known name stands for does not look at the tree. -/
theorem World.IsBlind.lookup (blind : world.IsBlind known) {name : String} {value : Value}
    (isKnown : known.name name) (found : world.names.lookup name = some value) :
    value.isBlind known :=
  blind.names (name, value) (mem_of_lookup found) isKnown

end Worlds

/-! ## One kind of terms for all steps -/

/-- Two worlds are abreast and have the forests that they began with. -/
def Known.likeness (known : Known) (forest forest' : Forest) : Likeness Failure World where
  excuse := fun _ => False
  causes := fun cause cause' => cause'.kind = cause.kind
  states := fun world world' =>
    world.Abreast known world' ∧ world.forest = forest ∧ world'.forest = forest'

/-- What goes likewise whatever the forests are, comes to the same in worlds that are abreast. -/
theorem blindTo_of_likewise {α : Type} {known : Known} {R : α → Prop} {step step' : Build α}
    (likewise : ∀ forest forest', Likewise (known.likeness forest forest') R step step') :
    BlindTo known R step step' := by
  intro world world' abreast
  have echoes := likewise world.forest world'.forest world world' ⟨abreast, rfl, rfl⟩
  unfold Concurs
  generalize step world = outcome at echoes ⊢
  generalize step' world' = outcome' at echoes ⊢
  cases echoes with
  | ok holds goes => exact ⟨holds.1, holds.2, goes⟩
  | failed alike _ => exact alike.symm
  | excused excuse => exact excuse.elim

/-- A named value is looked up, and from there goes no walk. -/
theorem likewise_named {known : Known} {forest forest' : Forest} {name : String} {walk : List Walk}
    (blind : (Template.named name walk).isBlind known) :
    Likewise (known.likeness forest forest') (fun value => value.isBlind known)
      (named name walk) (named name walk) := by
  obtain ⟨noWalk, isKnown⟩ := Bool.and_eq_true_iff.mp blind
  obtain rfl := List.isEmpty_iff.mp noWalk
  refine Echo.bind_get fun world world' goes => ?_
  rw [goes.1.names]
  cases found : world.names.lookup name with
  | none => exact .failed rfl goes
  | some value => exact .ok ⟨rfl, goes.1.blind.lookup isKnown found⟩ goes

/-- Values that do not look at the tree are the same to worlds that are abreast. -/
theorem kindred_blind (known : Known) (forest forest' : Forest) :
    Kindred (known.likeness forest forest') (fun value => value.isBlind known)
      (fun template => template.isBlind known) where
  inherited := inherited_isBlind known
  causes := fun kind _ => kind
  quoted := fun goes value blind => Value.quoted_congr goes.1.describe value blind
  note := fun goes _ _ =>
    ⟨⟨goes.1.streams, goes.1.nextId, goes.1.names,
      ⟨goes.1.blind.streams, goes.1.blind.later, goes.1.blind.names⟩, goes.1.describe⟩, goes.2⟩
  log := fun goes _ _ =>
    ⟨⟨goes.1.streams, goes.1.nextId, goes.1.names,
      ⟨goes.1.blind.streams, goes.1.blind.later, goes.1.blind.names⟩, goes.1.describe⟩, goes.2⟩
  nextId := fun goes => ⟨goes.1.nextId, fun _ =>
    ⟨⟨goes.1.streams, rfl, goes.1.names,
      ⟨goes.1.blind.streams, goes.1.blind.later, goes.1.blind.names⟩, goes.1.describe⟩, goes.2⟩⟩
  remaining := fun {_ _ id} goes isKnown =>
    ⟨congrArg (fun streams : Array (List Value) => (streams[id]?).getD []) goes.1.streams,
      goes.1.blind.remaining isKnown⟩
  setRemaining := fun goes _ blind => ⟨goes.1.setRemaining blind, goes.2⟩
  newStream := fun goes blind =>
    ⟨congrArg Array.size goes.1.streams, goes.1.blind.later _ (Nat.le_refl _),
      goes.1.newStream blind, goes.2⟩
  named := likewise_named
  function := Iff.rfl
  parts := Template.isBlind_of_mem_parts

/-! ## The steps -/

section Steps

variable {known : Known}

theorem blindly_spread {value : Value} (blind : value.isBlind known) :
    Blindly known (AreBlind known) (spread value) :=
  blindTo_of_likewise fun _ _ => (kindred_blind known _ _).likewise_spread blind

theorem blindly_doctypeName (root : Value) : Blindly known Anything (doctypeName root) :=
  blindTo_of_likewise fun _ _ => (kindred_blind known _ _).likewise_doctypeName root

theorem blindly_specContext {spec : Spec} {path : List String} (blind : spec.IsBlind known)
    (operation : String) : Blindly known Anything (specContext spec path operation) :=
  blindTo_of_likewise fun _ _ world world' goes => by
    have same : spec.quoted world'.forest.describe = spec.quoted world.forest.describe :=
      Spec.quoted_congr goes.1.describe blind
    refine .ok ⟨?_, trivial⟩ goes
    rw [same]

/-- A place of the same path and depth is as deep as the settings allow. -/
theorem blindly_readPart {settings : Settings} {value : Value} {place place' : Place}
    (blind : value.isBlind known) (path : place'.path = place.path)
    (depth : place'.depth = place.depth) :
    BlindTo known (fun spec => ∀ found ∈ spec, found.IsBlind known)
      (readPart settings value place) (readPart settings value place') :=
  blindTo_of_likewise fun forest forest' => by
    have kindred := kindred_blind known forest forest'
    refine kindred.likewise_readPart ?_ blind
    unfold checkDepth
    rw [path, depth]
    split
    · exact likewise_pure trivial
    · split
      · exact (kindred.likewise_quoted blind).bind fun _ _ => Echo.throw rfl
      · exact likewise_pure trivial

variable {arguments : List Value}

theorem Function.blindly_call {function : Function} (blind : function.body.isBlind known)
    (given : AreBlind known arguments) :
    Blindly known (fun value => value.isBlind known) (function.call arguments) :=
  blindTo_of_likewise fun _ _ => (kindred_blind known _ _).likewise_call given blind

theorem blindly_flatten (given : AreBlind known arguments) {value : Value}
    (blind : value.isBlind known) : Blindly known Anything (flatten arguments value) :=
  blindTo_of_likewise fun _ _ => (kindred_blind known _ _).likewise_flatten given blind

theorem blindly_flattenAttributes (given : AreBlind known arguments) (attributes : RawAttributes)
    (blind : ∀ entry ∈ attributes, entry.2.isBlind known) :
    Blindly known Anything (flattenAttributes Pure.pure arguments attributes) :=
  blindTo_of_likewise fun _ _ =>
    (kindred_blind known _ _).likewise_flattenAttributes given attributes blind

end Steps

section Parts

variable {known : Known} {scene scene' : Scene} {spec : Spec} {path : List String}
  {children : List Value} {attributes : RawAttributes} (like : scene.Like scene')
  (given : AreBlind known scene.arguments)

include like given

theorem blindTo_childrenText (blind : AreBlind known children) :
    BlindTo known Anything (childrenText scene children) (childrenText scene' children) :=
  blindTo_of_likewise fun _ _ => (kindred_blind known _ _).likewise_childrenText like given blind

theorem blindTo_leadingText (kind : SpecialKind) (blind : AreBlind known children) :
    BlindTo known Anything (leadingText scene kind spec path children)
      (leadingText scene' kind spec path children) :=
  blindTo_of_likewise fun _ _ =>
    (kindred_blind known _ _).likewise_leadingText like given kind blind

theorem blindTo_pseudoAttributes (blind : ∀ entry ∈ attributes, entry.2.isBlind known) :
    BlindTo known Anything (pseudoAttributes scene attributes)
      (pseudoAttributes scene' attributes) :=
  blindTo_of_likewise fun _ _ =>
    (kindred_blind known _ _).likewise_pseudoAttributes like given blind

theorem blindTo_identifier (index : Nat) (key : String) (blind : AreBlind known children)
    (areAttributes : ∀ entry ∈ attributes, entry.2.isBlind known) :
    BlindTo known Anything (identifier scene children index key attributes)
      (identifier scene' children index key attributes) :=
  blindTo_of_likewise fun _ _ =>
    (kindred_blind known _ _).likewise_identifier like given index key blind areAttributes

end Parts

end MarkupSpec
