import MarkupSpec.Proofs.Build.EvenBuilds
import MarkupSpec.Proofs.Namespace.BuiltElements
import MarkupSpec.Proofs.Run.Conduct
import MarkupSpec.Proofs.Session.Requests
import MarkupSpec.Proofs.Spec.MapOrder

/-!
# A build of a reordered spec

A spec is built in one world and the spec with the entries of its maps in another order in
another world.  The worlds stay level: they have the same forest and the same names, and as
many streams, functions and things were made (`World.Level`).  What the streams have to give may
differ, but no value that is still to be built goes by a stream.

Steps that do not look at the order of entries go likewise in level worlds
(`rearranged_of_likewise`).  The others are flattening, where maps are sorted first
(`rearranged_flatten`), and resolving the attributes of an element, which are flattened in the
order that they are written in (`rearranged_resolve`).

The main statement is `compile_reordered`.  With the entries of a map the calls that flatten them
change places.  So it counts here that a function keeps nothing from one call to the next
(`Value`), and there must be no stream that two calls take from.
-/

namespace MarkupSpec

open Forest Build

/-! ## What a build leaves -/

/-- A world comes after another one: numbers were only given, names kept, and nodes only made. -/
structure World.Later (before after : World) : Prop where
  nextId : before.nextId ≤ after.nextId
  names : after.names = before.names
  lasts : Lasts before.forest after.forest

/-- Nodes are described as they were. -/
theorem Forest.Lasts.redescribes {before after : Forest} (lasts : Lasts before after) :
    before.Redescribes after :=
  fun id inside => describe_of_lasting (lasts.content id inside)

theorem World.Later.trans {before middle after : World} (onFirst : before.Later middle)
    (onSecond : middle.Later after) : before.Later after :=
  ⟨Nat.le_trans onFirst.nextId onSecond.nextId, onSecond.names.trans onFirst.names,
    onFirst.lasts.trans onSecond.lasts⟩

/-- Whatever a step may fail for, it only gives new numbers and keeps the names. -/
def Conduct.aging : Conduct where
  leaves := fun before after => before.nextId ≤ after.nextId ∧ after.names = before.names
  fails := fun _ => True
  follows := ⟨fun _ => ⟨Nat.le_refl _, rfl⟩,
    fun onFirst onSecond => ⟨Nat.le_trans onFirst.1 onSecond.1, onSecond.2.trans onFirst.2⟩⟩
  forest _ _ := ⟨Nat.le_refl _, rfl⟩
  streams _ _ := ⟨Nat.le_refl _, rfl⟩
  calls _ _ := ⟨Nat.le_refl _, rfl⟩
  notices _ _ := ⟨Nat.le_refl _, rfl⟩
  nextId _ := ⟨Nat.le_succ _, rfl⟩
  contextless _ _ := trivial

theorem Conduct.aging_anyhow (cause : Failure) : Conduct.aging.fails cause := trivial

/-- A step that ends well ends in a later world. -/
def Advances {α : Type} (step : Build α) : Prop :=
  ∀ world, Ensures step world (fun _ after => world.Later after) fun _ _ => True

section Advancing

variable {α : Type} {step : Build α}

theorem Advances.of_lasts (abides : Abides .aging step)
    (lasts : ∀ world, Ensures step world (fun _ after => Lasts world.forest after.forest)
      fun _ _ => True) : Advances step := by
  intro world
  exact ((abides world).and (lasts world)).mono (fun _ _ both => ⟨both.1.1, both.1.2, both.2⟩)
    fun _ _ _ => trivial

theorem Advances.of_reads (abides : Abides .aging step) (reads : ReadsOnly step) :
    Advances step := by
  refine .of_lasts abides fun world => ?_
  exact (reads world).mono (fun _ _ same => same ▸ Lasts.refl _) fun _ _ _ => trivial

theorem advances_makes {step : Build NodeId} (abides : Abides .aging step) (makes : Makes step) :
    Advances step :=
  .of_lasts abides fun world =>
    (makes world).mono (fun _ _ made => made.1.lasts) fun _ _ _ => trivial

theorem advances_createResolved (document : NodeId) (resolution : Resolution) :
    Advances (edit (createResolved document resolution)) := by
  refine .of_lasts (abides_edit _) fun world => ?_
  rw [ensures_edit, ensures_createResolved]
  refine ⟨fun _ => ?_, fun _ => trivial⟩
  split
  · exact (Lasts.refl _).add _
  · trivial

theorem advances_attach (target : Target) (node : NodeId) : Advances (attach target node) :=
  .of_lasts (abides_attach target node) fun world =>
    (lasts_attach target node world).mono (fun _ _ lasts => lasts.2) fun _ _ _ => trivial

theorem advances_closeSequence (target : Target) (holder : NodeId) (last : Option NodeId) :
    Advances (closeSequence target holder last) := by
  unfold closeSequence
  split
  · exact advances_attach target holder
  · exact .of_reads (abides_pure _) (readsOnly_pure _)

theorem advances_buildWithin (scene : Scene) (budget : Nat) (value : Value) (place : Place) :
    Advances (buildWithin scene budget value place) :=
  .of_lasts (abides_buildWithin Conduct.aging_anyhow scene budget value place) fun world =>
    (grows_buildWithin scene budget value place world).mono (fun _ _ grows => grows.lasts)
      fun _ _ _ => trivial

/-- At most a document is made while a build gets ready. -/
theorem advances_prepare (settings : Settings) (where? : Option (Mode × Value))
    (document arguments : Value) : Advances (prepare settings where? document arguments) := by
  refine .of_lasts (abides_prepare _ _ _ _) fun world => ?_
  rw [prepare]
  refine (readsOnly_spread arguments).ensures_bind (fun given read _ same => ?_)
    fun _ _ _ => trivial
  rw [← same]
  split
  · rw [MarkupSpec.ensures_bind]
    refine Ensures.mono (stays_rootDocument (I := Lasts read.forest)
      (fun _ _ lasts => lasts.add _) (Lasts.refl _) settings document)
      (fun root made lasts => ?_) fun _ _ _ => trivial
    refine (readsOnly_nodeOrNone root).ensures_bind (fun id final _ same => ?_) fun _ _ _ => trivial
    show Lasts read.forest final.forest
    rw [same]
    exact lasts
  · refine (readsOnly_documentFor _ _).ensures_bind (fun id final _ same => ?_) fun _ _ _ => trivial
    rw [MarkupSpec.ensures_bind, ensures_discard]
    refine ensures_implicitParent (fun _ _ => ?_) fun _ => trivial
    show Lasts read.forest final.forest
    rw [same]
    exact Lasts.refl _
  · exact (readsOnly_quoted _).ensures_bind (fun _ _ _ _ => trivial) fun _ _ _ => trivial

end Advancing

/-! ## Level worlds -/

/-- Two worlds that come after a world have the same forest and the same names, and as much was
made in both. -/
structure World.Level (base world world' : World) : Prop where
  later : base.Later world
  forest : world'.forest = world.forest
  names : world'.names = world.names
  nextId : world'.nextId = world.nextId
  size : world'.streams.size = world.streams.size

theorem World.Level.refl {base world : World} (later : base.Later world) : base.Level world world :=
  ⟨later, rfl, rfl, rfl, rfl⟩

/-- If the first build ends well, so does the second one, in level worlds. -/
def World.rearranging (base : World) : Likeness Failure World where
  excuse := fun _ => True
  causes := fun _ _ => False
  states := World.Level base

/-- Streams are set aside, and logs are not compared. -/
def World.terms (base : World) (aside : Nat → Option (List Value × List Value)) : Terms where
  names := base.names
  aside := aside
  logged := False

section Level

variable {base world world' : World}

/-- Level worlds are even where all streams are set aside. -/
theorem World.Level.even (level : base.Level world world')
    (early : ∀ entry ∈ base.names, entry.2.predates base.nextId) :
    ∃ aside, world.Even (base.terms aside) world' := by
  refine ⟨fun id => (world.streams[id]?).bind fun items =>
    (world'.streams[id]?).map fun items' => (items, items'), level.forest, level.nextId,
    level.later.names, level.names.trans level.later.names, ?_, level.size, fun id => ?_,
    False.elim⟩
  · exact fun entry among => Value.isClear_of_isStill _ _ (early entry among)
  · rcases Nat.lt_or_ge id world.streams.size with inside | beyond
    · have inside' : id < world'.streams.size := level.size ▸ inside
      rw [Array.getElem?_eq_getElem inside, Array.getElem?_eq_getElem inside']
      exact .unread (by simp [terms, inside, inside'])
    · have beyond' : world'.streams.size ≤ id := level.size ▸ beyond
      rw [Array.getElem?_eq_none beyond, Array.getElem?_eq_none beyond']
      exact .missing (by simp [terms, beyond])

theorem World.Even.level {aside : Nat → Option (List Value × List Value)}
    (even : world.Even (base.terms aside) world') (later : base.Later world) :
    base.Level world world' :=
  ⟨later, even.forest, even.names'.trans even.names.symm, even.nextId, even.size⟩

variable {α β : Type} {done : α → β → Prop}

/-- A step that never ends well is echoed by any step. -/
theorem rearranged_of_fails {first : Build α}
    (fails : ∀ world, ∃ cause after, first world = .error cause after) (second : Build β) :
    Echo base.rearranging done first second := by
  intro world world' _
  obtain ⟨cause, after, run⟩ := fails world
  rw [run]
  exact .excused trivial

end Level

section Rearranged

variable {α β : Type} {base : World} {scene : Scene} (provides : base.Provides scene.arguments)

include provides

/-- Steps that echo one another whatever is set aside do so in level worlds. -/
theorem rearranged_of_echo {done : α → β → Prop} {step : Build α} {step' : Build β}
    (advances : Advances step)
    (echo : ∀ aside, Echo (base.terms aside).likeness done step step') :
    Echo base.rearranging done step step' := by
  intro world world' level
  obtain ⟨aside, even⟩ := World.Level.even level provides.names
  have echoes := echo aside world world' even
  have later := advances world
  unfold Ensures at later
  cases run : step world with
  | error cause after => exact .excused trivial
  | ok result after =>
      rw [run] at echoes later
      obtain ⟨result', after', run', holds, even⟩ := echoes.of_ok
      rw [run']
      exact .ok holds (World.Even.level even ((World.Level.later level).trans later))

/-- Steps that go likewise whatever is set aside do so in level worlds. -/
theorem rearranged_of_likewise {R : α → Prop} {step step' : Build α} (advances : Advances step)
    (likewise : ∀ aside, Likewise (base.terms aside).likeness R step step') :
    Echo base.rearranging Eq step step' :=
  rearranged_of_echo provides advances fun aside =>
    Echo.mono (likewise aside) fun _ _ holds => holds.1.symm

theorem clear_arguments (terms : Terms) : AreClear terms scene.arguments :=
  fun argument among => Value.isClear_of_isStill terms argument (provides.arguments argument among)

/-! ## Texts -/

variable {value value' : Value} {children children' : List Value}
  {attributes attributes' : RawAttributes} {spec spec' : Spec} {path : List String}

/-- A reordered value comes to the same text. -/
theorem rearranged_flatten (atHand : value.isAtHand base.forest)
    (reordered : Reordered base.forest.describe value value') :
    Echo base.rearranging Eq (flatten scene.arguments value) (flatten scene.arguments value') := by
  have same : Echo base.rearranging Eq (flatten scene.arguments value)
      (flatten scene.arguments value) :=
    rearranged_of_likewise provides
      (.of_reads (abides_flatten _ value) (readsOnly_flatten _ value)) fun aside =>
        (kindred_clear _).likewise_flatten (clear_arguments provides _)
          (Value.isClear_of_isStill _ value atHand)
  intro world world' level
  rw [flatten_reordered (World.Level.later level).lasts.redescribes scene.arguments atHand
    reordered (World.Level.forest level)]
  exact same world world' level

theorem rearranged_childrenText (areAtHand : ∀ child ∈ children, child.isAtHand base.forest)
    (all : List.Forall₂ (Reordered base.forest.describe) children children') :
    Echo base.rearranging Eq (childrenText scene children) (childrenText scene children') := by
  have isAtHand := (inherited_isAtHand base.forest).list.mpr areAtHand
  have flattens := rearranged_flatten provides isAtHand (.list all)
  exact flattens.bind_same fun _ => Echo.pure rfl

/-- A child that is missing stands for null. -/
theorem rearranged_child (areAtHand : ∀ child ∈ children, child.isAtHand base.forest)
    (all : List.Forall₂ (Reordered base.forest.describe) children children') (index : Nat) :
    Echo base.rearranging Eq (flatten scene.arguments (children[index]?.getD .null))
      (flatten scene.arguments (children'[index]?.getD .null)) := by
  have isAtHand := (inherited_isAtHand base.forest).of_getElem areAtHand index
  exact rearranged_flatten provides isAtHand (reordered_getElem all index)

theorem rearranged_leadingText (kind : SpecialKind)
    (areAtHand : ∀ child ∈ children, child.isAtHand base.forest)
    (all : List.Forall₂ (Reordered base.forest.describe) children children') :
    Echo base.rearranging Eq (leadingText scene kind spec path children)
      (leadingText scene kind spec' path children') := by
  unfold leadingText
  rw [List.head?_eq_getElem?, List.head?_eq_getElem?]
  refine (rearranged_child provides areAtHand all 0).bind_same fun text => ?_
  cases text with
  | some text => exact Echo.pure rfl
  | none => exact rearranged_of_fails (fun world => ⟨_, _, rfl⟩) _

theorem rearranged_identifier (index : Nat) (key : String)
    (areAtHand : ∀ child ∈ children, child.isAtHand base.forest)
    (areAtHand' : ∀ entry ∈ attributes, entry.2.isAtHand base.forest)
    (all : List.Forall₂ (Reordered base.forest.describe) children children')
    (reordered : ReorderedAttributes base.forest.describe attributes attributes') :
    Echo base.rearranging Eq (identifier scene children index key attributes)
      (identifier scene children' index key attributes') := by
  unfold identifier
  refine (rearranged_child provides areAtHand all index).bind_same fun text => ?_
  cases text with
  | some text => exact Echo.pure rfl
  | none =>
      have isAtHand := (inherited_isAtHand base.forest).of_lookup areAtHand' key
      exact rearranged_flatten provides isAtHand (reordered.lookup key)

theorem rearranged_pseudoAttributes
    (areAtHand : ∀ entry ∈ attributes, entry.2.isAtHand base.forest)
    (goes : List.Forall₂ (EntryGoes (Reordered base.forest.describe)) attributes attributes') :
    Echo base.rearranging Eq (pseudoAttributes scene attributes)
      (pseudoAttributes scene attributes') := by
  induction goes with
  | nil => exact Echo.pure rfl
  | cons first _ ih =>
      rw [List.forall_mem_cons] at areAtHand
      have rest := ih areAtHand.2
      cases first with
      | entry reordered =>
          unfold pseudoAttributes
          refine (rearranged_flatten provides areAtHand.1 reordered).bind_same fun text => ?_
          cases text with
          | none => exact rest
          | some text => exact rest.bind_same fun _ => Echo.pure rfl

/-! ## Nodes without children of their own -/

theorem rearranged_create {content : Content} (noDocument : content.isDocument = false) :
    Echo base.rearranging Eq (edit (Edit.create scene.document content))
      (edit (Edit.create scene.document content)) :=
  rearranged_of_likewise provides (advances_makes (abides_edit _) (makes_create noDocument))
    fun _ => likewise_edit _

theorem rearranged_attach (target : Target) (node : NodeId) :
    Echo base.rearranging Eq (attach target node) (attach target node) :=
  rearranged_of_likewise provides (advances_attach target node) fun _ => likewise_attach target node

theorem rearranged_buildInstruction (areAtHand : ∀ child ∈ children, child.isAtHand base.forest)
    (areAtHand' : ∀ entry ∈ attributes, entry.2.isAtHand base.forest)
    (all : List.Forall₂ (Reordered base.forest.describe) children children')
    (reordered : ReorderedAttributes base.forest.describe attributes attributes') :
    Echo base.rearranging Eq (buildInstruction scene spec path children attributes)
      (buildInstruction scene spec' path children' attributes') := by
  unfold buildInstruction
  refine (rearranged_leadingText provides .instruction areAtHand all).bind_same fun target => ?_
  have tails := forall₂_tail all
  have tailsAtHand : ∀ child ∈ children.tail, child.isAtHand base.forest :=
    fun child among => areAtHand child (List.mem_of_mem_tail among)
  dsimp only
  generalize children.tail = others at tails tailsAtHand ⊢
  generalize children'.tail = others' at tails ⊢
  cases tails with
  | nil =>
      have sortedAtHand : ∀ entry ∈ Text.sortByText Prod.fst attributes,
          entry.2.isAtHand base.forest :=
        fun entry among => areAtHand' entry (Text.mem_sortByText.mp among)
      exact (rearranged_pseudoAttributes provides sortedAtHand reordered.sorted).bind_same
        fun _ => rearranged_create provides rfl
  | cons first rest =>
      exact (rearranged_childrenText provides tailsAtHand (.cons first rest)).bind_same
        fun _ => rearranged_create provides rfl

theorem rearranged_buildDoctype (areAtHand : ∀ child ∈ children, child.isAtHand base.forest)
    (areAtHand' : ∀ entry ∈ attributes, entry.2.isAtHand base.forest)
    (all : List.Forall₂ (Reordered base.forest.describe) children children')
    (reordered : ReorderedAttributes base.forest.describe attributes attributes') :
    Echo base.rearranging Eq (buildDoctype scene spec path children attributes)
      (buildDoctype scene spec' path children' attributes') := by
  unfold buildDoctype
  refine (rearranged_leadingText provides .doctype areAtHand all).bind_same fun name => ?_
  have identifies (index : Nat) (key : String) :=
    rearranged_identifier provides index key areAtHand areAtHand' all reordered
  refine (identifies 1 "public").bind_same fun publicId => ?_
  refine (identifies 2 "system").bind_same fun systemId => ?_
  exact rearranged_of_likewise provides
    (advances_makes (abides_giveDoctype _ _ _ _) (makes_giveDoctype _ _ _ _))
    fun _ => likewise_giveDoctype _ _ _ _

/-- A node without parts gets its place, however it was made. -/
theorem rearranged_buildLeaf {place : Place}
    (makes : Echo base.rearranging Eq (makeLeaf scene place.path spec)
      (makeLeaf scene place.path spec')) :
    Echo base.rearranging Eq (buildLeaf scene place spec) (buildLeaf scene place spec') := by
  unfold buildLeaf
  refine makes.bind_same fun node => ?_
  exact (rearranged_attach provides _ _).bind_same fun _ => Echo.pure rfl

/-! ## Elements -/

/-- Attributes in another order come to the same texts in another order. -/
theorem rearranged_flattenAttributes
    (areAtHand : ∀ entry ∈ attributes, entry.2.isAtHand base.forest)
    (reordered : ReorderedAttributes base.forest.describe attributes attributes') :
    Echo base.rearranging (fun texts texts' => Unambiguous texts ∧ texts.Perm texts')
      (flattenAttributes pure scene.arguments attributes)
      (flattenAttributes pure scene.arguments attributes') := by
  obtain ⟨between, perm, goes⟩ := reordered.swap
  intro world world' level
  have level : base.Level world world' := level
  have later := level.later
  cases run : flattenAttributes pure scene.arguments attributes world with
  | error => exact .excused trivial
  | ok texts after =>
      -- All functions can go by was there in the base, though the forest may have grown since.
      have grown : World.Provides { world with nextId := base.nextId } scene.arguments :=
        ⟨later.names ▸ provides.names, provides.arguments⟩
      have since : World.Since { world with nextId := base.nextId } world :=
        ⟨rfl, rfl, later.nextId⟩
      have since' : World.Since { world with nextId := base.nextId } world' :=
        ⟨level.forest, level.names, level.nextId.symm ▸ later.nextId⟩
      have keys : (texts.map Prod.fst).Sublist (attributes.map Prod.fst) := by
        obtain ⟨-, rfl, -⟩ := yields_of_flattenAttributes grown since areAtHand run
        exact keys_of_attribute? _
      obtain ⟨texts', after', ids, streams, run', same, adds, adds'⟩ :=
        flattenAttributes_perm grown perm since since' areAtHand run
      rw [flattenAttributes_reordered later.lasts.redescribes scene.arguments
        (fun entry among => areAtHand entry (perm.mem_iff.mpr among)) goes
        level.forest, run']
      refine .ok ⟨reordered.unambiguous.of_sublist keys, same⟩ ?_
      obtain ⟨_, isMore, size⟩ := adds.streams
      obtain ⟨_, isMore', size'⟩ := adds'.streams
      refine ⟨later.trans ⟨?_, adds.names, ?_⟩, ?_, ?_, ?_, ?_⟩
      · exact adds.nextId ▸ Nat.le_add_right _ _
      · exact adds.forest ▸ Lasts.refl _
      · rw [adds'.forest, adds.forest, level.forest]
      · rw [adds'.names, adds.names, level.names]
      · rw [adds'.nextId, adds.nextId, level.nextId]
      · rw [isMore', isMore, Array.size_append, Array.size_append, size, size',
          level.size]

/-- An element with attributes in another order is resolved to the same. -/
theorem rearranged_resolve (name : String) (nodes : List NodeId)
    (context context' : Option ErrorContext) (level : ErrorLevel)
    (areAtHand : ∀ entry ∈ attributes, entry.2.isAtHand base.forest)
    (reordered : ReorderedAttributes base.forest.describe attributes attributes') :
    Echo base.rearranging Resolution.Alike
      (resolve name attributes nodes scene.arguments context level)
      (resolve name attributes' nodes scene.arguments context' level) := by
  refine (rearranged_flattenAttributes provides areAtHand reordered).bind ?_
  rintro texts texts' ⟨unambiguous, perm⟩
  have ends (scope : List (String × String)) : Echo base.rearranging Resolution.Alike
      (resolutionOr name context level (resolveIn scope name (sortAttributes texts)))
      (resolutionOr name context' level (resolveIn scope name (sortAttributes texts'))) := by
    cases found : resolveIn scope name (sortAttributes texts) with
    | error missing => exact rearranged_of_fails (fun world => ⟨_, _, rfl⟩) _
    | ok resolution =>
        obtain ⟨resolution', found', alike⟩ := resolveIn_of_perm unambiguous perm found
        rw [found']
        exact Echo.pure alike
  unfold resolveFlat
  dsimp only
  rw [isEmpty_openQualifiers_of_perm unambiguous perm]
  split
  · exact ends []
  · have scopes : Echo base.rearranging Eq (scopeAt nodes) (scopeAt nodes) :=
      rearranged_of_likewise provides (.of_reads (abides_scopeAt nodes) (readsOnly_scopeAt nodes))
        fun _ => likewise_scopeAt nodes
    exact scopes.bind_same ends

theorem rearranged_resolveElement {place : Place} {name name' : Value}
    (isAtHand : name.isAtHand base.forest)
    (areAtHand : ∀ entry ∈ attributes, entry.2.isAtHand base.forest)
    (names : Reordered base.forest.describe name name')
    (reordered : ReorderedAttributes base.forest.describe attributes attributes') :
    Echo base.rearranging (fun found found' => found'.1 = found.1 ∧ found.2.Alike found'.2)
      (resolveElement scene place spec name attributes)
      (resolveElement scene place spec' name' attributes') := by
  have contexts : Echo base.rearranging (fun _ _ => True) (specContext spec place.path "element")
      (specContext spec' place.path "element") := fun _ _ level => .ok trivial level
  unfold resolveElement
  refine contexts.bind fun context context' _ => ?_
  refine (rearranged_flatten provides isAtHand names).bind_same fun text => ?_
  cases text with
  | none => exact rearranged_of_fails (fun world => ⟨_, _, rfl⟩) _
  | some text =>
      have nearest : Echo base.rearranging Eq place.nearest place.nearest :=
        rearranged_of_likewise provides (.of_reads (abides_nearest place) (readsOnly_nearest place))
          fun _ => likewise_nearest (.refl place)
      refine nearest.bind_same fun near => ?_
      refine (rearranged_resolve provides text _ _ _ _ areAtHand reordered).bind ?_
      exact fun _ _ alike => Echo.pure ⟨rfl, alike⟩

/-- The same element is made, with the same place inside of it. -/
theorem rearranged_makeElement {place : Place} {name name' : Value}
    (isAtHand : name.isAtHand base.forest)
    (areAtHand : ∀ entry ∈ attributes, entry.2.isAtHand base.forest)
    (names : Reordered base.forest.describe name name')
    (reordered : ReorderedAttributes base.forest.describe attributes attributes') :
    Echo base.rearranging (fun made made' => made'.element = made.element ∧
        made'.inside = made.inside) (makeElement scene place spec name attributes)
      (makeElement scene place spec' name' attributes') := by
  unfold makeElement
  refine (rearranged_resolveElement provides isAtHand areAtHand names reordered).bind ?_
  rintro ⟨near, resolution⟩ ⟨_, resolution'⟩ ⟨rfl, alike⟩
  dsimp only at alike ⊢
  rw [alike.createResolved]
  have creates : Echo base.rearranging Eq (edit (createResolved scene.document resolution))
      (edit (createResolved scene.document resolution)) :=
    rearranged_of_likewise provides (advances_createResolved _ _) fun _ => likewise_edit _
  refine creates.bind_same fun element => ?_
  refine (rearranged_attach provides _ _).bind_same fun _ => Echo.pure ⟨rfl, ?_⟩
  simp only [Place.within, alike.name]

/-! ## The build -/

section Below

variable {below : Builder}
  (each : ∀ (value value' : Value) (place : Place), value.isAtHand base.forest →
    Reordered base.forest.describe value value' →
      Echo base.rearranging Eq (below value place) (below value' place))

include each

omit provides in
theorem rearranged_buildMembers {items items' : List Value} (place : Place) (index : Nat)
    (last : Option NodeId) (areAtHand : ∀ item ∈ items, item.isAtHand base.forest)
    (all : List.Forall₂ (Reordered base.forest.describe) items items') :
    Echo base.rearranging Eq (buildMembers below place index last items)
      (buildMembers below place index last items') := by
  induction all generalizing index last with
  | nil => exact Echo.pure rfl
  | cons first _ ih =>
      rw [List.forall_mem_cons] at areAtHand
      unfold buildMembers
      exact (each _ _ _ areAtHand.1 first).bind_same fun node => ih _ _ areAtHand.2

theorem rearranged_buildSequence {items items' : List Value} (place : Place)
    (areAtHand : ∀ item ∈ items, item.isAtHand base.forest)
    (all : List.Forall₂ (Reordered base.forest.describe) items items') :
    Echo base.rearranging Eq (buildSequence scene below place items)
      (buildSequence scene below place items') := by
  have parents : Echo base.rearranging Eq (implicitParent place.target)
      (implicitParent place.target) :=
    rearranged_of_likewise provides (.of_reads (abides_implicitParent _)
      (readsOnly_implicitParent _)) fun _ => likewise_implicitParent _
  have opens : Echo base.rearranging Eq (openSequence scene place) (openSequence scene place) := by
    refine parents.bind_same fun parent => Echo.bind_same ?_ fun _ => Echo.pure rfl
    unfold holderFor
    split
    · exact Echo.pure rfl
    · exact rearranged_create provides rfl
  refine opens.bind_same fun inside => ?_
  refine (rearranged_buildMembers each inside 0 none areAtHand all).bind_same fun last => ?_
  have closes : Echo base.rearranging Eq (closeSequence place.target inside.target.reference last)
      (closeSequence place.target inside.target.reference last) :=
    rearranged_of_likewise provides (advances_closeSequence _ _ _)
      fun _ => likewise_closeSequence _ _ _
  exact closes.bind_same fun _ => Echo.pure rfl

theorem rearranged_buildElement {place : Place} {name name' : Value}
    (isAtHand : name.isAtHand base.forest)
    (areAtHand : ∀ child ∈ children, child.isAtHand base.forest)
    (areAtHand' : ∀ entry ∈ attributes, entry.2.isAtHand base.forest)
    (names : Reordered base.forest.describe name name')
    (all : List.Forall₂ (Reordered base.forest.describe) children children')
    (reordered : ReorderedAttributes base.forest.describe attributes attributes') :
    Echo base.rearranging Eq (buildElement scene below place spec name attributes children)
      (buildElement scene below place spec' name' attributes' children') := by
  unfold buildElement
  refine (rearranged_makeElement provides isAtHand areAtHand' names reordered).bind ?_
  rintro made made' ⟨element, inside⟩
  rw [element, inside, isEmpty_of_forall₂ all]
  split
  · exact Echo.pure rfl
  · have isAtHand := (inherited_isAtHand base.forest).list.mpr areAtHand
    exact (each _ _ made.inside isAtHand (.list all)).bind_same fun _ => Echo.pure rfl

/-- What a reordered value was read as is built to the same if what is below it is. -/
theorem rearranged_buildSpec {place : Place}
    (areAtHand : spec.Has fun part => part.isAtHand base.forest)
    (reordered : Spec.Reordered base.forest.describe spec spec') :
    Echo base.rearranging Eq (buildSpec scene below place spec)
      (buildSpec scene below place spec') := by
  have inherited := inherited_isAtHand base.forest
  cases reordered with
  | sequence all =>
      exact rearranged_buildSequence provides each place (inherited.sequence.mp areAtHand) all
  | element names attributes all =>
      obtain ⟨isAtHand, areAtHand', areAtHand⟩ := inherited.element.mp areAtHand
      exact rearranged_buildElement provides each isAtHand areAtHand areAtHand' names all attributes
  | doctype all attributes =>
      obtain ⟨areAtHand, areAtHand'⟩ := inherited.doctype.mp areAtHand
      exact (rearranged_buildDoctype provides areAtHand areAtHand' all attributes).bind_same
        fun _ => Echo.pure rfl
  | comment all =>
      refine rearranged_buildLeaf provides ?_
      exact (rearranged_childrenText provides (inherited.comment.mp areAtHand) all).bind_same
        fun _ => rearranged_create provides rfl
  | cdata all =>
      refine rearranged_buildLeaf provides ?_
      exact (rearranged_childrenText provides (inherited.cdata.mp areAtHand) all).bind_same
        fun _ => rearranged_create provides rfl
  | instruction all attributes =>
      obtain ⟨areAtHand, areAtHand'⟩ := inherited.instruction.mp areAtHand
      exact rearranged_buildLeaf provides
        (rearranged_buildInstruction provides areAtHand areAtHand' all attributes)

end Below

omit provides in
/-- A value that is not the same any more is read as the same with reordered parts. -/
theorem rearranged_parse (settings : Settings) (path : List String)
    (isAtHand : value.isAtHand base.forest)
    (reordered : Reordered base.forest.describe value value') (differ : value' ≠ value) :
    Echo base.rearranging (Option.Rel fun spec spec' =>
        spec.Has (fun part => part.isAtHand base.forest) ∧
          Spec.Reordered base.forest.describe spec spec')
      (parse settings path value) (parse settings path value') := by
  intro world world' level
  cases run : parse settings path value world with
  | error => exact .excused trivial
  | ok part after =>
      cases part with
      | none =>
          obtain ⟨isCountable, isAbsent, rfl⟩ := nothing_of_parse run
          rw [← reordered.isCountable] at isCountable
          rw [← reordered.isAbsent] at isAbsent
          rw [parse_of_isAbsent isCountable isAbsent]
          exact .ok .none level
      | some spec =>
          have isStreamless : value.isStreamless := Value.isClear_of_isStill _ value isAtHand
          obtain ⟨reads, rfl⟩ := reading_of_parse isStreamless run
          obtain ⟨spec', reads', goes⟩ := (reading_reordered reordered reads).resolve_left differ
          rw [isReadAs_of_reading reads' path]
          exact .ok (.some ⟨(inherited_isAtHand _).of_reading isAtHand reads, goes⟩) level

theorem rearranged_readPart (settings : Settings) (place : Place)
    (isAtHand : value.isAtHand base.forest)
    (reordered : Reordered base.forest.describe value value') (differ : value' ≠ value) :
    Echo base.rearranging (Option.Rel fun spec spec' =>
        spec.Has (fun part => part.isAtHand base.forest) ∧
          Spec.Reordered base.forest.describe spec spec')
      (readPart settings value place) (readPart settings value' place) := by
  have checks : Echo base.rearranging Eq (checkDepth settings value place)
      (checkDepth settings value' place) :=
    rearranged_of_likewise provides (.of_reads (abides_checkDepth Conduct.aging_anyhow _ _ _)
      (readsOnly_checkDepth _ _ _)) fun _ => likewise_checkDepth trivial (.inr rfl)
  have notes (text text' : String) : Echo base.rearranging Eq
      (note .debug .compiling text) (note .debug .compiling text') :=
    rearranged_of_likewise provides (.of_reads (abides_note _ _ _) (readsOnly_note _ _ _))
      fun _ => (kindred_clear _).likewise_note _ _ _ _
  unfold readPart
  refine checks.bind_same fun _ => ?_
  refine (rearranged_parse settings place.path isAtHand reordered differ).bind ?_
  rintro _ _ (goes | _)
  · exact (notes _ _).bind_same fun _ => Echo.pure (.some goes)
  · exact Echo.pure .none

/-- A reordered value is built to the same. -/
theorem rearranged_buildWithin : ∀ (budget : Nat) (value value' : Value) (place : Place),
    value.isAtHand base.forest → Reordered base.forest.describe value value' →
      Echo base.rearranging Eq (buildWithin scene budget value place)
        (buildWithin scene budget value' place)
  | 0, _, _, _, _, _ => rearranged_of_fails (fun _ => ⟨_, _, rfl⟩) _
  | budget + 1, value, value', place, isAtHand, reordered => by
      by_cases same : value' = value
      · subst same
        have likewise (aside) : Likewise (base.terms aside).likeness Anything
            (buildWithin scene (budget + 1) value' place)
            (buildWithin scene (budget + 1) value' place) :=
          likewise_buildWithin trivial (clear_arguments provides _) _ _ (.inl ⟨trivial, rfl⟩)
            value' place place (Value.isClear_of_isStill _ value' isAtHand) (.refl place)
        exact rearranged_of_likewise provides (advances_buildWithin _ _ _ _) likewise
      · unfold buildWithin
        refine (rearranged_readPart provides _ place isAtHand reordered same).bind ?_
        rintro _ _ (⟨areAtHand, goes⟩ | _)
        · exact rearranged_buildSpec provides (rearranged_buildWithin budget) areAtHand goes
        · exact Echo.pure rfl

end Rearranged

/-! ## Whole builds -/

/-- The order of maps does not matter.  If a spec without streams can be built, then so can any
spec that has the entries of its maps in another order, and it comes to the same result and to
the same forest.  Functions may be called, if neither the arguments that they are called with nor
the values that have a name hold a stream, so that no call can tell which ones came before it. -/
theorem compile_reordered {settings : Settings} {spec spec' document arguments result : Value}
    {where? : Option (Mode × Value)} {before after : World}
    (reordered : Reordered before.forest.describe spec spec')
    (isAtHand : spec.isAtHand before.forest)
    (given : ∀ items read, spread arguments before = .ok items read →
      ∀ item ∈ items, item.predates before.nextId)
    (names : ∀ entry ∈ before.names, entry.2.predates before.nextId)
    (run : compile settings spec where? document arguments before = .ok result after) :
    ∃ after', compile settings spec' where? document arguments before = .ok result after' ∧
      after'.forest = after.forest := by
  obtain ⟨task, start, prepared, built⟩ := bind_eq_ok.mp run
  obtain ⟨last, _, built, ends⟩ := bind_eq_ok.mp built
  cases ends
  obtain ⟨-, read, spreads⟩ := scene_of_prepare prepared
  have provides : before.Provides task.scene.arguments := ⟨names, given _ read spreads⟩
  have later : before.Later start := (advances_prepare _ _ _ _ before).of_ok prepared
  have echoes := rearranged_buildWithin provides settings.budget spec spec'
    { target := task.target } isAtHand reordered start start (.refl later)
  rw [built] at echoes
  obtain ⟨last', after', built', same, level⟩ := echoes.of_ok
  subst same
  refine ⟨after', ?_, World.Level.forest level⟩
  exact bind_eq_ok.mpr ⟨task, start, prepared, bind_eq_ok.mpr ⟨last, after', built', rfl⟩⟩

/-- The attributes of an element, in order. -/
def Forest.attributesAt (forest : Forest) (id : NodeId) : List (String × String) :=
  match forest.content? id with
  | some (.element tag) => tag.attributes.map fun entry => (entry.name, entry.value)
  | _ => []

/-- A world in which one function was made. -/
def oneMade : World := { nextId := 1 }

/-- A function that gives its argument by a stream of its own. -/
def streaming : Function where
  id := 0
  label := none
  body := .stream [.argument 0]

/-- An element with a qualifier that it declares, a text that a function gives, and two maps inside
of it. -/
def ordered : Value :=
  .map
    [(.null, .list
        [.text "q:x", .map [(.text "#comment", .map [(.text "k", .int 1), (.text "l", .int 2)])]]),
      (.text "xmlns:q", .text "urn:q"), (.text "q:a", .function streaming),
      (.text "b", .map [(.text "u", .int 3), (.text "v", .function streaming)])]

/-- The same with all maps the other way round. -/
def turned : Value :=
  .map
    [(.text "b", .map [(.text "v", .function streaming), (.text "u", .int 3)]),
      (.text "q:a", .function streaming), (.text "xmlns:q", .text "urn:q"),
      (.null, .list
        [.text "q:x", .map [(.text "#comment", .map [(.text "l", .int 2), (.text "k", .int 1)])]])]

theorem reordered_turned : Reordered oneMade.forest.describe ordered turned := by
  have apart {entries : Entries} (texts : (entries.map fun entry =>
      entry.1.plain oneMade.forest.describe).Nodup) (declared : (entries.filterMap fun entry =>
        entry.1.text?.bind declaredQualifier?).Nodup) :
      TellsApart oneMade.forest.describe entries := ⟨texts, declared⟩
  have numbers : Reordered oneMade.forest.describe
      (.map [(.text "k", .int 1), (.text "l", .int 2)])
      (.map [(.text "l", .int 2), (.text "k", .int 1)]) :=
    .map (apart (by decide +kernel) (by decide +kernel))
      (.cons (.entry (.same _)) (.cons (.entry (.same _)) .nil)) (List.Perm.swap _ _ _)
  have words : Reordered oneMade.forest.describe
      (.map [(.text "u", .int 3), (.text "v", .function streaming)])
      (.map [(.text "v", .function streaming), (.text "u", .int 3)]) :=
    .map (apart (by decide +kernel) (by decide +kernel))
      (.cons (.entry (.same _)) (.cons (.entry (.same _)) .nil)) (List.Perm.swap _ _ _)
  have comment : Reordered oneMade.forest.describe
      (.map [(.text "#comment", .map [(.text "k", .int 1), (.text "l", .int 2)])])
      (.map [(.text "#comment", .map [(.text "l", .int 2), (.text "k", .int 1)])]) :=
    .map (apart (by decide +kernel) (by decide +kernel)) (.cons (.entry numbers) .nil) (.refl _)
  exact .map (apart (by decide +kernel) (by decide +kernel))
    (.cons (.entry (.list (.cons (.same _) (.cons comment .nil))))
      (.cons (.entry (.same _)) (.cons (.entry (.same _)) (.cons (.entry words) .nil))))
    (List.reverse_perm _).symm

/-- Both ways the same element is built, with the same attributes in the same order. -/
theorem compile_reordered_turned : ∃ result after after',
    compile {} ordered none .null (.list [.text "y"]) oneMade = .ok result after ∧
      compile {} turned none .null (.list [.text "y"]) oneMade = .ok result after' ∧
      after'.forest = after.forest ∧
      after.forest.attributesAt 1 = [("xmlns:q", "urn:q"), ("b", "u: 3 v: y"), ("q:a", "y")] := by
  have ends : endsIn (compile {} ordered none .null (.list [.text "y"])) oneMade
      (fun _ after => after.forest.attributesAt 1 =
        [("xmlns:q", "urn:q"), ("b", "u: 3 v: y"), ("q:a", "y")]) fun _ _ => False := by
    decide +kernel
  cases run : compile {} ordered none .null (.list [.text "y"]) oneMade with
  | error => exact (failed_of_endsIn ends run).elim
  | ok result after =>
      have given : ∀ items read, spread (.list [.text "y"]) oneMade = .ok items read →
          ∀ item ∈ items, item.predates oneMade.nextId := by
        intro items read spreads
        cases spreads
        exact List.forall_mem_singleton.mpr rfl
      obtain ⟨after', run', same⟩ := compile_reordered reordered_turned (by decide +kernel) given
        (List.forall_mem_nil _) run
      have attributes := done_of_endsIn ends run
      exact ⟨result, after, after', rfl, run', same, attributes⟩

/-- A world in which a stream of one text was made, and one function. -/
def oneStream : World := { streams := #[[.text "y"]], nextId := 1 }

/-- A function that gives its argument. -/
def giving : Function where
  id := 0
  label := none
  body := .argument 0

/-- An element with two attributes that a function gives. -/
def vying (first second : String) : Value :=
  .map [(.null, .text "x"), (.text first, .function giving), (.text second, .function giving)]

/-- If the argument is a stream, the attribute that is written down first takes what it has to
give, and there is nothing left for the other one. -/
theorem vying_differs : Reordered oneStream.forest.describe (vying "a" "b") (vying "b" "a") ∧
    (vying "a" "b").isAtHand oneStream.forest ∧
    ∃ result after result' after',
      compile {} (vying "a" "b") none .null (.list [.stream 0]) oneStream = .ok result after ∧
      compile {} (vying "b" "a") none .null (.list [.stream 0]) oneStream = .ok result' after' ∧
      after.forest.attributesAt 1 = [("a", "y")] ∧ after'.forest.attributesAt 1 = [("b", "y")] := by
  refine ⟨?_, by decide +kernel, ?_⟩
  · refine .map ⟨by decide +kernel, by decide +kernel⟩ (List.forall₂_same.mpr fun entry _ => ?_)
      ((List.Perm.swap _ _ _).cons _)
    exact .of_key rfl (.same _)
  · have ends : endsIn (compile {} (vying "a" "b") none .null (.list [.stream 0])) oneStream
        (fun _ after => after.forest.attributesAt 1 = [("a", "y")]) fun _ _ => False := by
      decide +kernel
    have ends' : endsIn (compile {} (vying "b" "a") none .null (.list [.stream 0])) oneStream
        (fun _ after => after.forest.attributesAt 1 = [("b", "y")]) fun _ _ => False := by
      decide +kernel
    cases run : compile {} (vying "a" "b") none .null (.list [.stream 0]) oneStream with
    | error => exact (failed_of_endsIn ends run).elim
    | ok result after =>
        cases run' : compile {} (vying "b" "a") none .null (.list [.stream 0]) oneStream with
        | error => exact (failed_of_endsIn ends' run').elim
        | ok result' after' =>
            have attributes := done_of_endsIn ends run
            have attributes' := done_of_endsIn ends' run'
            exact ⟨result, after, result', after', rfl, rfl, attributes, attributes'⟩

end MarkupSpec
