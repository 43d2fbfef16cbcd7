import MarkupSpec.Compile
import MarkupSpec.Proofs.Run.Ensures

/-!
# What all steps abide by

A conduct says what a step that ends well may leave of a world, and what a step may fail for
(`Conduct`).  It allows any change of the forest, of the streams, of the log and of the notices,
the next identity, and every failure that does not say where in a spec it arose.

So filling and calling, flattening, attaching and every edit abide by any conduct (`Abides`).
Only reading a map, making an element, taking the leading text of a node and checking the depth
of a place fail in the context of a spec.  They abide by a conduct that allows all failures, and
so does a whole build (`abides_buildWithin`).
-/

namespace MarkupSpec

open Build

/-- Where in the spec a failure says that it arose. -/
def Failure.context? : Failure → Option ErrorContext
  | .spec error => error.context
  | _ => none

/-- What a step may leave of a world, and what it may fail for. -/
structure Conduct where
  leaves : World → World → Prop
  fails : Failure → Prop
  follows : Follows leaves
  forest : ∀ world forest, leaves world { world with forest }
  streams : ∀ world streams, leaves world { world with streams }
  calls : ∀ world calls, leaves world { world with calls }
  notices : ∀ world notices, leaves world { world with notices }
  nextId : ∀ world, leaves world { world with nextId := world.nextId + 1 }
  contextless : ∀ cause : Failure, cause.context? = none → fails cause

/-- Whatever it leaves of a world, a step fails for nothing that says where in a spec it arose. -/
def Conduct.silent : Conduct where
  leaves := fun _ _ => True
  fails := fun cause => cause.context? = none
  follows := ⟨fun _ => trivial, fun _ _ => trivial⟩
  forest _ _ := trivial
  streams _ _ := trivial
  calls _ _ := trivial
  notices _ _ := trivial
  nextId _ := trivial
  contextless _ none := none

/-- The step leaves of every world what it may, or fails for what it may. -/
def Abides {α : Type} (conduct : Conduct) (step : Build α) : Prop :=
  ∀ world, Ensures step world (fun _ => conduct.leaves world) fun cause _ => conduct.fails cause

section Rules

variable {α β : Type} {conduct : Conduct}

theorem abides_pure (result : α) : Abides conduct (pure result : Build α) :=
  fun world => conduct.follows.refl world

theorem abides_throw {cause : Failure} (none : cause.context? = none) :
    Abides conduct (throw cause : Build α) := fun _ => conduct.contextless cause none

theorem abides_get : Abides conduct (get : Build World) := fun world => conduct.follows.refl world

theorem abides_modify {change : World → World}
    (kept : ∀ world, conduct.leaves world (change world)) :
    Abides conduct (modify change : Build Unit) := kept

theorem Abides.bind {first : Build α} {next : α → Build β} (onFirst : Abides conduct first)
    (onNext : ∀ result, Abides conduct (next result)) : Abides conduct (first >>= next) := by
  intro world
  rw [ensures_bind]
  refine (onFirst world).mono (fun result after left => ?_) fun _ _ fails => fails
  exact (onNext result after).mono (fun _ _ later => conduct.follows.trans left later)
    fun _ _ fails => fails

theorem Abides.discard {step : Build α} (abides : Abides conduct step) :
    Abides conduct (discard step) := by
  intro world
  rw [ensures_discard]
  exact abides world

/-- An edit changes the forest only, and knows of no spec. -/
theorem abides_edit (step : Edit α) : Abides conduct (edit step) := by
  intro world
  rw [ensures_edit]
  exact Ensures.of_run (fun _ forest _ => conduct.forest world forest)
    fun _ _ _ => conduct.contextless _ rfl

end Rules

namespace Build

variable {conduct : Conduct}

theorem abides_forest : Abides conduct forest := abides_get.bind fun _ => abides_pure _

theorem abides_describe : Abides conduct describe :=
  abides_forest.bind fun _ => abides_pure _

theorem abides_note (severity : Severity) (topic : Topic) (text : String) :
    Abides conduct (note severity topic text) :=
  abides_modify fun world => conduct.notices world _

/-! ## Values -/

theorem abides_newStream (items : List Value) : Abides conduct (newStream items) :=
  abides_get.bind fun _ =>
    (abides_modify fun world => conduct.streams world _).bind fun _ => abides_pure _

theorem abides_remaining (id : Nat) : Abides conduct (remaining id) :=
  abides_get.bind fun _ => abides_pure _

theorem abides_setRemaining (id : Nat) (items : List Value) :
    Abides conduct (setRemaining id items) :=
  abides_modify fun world => conduct.streams world _

theorem abides_takeNext (id : Nat) : Abides conduct (takeNext id) := by
  refine (abides_remaining id).bind fun items => ?_
  cases items with
  | nil => exact abides_pure _
  | cons item rest => exact (abides_setRemaining id rest).bind fun _ => abides_pure _

theorem abides_drain (id : Nat) : Abides conduct (drain id) :=
  (abides_remaining id).bind fun _ => (abides_setRemaining id []).bind fun _ => abides_pure _

theorem abides_rangeMembers (start stop step : Int) :
    Abides conduct (rangeMembers start stop step) := by
  unfold rangeMembers
  dsimp only
  split
  · exact abides_throw rfl
  · split
    · exact abides_throw rfl
    · exact abides_pure _

theorem abides_absent (value : Value) : Abides conduct (absent value) := by
  unfold absent
  split
  · exact abides_pure _
  · exact abides_throw rfl

theorem abides_members (value : Value) : Abides conduct (members value) := by
  cases value with
  | range start stop step => exact abides_rangeMembers start stop step
  | stream id => exact abides_drain id
  | _ => exact abides_pure _

theorem abides_spread (value : Value) : Abides conduct (spread value) := by
  unfold spread
  split
  · exact abides_pure _
  · exact abides_pure _
  · exact abides_pure _
  · exact abides_pure _
  · split
    · exact abides_members _
    · exact abides_throw rfl

theorem abides_freshId : Abides conduct freshId := fun world => conduct.nextId world

theorem abides_nodeOrNone (value : Value) : Abides conduct (nodeOrNone value) := by
  unfold nodeOrNone
  split
  · exact abides_pure _
  · exact abides_forest.bind fun _ => abides_pure _

theorem abides_name (value : Value) : Abides conduct (name value) := by
  unfold name
  split
  · exact abides_pure _
  · exact abides_throw rfl
  · exact abides_throw rfl

/-! ## Filling and calling -/

theorem abides_named (name : String) (walk : List Walk) : Abides conduct (named name walk) := by
  refine abides_get.bind fun world => ?_
  split
  · exact abides_throw rfl
  · exact abides_pure _
  · refine abides_forest.bind fun forest => ?_
    split
    · exact abides_pure _
    · exact abides_throw rfl
  · exact abides_throw rfl

theorem abides_bytesOf (isMutable : Bool) :
    ∀ numbers : List Int, Abides conduct (bytesOf isMutable numbers)
  | [] => abides_pure _
  | number :: rest => by
      unfold bytesOf
      split
      · exact (abides_bytesOf isMutable rest).bind fun _ => abides_pure _
      · exact abides_throw rfl

theorem abides_floatOf (text : String) : Abides conduct (floatOf text) := by
  unfold floatOf
  split
  · exact abides_freshId.bind fun _ => abides_pure _
  · exact abides_pure _
  · exact abides_throw rfl

theorem abides_setOf : ∀ values members : List Value, Abides conduct (setOf values members)
  | [], _ => abides_pure _
  | member :: rest, members => by
      unfold setOf
      split
      · exact abides_setOf rest _
      · exact abides_throw rfl

end Build

section Fill

variable {conduct : Conduct} (arguments : List Value)

mutual

theorem Template.abides_fill : ∀ template : Template, Abides conduct (template.fill arguments)
  | .null | .bool _ | .int _ | .text _ | .argument _ | .arguments => abides_pure _
  | .float written => abides_floatOf written
  | .bytes isMutable content =>
      (abides_bytesOf isMutable content).bind fun _ => abides_pure _
  | .range start stop step => by
      unfold Template.fill
      split
      · exact abides_throw rfl
      · exact abides_pure _
  | .list items | .tuple items =>
      (Template.abides_fillAll items).bind fun _ => abides_pure _
  | .set _ members =>
      (Template.abides_fillAll members).bind fun _ =>
        (abides_setOf _ _).bind fun _ => abides_pure _
  | .map entries => (Template.abides_fillEntries entries []).bind fun _ => abides_pure _
  | .stream items => (Template.abides_fillAll items).bind fun _ => abides_newStream _
  | .thing _ | .function _ _ => abides_freshId.bind fun _ => abides_pure _
  | .concat parts =>
      (Template.abides_fillAll parts).bind fun _ =>
        abides_describe.bind fun _ => abides_pure _
  | .fail _ => abides_throw rfl
  | .named name walk => abides_named name walk
termination_by structural template => template

theorem Template.abides_fillAll :
    ∀ templates : List Template, Abides conduct (Template.fillAll arguments templates)
  | [] => abides_pure _
  | template :: rest =>
      (Template.abides_fill template).bind fun _ =>
        (Template.abides_fillAll rest).bind fun _ => abides_pure _
termination_by structural templates => templates

theorem Template.abides_fillEntries : ∀ (templates : List (Template × Template))
    (entries : Entries), Abides conduct (Template.fillEntries arguments templates entries)
  | [], _ => abides_pure _
  | (key, value) :: rest, entries => by
      unfold Template.fillEntries
      refine (Template.abides_fill key).bind fun _ => ?_
      refine (Template.abides_fill value).bind fun _ => ?_
      split
      · exact Template.abides_fillEntries rest _
      · exact abides_throw rfl
termination_by structural templates => templates

end

theorem Function.abides_call (function : Function) :
    Abides conduct (function.call arguments) := by
  have fills : Abides conduct (function.body.fill arguments) := Template.abides_fill arguments _
  unfold Function.call
  dsimp only
  split
  · exact (abides_modify fun world => conduct.calls world _).bind fun _ => fills
  · exact fills

end Fill

/-! ## Flattening -/

namespace Flatten

variable {conduct : Conduct} {one : Value → Build (Option String)}
  (each : ∀ value, Abides conduct (one value))

include each

theorem abides_words : ∀ values : List Value, Abides conduct (words one values)
  | [] => abides_pure _
  | value :: rest =>
      (each value).bind fun _ => (abides_words rest).bind fun _ => abides_pure _

theorem abides_streamWords (id : Nat) : ∀ most : Nat, Abides conduct (streamWords one id most)
  | 0 => abides_pure _
  | most + 1 => by
      refine (abides_takeNext id).bind fun item => ?_
      cases item with
      | none => exact abides_pure _
      | some value =>
          exact (each value).bind fun _ =>
            (abides_streamWords id most).bind fun _ => abides_pure _

theorem abides_entryWords :
    ∀ entries : List (String × Value), Abides conduct (entryWords one entries)
  | [] => abides_pure _
  | (key, value) :: rest => by
      refine (each value).bind fun text => ?_
      cases text with
      | none => exact abides_entryWords rest
      | some text => exact (abides_entryWords rest).bind fun _ => abides_pure _

end Flatten

variable {conduct : Conduct}

theorem abides_flattenWithin {arguments : Build (List Value)}
    (given : Abides conduct arguments) :
    ∀ (depth : Nat) (value : Value), Abides conduct (flattenWithin arguments depth value)
  | 0, _ => abides_throw rfl
  | depth + 1, value => by
      have each := abides_flattenWithin given depth
      unfold flattenWithin
      refine (abides_absent value).bind fun isAbsent => ?_
      split
      · exact abides_pure _
      · split
        · exact abides_describe.bind fun _ =>
            (Flatten.abides_entryWords each _).bind fun _ => abides_pure _
        · exact given.bind fun _ => (Function.abides_call _ _).bind fun _ => each _
        · exact abides_describe.bind fun _ =>
            (Flatten.abides_words each _).bind fun _ => abides_pure _
        · exact (Flatten.abides_words each _).bind fun _ => abides_pure _
        · exact (Flatten.abides_words each _).bind fun _ => abides_pure _
        · exact (Flatten.abides_words each _).bind fun _ => abides_pure _
        · exact (abides_remaining _).bind fun _ =>
            (Flatten.abides_streamWords each _ _).bind fun _ => abides_pure _
        · exact abides_describe.bind fun _ => abides_pure _

theorem abides_flatten (arguments : List Value) (value : Value) :
    Abides conduct (flatten arguments value) :=
  abides_flattenWithin (abides_pure arguments) nestingBudget value

theorem abides_flattenAttributes (arguments : List Value) :
    ∀ attributes : RawAttributes, Abides conduct (flattenAttributes pure arguments attributes)
  | [] => abides_pure _
  | (key, value) :: rest => by
      refine (abides_flatten arguments value).bind fun text => ?_
      cases text with
      | none => exact abides_flattenAttributes arguments rest
      | some text =>
          exact (abides_pure _).bind fun _ =>
            (abides_flattenAttributes arguments rest).bind fun _ => abides_pure _

/-! ## Reading -/

theorem abides_asChildren (value : Value) : Abides conduct (asChildren value) := by
  unfold asChildren
  split
  · exact abides_pure _
  · split
    · exact abides_members value
    · exact abides_pure _

theorem abides_readExplicit (slot : Value) : Abides conduct (readExplicit slot) := by
  unfold readExplicit
  split
  · refine (abides_members slot).bind fun items => ?_
    cases items with
    | nil => exact abides_pure _
    | cons => exact abides_pure _
  · exact abides_pure _

theorem abides_readMarked (marker : Marker) (word : String) (value : Value) :
    Abides conduct (readMarked marker word value) := by
  unfold readMarked
  split
  · exact abides_pure _
  · exact (abides_asChildren value).bind fun _ => abides_pure _

/-! ## Places -/

theorem abides_implicitParent (target : Target) : Abides conduct (implicitParent target) := by
  unfold implicitParent
  split
  · exact abides_pure _
  · refine (abides_edit _).bind fun node => ?_
    split
    · exact abides_pure _
    · exact abides_throw rfl

theorem abides_nearest (place : Place) : Abides conduct place.nearest := by
  unfold Place.nearest
  split
  · exact abides_pure _
  · exact abides_implicitParent _

theorem abides_attach (target : Target) (node : NodeId) : Abides conduct (attach target node) :=
  (abides_implicitParent target).discard.bind fun _ =>
    (abides_describe.bind fun _ => abides_note _ _ _).bind fun _ => abides_edit _

theorem abides_scopeAt : ∀ nodes : List NodeId, Abides conduct (scopeAt nodes)
  | [] => abides_pure _
  | _ :: behind =>
      (abides_edit _).bind fun _ => abides_forest.bind fun _ =>
        (abides_scopeAt behind).bind fun _ => abides_pure _

theorem abides_openSequence (scene : Scene) (place : Place) :
    Abides conduct (openSequence scene place) := by
  refine (abides_implicitParent _).bind fun parent => ?_
  refine Abides.bind ?_ fun _ => abides_pure _
  unfold holderFor
  split
  · exact abides_pure _
  · exact abides_edit _

theorem abides_closeSequence (target : Target) (holder : NodeId) (last : Option NodeId) :
    Abides conduct (closeSequence target holder last) := by
  unfold closeSequence
  split
  · exact abides_attach target holder
  · exact abides_pure _

theorem abides_documentFor (document : Value) (reference : NodeId) :
    Abides conduct (documentFor document reference) := by
  unfold documentFor
  split
  · refine abides_forest.bind fun forest => ?_
    split
    · exact abides_pure _
    · exact abides_throw rfl
  · exact abides_nodeOrNone _

theorem abides_prepare (settings : Settings) (where? : Option (Mode × Value))
    (document arguments : Value) : Abides conduct (prepare settings where? document arguments) := by
  refine (abides_spread arguments).bind fun given => ?_
  split
  · refine Abides.bind ?_ fun root =>
      (abides_nodeOrNone root).bind fun _ => abides_pure _
    unfold rootDocument
    split
    · exact (abides_edit _).bind fun _ => abides_pure _
    · exact abides_pure _
  · exact (abides_documentFor _ _).bind fun _ =>
      (abides_implicitParent _).discard.bind fun _ => abides_pure _
  · exact Abides.bind (abides_describe.bind fun _ => abides_pure _)
      fun _ => abides_throw rfl

/-! ## Nodes -/

theorem abides_childrenText (scene : Scene) (children : List Value) :
    Abides conduct (childrenText scene children) :=
  (abides_flatten _ _).bind fun _ => abides_pure _

theorem abides_pseudoAttributes (scene : Scene) :
    ∀ attributes : RawAttributes, Abides conduct (pseudoAttributes scene attributes)
  | [] => abides_pure _
  | (key, value) :: rest => by
      refine (abides_flatten _ _).bind fun text => ?_
      cases text with
      | none => exact abides_pseudoAttributes scene rest
      | some text =>
          exact (abides_pseudoAttributes scene rest).bind fun _ => abides_pure _

theorem abides_identifier (scene : Scene) (children : List Value) (index : Nat) (key : String)
    (attributes : RawAttributes) :
    Abides conduct (identifier scene children index key attributes) := by
  refine (abides_flatten _ _).bind fun text => ?_
  cases text with
  | none => exact abides_flatten _ _
  | some text => exact abides_pure _

theorem abides_giveDoctype (document : NodeId) (root : Value)
    (publicId systemId : Option String) :
    Abides conduct (giveDoctype document root publicId systemId) := by
  refine (abides_edit _).bind fun _ => ?_
  refine Abides.bind ?_ fun _ => (abides_edit _).bind fun _ => ?_
  · unfold doctypeName
    split
    · exact (abides_name root).bind fun _ => abides_pure _
    · exact abides_pure _
  · refine Abides.bind ?_ fun _ => (abides_edit _).bind fun _ => abides_pure _
    refine abides_forest.bind fun forest => ?_
    split
    · exact abides_note _ _ _
    · exact abides_pure _

/-! ## The whole build -/

theorem abides_buildMembers {below : Builder}
    (abides : ∀ value place, Abides conduct (below value place)) (place : Place) :
    ∀ (index : Nat) (node : Option NodeId) (items : List Value),
      Abides conduct (buildMembers below place index node items)
  | _, _, [] => abides_pure _
  | index, _, item :: rest =>
      (abides item _).bind fun _ => abides_buildMembers abides place (index + 1) _ rest

section Anyhow

variable (anyhow : ∀ cause, conduct.fails cause)

include anyhow

theorem abides_fail {α : Type} (cause : Failure) : Abides conduct (throw cause : Build α) :=
  fun _ => anyhow cause

theorem abides_parse (settings : Settings) (path : List String) (value : Value) :
    Abides conduct (parse settings path value) := by
  refine (abides_absent value).bind fun isAbsent => ?_
  split
  · exact abides_pure _
  split
  · exact abides_pure _
  · exact abides_pure _
  · refine Abides.bind ?_ fun _ => abides_pure _
    refine (abides_absent _).discard.bind fun _ => ?_
    split
    · exact (abides_readExplicit _).bind fun _ => abides_pure _
    · exact abides_pure _
    · exact (abides_readMarked _ _ _).bind fun _ => abides_pure _
    · exact abides_pure _
    · exact (abides_describe.bind fun _ => abides_pure _).bind fun _ => abides_fail anyhow _
  · split
    · exact (abides_members _).bind fun _ => abides_pure _
    · exact abides_pure _

theorem abides_checkDepth (settings : Settings) (value : Value) (place : Place) :
    Abides conduct (checkDepth settings value place) := by
  unfold checkDepth
  split
  · exact abides_pure _
  · split
    · exact (abides_describe.bind fun _ => abides_pure _).bind fun _ => abides_fail anyhow _
    · exact abides_pure _

theorem abides_readPart (settings : Settings) (value : Value) (place : Place) :
    Abides conduct (readPart settings value place) := by
  refine (abides_checkDepth anyhow _ _ _).bind fun _ => ?_
  refine (abides_parse anyhow _ _ _).bind fun part => ?_
  cases part with
  | none => exact abides_pure _
  | some spec => exact (abides_note _ _ _).bind fun _ => abides_pure _

theorem abides_leadingText (scene : Scene) (kind : SpecialKind) (spec : Spec) (path : List String)
    (children : List Value) : Abides conduct (leadingText scene kind spec path children) := by
  refine (abides_flatten _ _).bind fun text => ?_
  cases text with
  | some text => exact abides_pure _
  | none => exact (abides_describe.bind fun _ => abides_pure _).bind fun _ => abides_fail anyhow _

theorem abides_buildLeaf (scene : Scene) (place : Place) (spec : Spec) :
    Abides conduct (buildLeaf scene place spec) := by
  refine Abides.bind ?_ fun _ => (abides_attach _ _).bind fun _ => abides_pure _
  unfold makeLeaf
  split
  · exact (abides_childrenText _ _).bind fun _ => abides_edit _
  · exact (abides_childrenText _ _).bind fun _ => abides_edit _
  · refine (abides_leadingText anyhow _ _ _ _ _).bind fun target => ?_
    split
    · exact (abides_pseudoAttributes _ _).bind fun _ => (abides_pure _).bind fun _ => abides_edit _
    · exact (abides_childrenText _ _).bind fun _ => abides_edit _
  · exact abides_edit _
  · exact abides_describe.bind fun _ => abides_edit _
  · exact abides_throw rfl

theorem abides_buildDoctype (scene : Scene) (spec : Spec) (path : List String)
    (children : List Value) (attributes : RawAttributes) :
    Abides conduct (buildDoctype scene spec path children attributes) :=
  (abides_leadingText anyhow _ _ _ _ _).bind fun _ =>
    (abides_identifier _ _ _ _ _).bind fun _ =>
      (abides_identifier _ _ _ _ _).bind fun _ => abides_giveDoctype _ _ _ _

theorem abides_resolveElement (scene : Scene) (place : Place) (spec : Spec) (name : Value)
    (attributes : RawAttributes) :
    Abides conduct (resolveElement scene place spec name attributes) := by
  have resolves (scope : List (String × String)) (name : String) (sorted : SortedAttributes)
      (context : Option ErrorContext) (level : ErrorLevel) :
      Abides conduct (resolutionOr name context level (resolveIn scope name sorted)) := by
    unfold resolutionOr
    split
    · exact abides_pure _
    · exact abides_fail anyhow _
  refine (abides_describe.bind fun _ => abides_pure _).bind fun context => ?_
  refine (abides_flatten _ _).bind fun text => ?_
  cases text with
  | none => exact abides_fail anyhow _
  | some name =>
      refine (abides_nearest place).bind fun near => Abides.bind ?_ fun _ => abides_pure _
      refine (abides_flattenAttributes _ _).bind fun flat => ?_
      unfold resolveFlat
      dsimp only
      split
      · exact (abides_pure _).bind fun _ => resolves _ _ _ _ _
      · exact (abides_scopeAt _).bind fun _ => resolves _ _ _ _ _

theorem abides_makeElement (scene : Scene) (place : Place) (spec : Spec) (name : Value)
    (attributes : RawAttributes) : Abides conduct (makeElement scene place spec name attributes) :=
  (abides_resolveElement anyhow _ _ _ _ _).bind fun _ =>
    (abides_edit _).bind fun _ => (abides_attach _ _).bind fun _ => abides_pure _

theorem abides_buildWithin (scene : Scene) :
    ∀ (budget : Nat) (value : Value) (place : Place),
      Abides conduct (buildWithin scene budget value place)
  | 0, _, _ => abides_throw rfl
  | budget + 1, value, place => by
      have abides := abides_buildWithin scene budget
      refine (abides_readPart anyhow _ _ _).bind fun part => ?_
      cases part with
      | none => exact abides_pure _
      | some spec =>
          cases spec with
          | sequence items =>
              exact (abides_openSequence _ _).bind fun _ =>
                (abides_buildMembers abides _ _ _ _).bind fun _ =>
                  (abides_closeSequence _ _ _).bind fun _ => abides_pure _
          | callable function => exact (function.abides_call _).bind fun _ => abides _ _
          | element name attributes children =>
              refine (abides_makeElement anyhow _ _ _ _ _).bind fun made => ?_
              split
              · exact abides_pure _
              · exact (abides _ _).bind fun _ => abides_pure _
          | doctype children attributes =>
              exact (abides_buildDoctype anyhow _ _ _ _ _).bind fun _ => abides_pure _
          | comment | cdata | instruction | existing | text => exact abides_buildLeaf anyhow _ _ _

end Anyhow

end MarkupSpec
