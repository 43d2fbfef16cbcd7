import MarkupSpec.Compile
import MarkupSpec.Proofs.Run.Ensures

/-!
# Reading leaves the forest alone

Filling a template, calling a function, flattening a value and reading a spec
change streams, identities and logs.  None of them changes the forest, whether
it succeeds or fails.  Only making, attaching and detaching nodes does.
-/

namespace MarkupSpec

/-- The second world has the forest of the first. -/
def SameForest (before after : World) : Prop := after.forest = before.forest

theorem sameForest : Follows SameForest where
  refl _ := rfl
  trans first second := Eq.trans second first

/-- A step that never changes the forest. -/
abbrev ReadsOnly {α : Type} (step : Build α) : Prop := Keeps SameForest step

/-- A step that only reads ends in the forest it began with. -/
theorem ReadsOnly.forest_of_ok {α : Type} {step : Build α} (reads : ReadsOnly step)
    {before after : World} {result : α} (run : step before = .ok result after) :
    after.forest = before.forest :=
  (reads before).of_ok run

section Steps

variable {α β : Type}

theorem readsOnly_pure (result : α) : ReadsOnly (pure result : Build α) :=
  .pure sameForest result

theorem readsOnly_throw (cause : Failure) : ReadsOnly (throw cause : Build α) :=
  .throw sameForest cause

theorem readsOnly_get : ReadsOnly (get : Build World) := .get sameForest

theorem ReadsOnly.bind {first : Build α} {next : α → Build β} (onFirst : ReadsOnly first)
    (onNext : ∀ result, ReadsOnly (next result)) : ReadsOnly (first >>= next) :=
  Keeps.bind sameForest onFirst onNext

end Steps

namespace Build

variable {α : Type}

theorem readsOnly_forest : ReadsOnly forest := .bind readsOnly_get fun _ => readsOnly_pure _

theorem readsOnly_describe : ReadsOnly describe := .bind readsOnly_forest fun _ => readsOnly_pure _

theorem readsOnly_quoted (value : Value) : ReadsOnly (Build.quoted value) :=
  .bind readsOnly_describe fun _ => readsOnly_pure _

theorem readsOnly_failSpec (cause : SpecCause) (context : Option ErrorContext)
    (level : ErrorLevel) : ReadsOnly (failSpec cause context level : Build α) :=
  readsOnly_throw _

theorem readsOnly_note (severity : Severity) (topic : Topic) (text : String) :
    ReadsOnly (note severity topic text) :=
  .modify fun _ => rfl

theorem readsOnly_newStream (items : List Value) : ReadsOnly (newStream items) :=
  .bind readsOnly_get fun _ => .bind (.modify fun _ => rfl) fun _ => readsOnly_pure _

theorem readsOnly_remaining (id : Nat) : ReadsOnly (remaining id) :=
  .bind readsOnly_get fun _ => readsOnly_pure _

theorem readsOnly_setRemaining (id : Nat) (items : List Value) :
    ReadsOnly (setRemaining id items) :=
  .modify fun _ => rfl

theorem readsOnly_takeNext (id : Nat) : ReadsOnly (takeNext id) := by
  refine .bind (readsOnly_remaining id) fun items => ?_
  cases items with
  | nil => exact readsOnly_pure _
  | cons item rest => exact .bind (readsOnly_setRemaining id rest) fun _ => readsOnly_pure _

theorem readsOnly_drain (id : Nat) : ReadsOnly (drain id) :=
  .bind (readsOnly_remaining id) fun _ => .bind (readsOnly_setRemaining id []) fun _ =>
    readsOnly_pure _

theorem readsOnly_rangeMembers (start stop step : Int) :
    ReadsOnly (rangeMembers start stop step) := by
  unfold rangeMembers
  dsimp only
  split
  · exact readsOnly_throw _
  · split
    · exact readsOnly_throw _
    · exact readsOnly_pure _

theorem readsOnly_absent (value : Value) : ReadsOnly (absent value) := by
  unfold absent
  split
  · exact readsOnly_pure _
  · exact readsOnly_throw _

theorem readsOnly_members (value : Value) : ReadsOnly (members value) := by
  cases value with
  | range start stop step => exact readsOnly_rangeMembers start stop step
  | stream id => exact readsOnly_drain id
  | _ => exact readsOnly_pure _

theorem readsOnly_spread (value : Value) : ReadsOnly (spread value) := by
  unfold spread
  split
  any_goals exact readsOnly_pure _
  split
  · exact readsOnly_members _
  · exact readsOnly_throw _

theorem readsOnly_freshId : ReadsOnly freshId :=
  .bind readsOnly_get fun _ => .bind (.modify fun _ => rfl) fun _ => readsOnly_pure _

theorem readsOnly_nodeOrNone (value : Value) : ReadsOnly (nodeOrNone value) := by
  cases value with
  | node id => exact readsOnly_pure id
  | _ => exact .bind readsOnly_forest fun _ => readsOnly_pure _

theorem readsOnly_name (value : Value) : ReadsOnly (name value) := by
  cases value with
  | text content => exact readsOnly_pure content
  | _ => exact readsOnly_throw _

/-! ## Filling and calling -/

theorem readsOnly_named (name : String) (walk : List Walk) : ReadsOnly (named name walk) := by
  refine .bind readsOnly_get fun world => ?_
  split
  · exact readsOnly_throw _
  · exact readsOnly_pure _
  · refine .bind readsOnly_forest fun forest => ?_
    split
    · exact readsOnly_pure _
    · exact readsOnly_throw _
  · exact readsOnly_throw _

theorem readsOnly_bytesOf (isMutable : Bool) :
    ∀ numbers : List Int, ReadsOnly (bytesOf isMutable numbers)
  | [] => readsOnly_pure _
  | number :: rest => by
      unfold bytesOf
      split
      · exact .bind (readsOnly_bytesOf isMutable rest) fun _ => readsOnly_pure _
      · exact readsOnly_throw _

theorem readsOnly_floatOf (text : String) : ReadsOnly (floatOf text) := by
  unfold floatOf
  split
  · exact .bind readsOnly_freshId fun _ => readsOnly_pure _
  · exact readsOnly_pure _
  · exact readsOnly_throw _

theorem readsOnly_setOf : ∀ values members : List Value, ReadsOnly (setOf values members)
  | [], _ => readsOnly_pure _
  | member :: rest, members => by
      unfold setOf
      split
      · exact readsOnly_setOf rest _
      · exact readsOnly_throw _

end Build

open Build

mutual

theorem Template.readsOnly_fill (arguments : List Value) :
    ∀ template : Template, ReadsOnly (template.fill arguments)
  | .null => readsOnly_pure _
  | .bool _ => readsOnly_pure _
  | .int _ => readsOnly_pure _
  | .float written => readsOnly_floatOf written
  | .text _ => readsOnly_pure _
  | .bytes isMutable content => .bind (readsOnly_bytesOf isMutable content) fun _ => readsOnly_pure _
  | .range start stop step => by
      unfold Template.fill
      split
      · exact readsOnly_throw _
      · exact readsOnly_pure _
  | .list items => .bind (Template.readsOnly_fillAll arguments items) fun _ => readsOnly_pure _
  | .tuple items => .bind (Template.readsOnly_fillAll arguments items) fun _ => readsOnly_pure _
  | .set _ members =>
      .bind (Template.readsOnly_fillAll arguments members) fun _ =>
        .bind (readsOnly_setOf _ _) fun _ => readsOnly_pure _
  | .map entries =>
      .bind (Template.readsOnly_fillEntries arguments entries []) fun _ => readsOnly_pure _
  | .stream items => .bind (Template.readsOnly_fillAll arguments items) fun _ => readsOnly_newStream _
  | .thing _ => .bind readsOnly_freshId fun _ => readsOnly_pure _
  | .function _ _ => .bind readsOnly_freshId fun _ => readsOnly_pure _
  | .argument _ => readsOnly_pure _
  | .arguments => readsOnly_pure _
  | .concat parts =>
      .bind (Template.readsOnly_fillAll arguments parts) fun _ =>
        .bind readsOnly_describe fun _ => readsOnly_pure _
  | .fail _ => readsOnly_throw _
  | .named name walk => readsOnly_named name walk

theorem Template.readsOnly_fillAll (arguments : List Value) :
    ∀ templates : List Template, ReadsOnly (Template.fillAll arguments templates)
  | [] => readsOnly_pure _
  | template :: rest =>
      .bind (Template.readsOnly_fill arguments template) fun _ =>
        .bind (Template.readsOnly_fillAll arguments rest) fun _ => readsOnly_pure _

theorem Template.readsOnly_fillEntries (arguments : List Value) :
    ∀ (templates : List (Template × Template)) (entries : Entries),
      ReadsOnly (Template.fillEntries arguments templates entries)
  | [], _ => readsOnly_pure _
  | (key, value) :: rest, entries => by
      unfold Template.fillEntries
      refine .bind (Template.readsOnly_fill arguments key) fun _ => ?_
      refine .bind (Template.readsOnly_fill arguments value) fun _ => ?_
      split
      · exact Template.readsOnly_fillEntries arguments rest _
      · exact readsOnly_throw _

end

theorem Function.readsOnly_call (function : Function) (arguments : List Value) :
    ReadsOnly (function.call arguments) := by
  have fills := Template.readsOnly_fill arguments function.body
  unfold Function.call
  dsimp only
  split
  · exact .bind (.modify fun _ => rfl) fun _ => fills
  · exact fills

/-! ## Flattening -/

namespace Flatten

variable {one : Value → Build (Option String)}

theorem readsOnly_words (readsOne : ∀ value, ReadsOnly (one value)) :
    ∀ values : List Value, ReadsOnly (words one values)
  | [] => readsOnly_pure _
  | value :: rest =>
      .bind (readsOne value) fun _ => .bind (readsOnly_words readsOne rest) fun _ =>
        readsOnly_pure _

theorem readsOnly_streamWords (readsOne : ∀ value, ReadsOnly (one value)) (id : Nat) :
    ∀ most : Nat, ReadsOnly (streamWords one id most)
  | 0 => readsOnly_pure _
  | most + 1 => by
      refine .bind (readsOnly_takeNext id) fun item => ?_
      cases item with
      | none => exact readsOnly_pure _
      | some value =>
          exact .bind (readsOne value) fun _ =>
            .bind (readsOnly_streamWords readsOne id most) fun _ => readsOnly_pure _

theorem readsOnly_entryWords (readsOne : ∀ value, ReadsOnly (one value)) :
    ∀ entries : List (String × Value), ReadsOnly (entryWords one entries)
  | [] => readsOnly_pure _
  | (key, value) :: rest => by
      refine .bind (readsOne value) fun text => ?_
      cases text with
      | none => exact readsOnly_entryWords readsOne rest
      | some text => exact .bind (readsOnly_entryWords readsOne rest) fun _ => readsOnly_pure _

end Flatten

theorem readsOnly_flattenWithin {arguments : Build (List Value)} (readsThem : ReadsOnly arguments) :
    ∀ (depth : Nat) (value : Value), ReadsOnly (flattenWithin arguments depth value)
  | 0, _ => readsOnly_throw _
  | depth + 1, value => by
      have readsOne := readsOnly_flattenWithin readsThem depth
      unfold flattenWithin
      refine .bind (readsOnly_absent value) fun isAbsent => ?_
      split
      · exact readsOnly_pure _
      · split
        · exact .bind readsOnly_describe fun _ =>
            .bind (Flatten.readsOnly_entryWords readsOne _) fun _ => readsOnly_pure _
        · exact .bind readsThem fun _ => .bind (Function.readsOnly_call _ _) fun _ => readsOne _
        · exact .bind readsOnly_describe fun _ =>
            .bind (Flatten.readsOnly_words readsOne _) fun _ => readsOnly_pure _
        · exact .bind (Flatten.readsOnly_words readsOne _) fun _ => readsOnly_pure _
        · exact .bind (Flatten.readsOnly_words readsOne _) fun _ => readsOnly_pure _
        · exact .bind (Flatten.readsOnly_words readsOne _) fun _ => readsOnly_pure _
        · exact .bind (readsOnly_remaining _) fun _ =>
            .bind (Flatten.readsOnly_streamWords readsOne _ _) fun _ => readsOnly_pure _
        · exact .bind readsOnly_describe fun _ => readsOnly_pure _

theorem readsOnly_flatten (arguments : List Value) (value : Value) :
    ReadsOnly (flatten arguments value) :=
  readsOnly_flattenWithin (readsOnly_pure arguments) nestingBudget value

/-! ## Reading specs -/

theorem readsOnly_asChildren (value : Value) : ReadsOnly (asChildren value) := by
  unfold asChildren
  split
  · exact readsOnly_pure _
  · split
    · exact readsOnly_members value
    · exact readsOnly_pure _

theorem readsOnly_readExplicit (slot : Value) : ReadsOnly (readExplicit slot) := by
  unfold readExplicit
  split
  · refine .bind (readsOnly_members slot) fun items => ?_
    cases items with
    | nil => exact readsOnly_pure _
    | cons name children => exact readsOnly_pure _
  · exact readsOnly_pure _

theorem readsOnly_readMarked (marker : Marker) (word : String) (value : Value) :
    ReadsOnly (readMarked marker word value) := by
  unfold readMarked
  split
  · exact readsOnly_pure _
  · exact .bind (readsOnly_asChildren value) fun _ => readsOnly_pure _

theorem readsOnly_parseMap (settings : Settings) (path : List String) (entries : Entries) :
    ReadsOnly (parseMap settings path entries) := by
  unfold parseMap
  refine .bind (.discard (readsOnly_absent _)) fun _ => ?_
  split
  · exact .bind (readsOnly_readExplicit _) fun _ => readsOnly_pure _
  · exact readsOnly_pure _
  · exact .bind (readsOnly_readMarked _ _ _) fun _ => readsOnly_pure _
  · exact readsOnly_pure _
  · exact .bind (readsOnly_quoted _) fun _ => readsOnly_failSpec _ _ _

theorem readsOnly_parse (settings : Settings) (path : List String) (value : Value) :
    ReadsOnly (parse settings path value) := by
  unfold parse
  refine .bind (readsOnly_absent value) fun isAbsent => ?_
  split
  · exact readsOnly_pure _
  · split
    · exact readsOnly_pure _
    · exact readsOnly_pure _
    · exact .bind (readsOnly_parseMap _ _ _) fun _ => readsOnly_pure _
    · split
      · exact .bind (readsOnly_members _) fun _ => readsOnly_pure _
      · exact readsOnly_pure _

theorem readsOnly_checkDepth (settings : Settings) (value : Value) (place : Place) :
    ReadsOnly (checkDepth settings value place) := by
  unfold checkDepth
  split
  · exact readsOnly_pure _
  · split
    · exact .bind (readsOnly_quoted _) fun _ => readsOnly_failSpec _ _ _
    · exact readsOnly_pure _

theorem readsOnly_readPart (settings : Settings) (value : Value) (place : Place) :
    ReadsOnly (readPart settings value place) := by
  refine .bind (readsOnly_checkDepth settings value place) fun _ => ?_
  refine .bind (readsOnly_parse settings place.path value) fun spec => ?_
  cases spec with
  | none => exact readsOnly_pure _
  | some spec => exact .bind (readsOnly_note _ _ _) fun _ => readsOnly_pure _

/-! ## The parts of a node -/

theorem readsOnly_edit_look (id : NodeId) : ReadsOnly (edit (Edit.look id)) := by
  intro world
  rw [ensures_edit, Edit.look, ensures_bind, ensures_get]
  split
  · rfl
  · rfl

theorem readsOnly_parentBeside (target : Target) : ReadsOnly (parentBeside target) := by
  refine .bind (readsOnly_edit_look target.reference) fun node => ?_
  cases node.parent with
  | some parent => exact readsOnly_pure _
  | none => exact readsOnly_failSpec _ _ _

theorem readsOnly_implicitParent (target : Target) : ReadsOnly (implicitParent target) := by
  unfold implicitParent
  split
  · exact readsOnly_pure _
  · exact readsOnly_parentBeside target

theorem readsOnly_remark (mode : Mode) (what reference : (NodeId → String) → String) :
    ReadsOnly (remark mode what reference) :=
  .bind readsOnly_describe fun _ => readsOnly_note _ _ _

theorem readsOnly_nearest (place : Place) : ReadsOnly place.nearest := by
  unfold Place.nearest
  split
  · exact readsOnly_pure _
  · exact readsOnly_implicitParent _

theorem readsOnly_specContext (spec : Spec) (path : List String) (operation : String) :
    ReadsOnly (specContext spec path operation) :=
  .bind readsOnly_describe fun _ => readsOnly_pure _

theorem readsOnly_childrenText (scene : Scene) (children : List Value) :
    ReadsOnly (childrenText scene children) :=
  .bind (readsOnly_flatten _ _) fun _ => readsOnly_pure _

theorem readsOnly_leadingText (scene : Scene) (kind : SpecialKind) (spec : Spec)
    (path : List String) (children : List Value) :
    ReadsOnly (leadingText scene kind spec path children) := by
  refine .bind (readsOnly_flatten _ _) fun text => ?_
  cases text with
  | some text => exact readsOnly_pure _
  | none => exact .bind (readsOnly_specContext _ _ _) fun _ => readsOnly_failSpec _ _ _

theorem readsOnly_pseudoAttributes (scene : Scene) :
    ∀ attributes : RawAttributes, ReadsOnly (pseudoAttributes scene attributes)
  | [] => readsOnly_pure _
  | (key, value) :: rest => by
      refine .bind (readsOnly_flatten _ _) fun text => ?_
      cases text with
      | none => exact readsOnly_pseudoAttributes scene rest
      | some text => exact .bind (readsOnly_pseudoAttributes scene rest) fun _ => readsOnly_pure _

theorem readsOnly_identifier (scene : Scene) (children : List Value) (index : Nat) (key : String)
    (attributes : RawAttributes) : ReadsOnly (identifier scene children index key attributes) := by
  refine .bind (readsOnly_flatten _ _) fun text => ?_
  cases text with
  | some text => exact readsOnly_pure _
  | none => exact readsOnly_flatten _ _

theorem readsOnly_documentFor (document : Value) (reference : NodeId) :
    ReadsOnly (documentFor document reference) := by
  unfold documentFor
  split
  · refine .bind readsOnly_forest fun forest => ?_
    split
    · exact readsOnly_pure _
    · exact readsOnly_throw _
  · exact readsOnly_nodeOrNone document

theorem readsOnly_doctypeName (root : Value) : ReadsOnly (doctypeName root) := by
  unfold doctypeName
  split
  · exact (readsOnly_name root).map _
  · exact readsOnly_pure _

theorem readsOnly_noticeReplaced (document : NodeId) (root : Value) :
    ReadsOnly (noticeReplaced document root) := by
  refine .bind readsOnly_forest fun forest => ?_
  split
  · exact readsOnly_note _ _ _
  · exact readsOnly_pure _

theorem readsOnly_flattenAttributes (arguments : List Value) :
    ∀ attributes : RawAttributes, ReadsOnly (flattenAttributes Pure.pure arguments attributes)
  | [] => readsOnly_pure _
  | (key, value) :: rest => by
      refine .bind (readsOnly_flatten _ _) fun text => ?_
      cases text with
      | none => exact readsOnly_flattenAttributes arguments rest
      | some text =>
          exact .bind (readsOnly_pure _) fun _ =>
            .bind (readsOnly_flattenAttributes arguments rest) fun _ => readsOnly_pure _

theorem readsOnly_scopeAt : ∀ nodes : List NodeId, ReadsOnly (scopeAt nodes)
  | [] => readsOnly_pure _
  | node :: behind => by
      have readsLook : ReadsOnly (edit (discard (Edit.look node))) := by
        intro world
        rw [ensures_edit, ensures_discard]
        exact ensures_edit.mp (readsOnly_edit_look node world)
      exact .bind readsLook fun _ => .bind readsOnly_forest fun _ =>
        .bind (readsOnly_scopeAt behind) fun _ => readsOnly_pure _

theorem readsOnly_resolve (name : String) (attributes : RawAttributes) (nodes : List NodeId)
    (arguments : List Value) (context : Option ErrorContext) (level : ErrorLevel) :
    ReadsOnly (resolve name attributes nodes arguments context level) := by
  refine .bind (readsOnly_flattenAttributes arguments attributes) fun flat => ?_
  have judges (scope : List (String × String)) :
      ReadsOnly (resolutionOr name context level (resolveIn scope name (sortAttributes flat))) := by
    unfold resolutionOr
    split
    · exact readsOnly_pure _
    · exact readsOnly_failSpec _ _ _
  unfold resolveFlat
  dsimp only
  split
  · exact .bind (readsOnly_pure _) judges
  · exact .bind (readsOnly_scopeAt nodes) judges

end MarkupSpec
