import MarkupSpec.Proofs.Namespace.BuiltElements
import MarkupSpec.Proofs.Run.Conduct
import MarkupSpec.Proofs.Spec.StreamlessReading

/-!
# Failures say where in a spec they arose

A failure with a context has a path in it: the whole spec, and one segment for each step from
there to the value at fault.  `Visit.Leads` says what segments lead to by the values alone: a
member of a sequence, what a function returns, the children of an element map by the name of
the element.  `Visit.IsAtFault` says what is wrong with a value that a failure is about.

A step of a build either fails without a context or points to the value it was given
(`points_readPart`, `points_buildLeaf`, `points_buildDoctype`, `points_makeElement`).  What points
to a part from inside of a value points to it from the value too, by one segment more
(`Failure.PointsInto.outward`), and so does the whole build (`points_buildWithin`).  The main
statement is `compile_locates`.
-/

namespace MarkupSpec

open Forest Edit Build

/-! ## Ways into a spec -/

/-- One step on the way from a spec to a part of it. -/
inductive Segment where
  /-- To a member of a sequence. -/
  | member (index : Nat)
  /-- To what a function returns. -/
  | result
  /-- To the children of an element map, by the name of the element. -/
  | children (name : String)
deriving DecidableEq, Repr

/-- A segment as it is written in a path. -/
def Segment.text : Segment → String
  | .member index => memberSegment index
  | .result => "()"
  | .children name => "<" ++ name ++ ">"

/-- The name of an element that is given by a text, once that is resolved. -/
def resolvedName (name : String) : String :=
  Text.joinColon (splitQualified name).1 (splitQualified name).2

namespace Visit

/-- What the function of a visit returns, and the world after the call. -/
def returned? (scene : Scene) (visit : Visit) : Option (Value × World) :=
  match visit.part? scene with
  | some (.callable callee, read) =>
      match callee.call scene.arguments read with
      | .ok value after => some (value, after)
      | .error _ _ => none
  | _ => none

/-- What a value comes to as a text once the value of a visit was read. -/
def Flattened (scene : Scene) (visit : Visit) (value : Value) (text : Option String) : Prop :=
  ∃ spec read after, visit.part? scene = some (spec, read) ∧
    flatten scene.arguments value read = .ok text after

/-- A segment leads from one value to another one inside of it. -/
inductive Steps (scene : Scene) (visit inner : Visit) : Segment → Prop
  | member {items : List Value} {index : Nat} : visit.value.held? = some items →
      items[index]? = some inner.value → visit.Steps scene inner (.member index)
  | result {callee : Function} : visit.value = .function callee →
      visit.returned? scene = some (inner.value, inner.world) → visit.Steps scene inner .result
  | children {name : Value} {items : List Value} {text : String} :
      visit.value.IsMapOf scene.settings.marker none name items →
      visit.Flattened scene name (some text) → inner.value = .list items →
      visit.Steps scene inner (.children (resolvedName text))

/-- Segments lead, one after the other, from one visit of a build to another one inside of it. -/
inductive Leads (scene : Scene) (visits : List Visit) : Visit → List Segment → Visit → Prop
  | here {visit : Visit} : visit ∈ visits → Leads scene visits visit [] visit
  | step {visit inner final : Visit} {segment : Segment} {segments : List Segment} :
      visit ∈ visits → visit.Steps scene inner segment → Leads scene visits inner segments final →
      Leads scene visits visit (segment :: segments) final

theorem Leads.mono {scene : Scene} {visits visits' : List Visit} {start final : Visit}
    {segments : List Segment} (leads : Leads scene visits start segments final)
    (less : ∀ visit ∈ visits, visit ∈ visits') : Leads scene visits' start segments final := by
  induction leads with
  | here among => exact .here (less _ among)
  | step among steps _ ih => exact .step (less _ among) steps ih

/-! ## Values at fault -/

/-- The nodes that an element takes its namespaces from, each behind the one before it. -/
def sources? (visit : Visit) : Option (List NodeId) :=
  (visit.place.pseudo.or (visit.place.target.home? visit.world.forest)).map
    fun near => near :: visit.place.anchor.toList

/-- The value is an element map that uses a qualifier, by its name or by a plain attribute, which
neither the map declares nor is in scope where the element is going to be. -/
def Unbound (scene : Scene) (visit : Visit) (name : String) (qualifier : String) : Prop :=
  ∃ entries nodes, visit.Flattens scene name entries ∧ visit.sources? = some nodes ∧
    some qualifier ≠ xmlQualifier ∧
    ((splitQualified name).1 = some qualifier ∨
      ∃ entry ∈ entries, declaredQualifier? entry.1 = none ∧
        (splitQualified entry.1).1 = some qualifier) ∧
    (declarationsIn entries).lookup (some qualifier) = none ∧
    (visit.world.forest.scopes nodes).lookup (declarationKey (some qualifier)) = none

/-- The value is a map with several keys that could be its name slot, and these are the keys. -/
def Competing (marker : Marker) (form : String) (keys : List Value) (entries : Entries) : Prop :=
  explicitSlot? entries = none ∧ 2 ≤ keys.length ∧
    (form = "compact" ∧ keys = (compactEntries entries).map Prod.fst ∨
      form = "marker" ∧ compactEntries entries = [] ∧
        keys = (entries.filter fun entry => (markedWord? marker entry.1).isSome).map Prod.fst)

/-- The value of a visit is at fault for a cause. -/
def IsAtFault (scene : Scene) (visit : Visit) : SpecCause → Prop
  | .ambiguousMap form keys =>
      ∃ entries, visit.value = .map entries ∧ Competing scene.settings.marker form keys entries
  | .missingName =>
      ∃ name children, visit.value.IsMapOf scene.settings.marker none name children ∧
        visit.Flattened scene name none
  | .unboundQualifiers qualifiers name =>
      qualifiers ≠ [] ∧
        (∃ given children, visit.value.IsMapOf scene.settings.marker none given children) ∧
        ∀ qualifier ∈ qualifiers, visit.Unbound scene name qualifier
  | .missingChild kind =>
      ∃ special name children, (special = .instruction ∨ special = .doctype) ∧
        kind = special.word ∧
        visit.value.IsMapOf scene.settings.marker (some special) name children ∧
        (children = [] ∨ ∃ first rest, children = first :: rest ∧ visit.Flattened scene first none)
  | .tooDeep limit =>
      (∃ most, scene.settings.maxDepth = some most ∧ most.depth = limit) ∧
        visit.place.depth = limit + 1
  | .stated .. | .severalPlaces _ | .badReference .. => False

/-- The visit is no more than one step deeper than the settings allow. -/
def Within (scene : Scene) (visit : Visit) : Prop :=
  ∀ limit, scene.settings.maxDepth = some limit → visit.place.depth ≤ limit.depth + 1

/-- What the function of a visit returns holds no stream. -/
def ReturnsStreamless (scene : Scene) (visit : Visit) : Prop :=
  ∀ found ∈ visit.returned? scene, found.1.isStreamless

end Visit

/-- If the failure says where in the spec it arose, it says the way from the start to a visit
whose value is at fault. -/
def Failure.PointsInto (scene : Scene) (visits : List Visit) (start : Visit) (cause : Failure) :
    Prop :=
  ∀ error context, cause = .spec error → error.context = some context →
    ∃ segments final, Visit.Leads scene visits start segments final ∧
      final.place.path = start.place.path ++ segments.map Segment.text ∧
      final.place.depth = start.place.depth + segments.length ∧
      context.specPath = .text (String.join final.place.path) ∧
      final.IsAtFault scene error.cause

/-- If the step fails and says where in the spec that arose, it says the way to a value at
fault. -/
abbrev Points {α : Type} (scene : Scene) (visits : List Visit) (start : Visit) (step : Build α)
    (world : World) : Prop :=
  Ensures step world (fun _ _ => True) fun cause _ => cause.PointsInto scene visits start

section Rules

variable {α β : Type} {scene : Scene} {visits visits' : List Visit} {start inner : Visit}
  {cause : Failure} {segment : Segment} {world : World}

theorem Failure.pointsInto_of_silent (none : cause.context? = none) :
    cause.PointsInto scene visits start := by
  rintro error context rfl isContext
  rw [Failure.context?, isContext] at none
  cases none

/-- What points to the value of the start itself. -/
theorem Failure.pointsInto_here {error : SpecError} {context : ErrorContext}
    (among : start ∈ visits) (isContext : error.context = some context)
    (isPath : context.specPath = .text (String.join start.place.path))
    (isAtFault : start.IsAtFault scene error.cause) :
    (Failure.spec error).PointsInto scene visits start := by
  intro error' context' isError isContext'
  cases isError
  rw [isContext] at isContext'
  cases isContext'
  exact ⟨[], start, .here among, by simp, rfl, isPath, isAtFault⟩

/-- What points to a value inside of an inner one points to it from the outer one too. -/
theorem Failure.PointsInto.outward (points : cause.PointsInto scene visits' inner)
    (among : start ∈ visits) (less : ∀ visit ∈ visits', visit ∈ visits)
    (steps : start.Steps scene inner segment)
    (isPath : inner.place.path = start.place.path ++ [segment.text])
    (isDepth : inner.place.depth = start.place.depth + 1) :
    cause.PointsInto scene visits start := by
  intro error context isError isContext
  obtain ⟨segments, final, leads, path, depth, rest⟩ := points error context isError isContext
  refine ⟨segment :: segments, final, .step among steps (leads.mono less), ?_, ?_, rest⟩
  · rw [path, isPath]
    simp
  · rw [depth, isDepth, List.length_cons]
    omega

theorem Abides.points {step : Build α} (abides : Abides .silent step) (world : World) :
    Points scene visits start step world :=
  (abides world).mono (fun _ _ _ => trivial) fun _ _ => Failure.pointsInto_of_silent

theorem Abides.points_bind {first : Build α} {next : α → Build β} (abides : Abides .silent first)
    (onNext : ∀ result after, first world = .ok result after →
      Points scene visits start (next result) after) :
    Points scene visits start (first >>= next) world := by
  show Ensures _ _ _ _
  rw [MarkupSpec.ensures_bind]
  exact Ensures.of_run onNext fun _ _ run =>
    Failure.pointsInto_of_silent ((abides world).of_error run)

theorem points_bind {first : Build α} {next : α → Build β}
    (onFirst : Points scene visits start first world)
    (onNext : ∀ result after, first world = .ok result after →
      Points scene visits start (next result) after) :
    Points scene visits start (first >>= next) world := by
  show Ensures _ _ _ _
  rw [MarkupSpec.ensures_bind]
  exact Ensures.of_run onNext fun _ _ run => onFirst.of_error run

end Rules

/-! ## Reading -/

section Reading

variable {scene : Scene} {visits : List Visit} {visit : Visit} {spec : Spec} {read : World}

/-- What holds no stream is read as what is to be seen. -/
theorem Visit.reading_of_part (isStreamless : visit.value.isStreamless)
    (part : visit.part? scene = some (spec, read)) :
    visit.value.reading? scene.settings.marker = some spec := by
  unfold part? at part
  split at part
  · rename_i run
    cases part
    obtain ⟨_, checked, -, reads⟩ := bind_eq_ok.mp run
    obtain ⟨found, middle, parses, rest⟩ := bind_eq_ok.mp reads
    cases found with
    | none => cases rest
    | some found =>
        obtain ⟨_, _, -, rest⟩ := bind_eq_ok.mp rest
        cases rest
        exact (reading_of_parse isStreamless parses).1
  · cases part

/-- A place that was read is not too deep, so one that is a step deeper is so by one at most. -/
theorem Visit.depth_of_part (part : visit.part? scene = some (spec, read)) {limit : DepthLimit}
    (isLimit : scene.settings.maxDepth = some limit) : visit.place.depth ≤ limit.depth := by
  unfold part? at part
  split at part
  · rename_i run
    obtain ⟨_, checked, checks, -⟩ := bind_eq_ok.mp run
    unfold checkDepth at checks
    rw [isLimit] at checks
    dsimp only at checks
    split at checks
    · cases checks
    · rename_i notDeeper
      exact Nat.le_of_not_lt notDeeper
  · cases part

theorem points_checkDepth (among : visit ∈ visits) (within : visit.Within scene) (world : World) :
    Points scene visits visit (checkDepth scene.settings visit.value visit.place) world := by
  unfold checkDepth
  split
  · exact (abides_pure _).points _
  · rename_i limit isLimit
    split
    · rename_i deeper
      refine Failure.pointsInto_here among rfl rfl ?_
      exact ⟨⟨limit, isLimit, rfl⟩, Nat.le_antisymm (within limit isLimit) deeper⟩
    · exact (abides_pure _).points _

theorem map_markedEntries (marker : Marker) : ∀ entries : Entries,
    (markedEntries marker entries).map (fun entry => Value.text (marker.mark entry.1)) =
      (entries.filter fun entry => (markedWord? marker entry.1).isSome).map Prod.fst
  | [] => rfl
  | (key, value) :: rest => by
      have ih := map_markedEntries marker rest
      unfold markedEntries at ih ⊢
      cases marked : markedWord? marker key with
      | none => simp [marked, ih]
      | some word =>
          obtain ⟨content, isText, unmarks⟩ := Option.bind_eq_some_iff.mp marked
          cases key with
          | text =>
              cases isText
              obtain rfl := Marker.unmark?_eq_some_iff.mp unmarks
              simp [marked, ih]
          | _ => cases isText

/-- A map has an ambiguous name slot if several keys of one form compete for it. -/
theorem competing_of_ambiguous {marker : Marker} {entries : Entries} {form : String}
    {keys : List Value} (slots : nameSlot marker entries = .ambiguous form keys) :
    Visit.Competing marker form keys entries := by
  unfold nameSlot at slots
  split at slots
  · cases slots
  · cases slots
  · rename_i first others severalKeys noSlot isCompact
    cases slots
    refine ⟨noSlot, ?_, .inl ⟨rfl, by rw [isCompact]⟩⟩
    cases others with
    | nil => exact (severalKeys first.1 first.2 rfl rfl).elim
    | cons => simp
  · cases slots
  · rename_i first others severalKeys noSlot noCompact isMarked
    cases slots
    refine ⟨noSlot, ?_, .inr ⟨rfl, noCompact, by rw [← map_markedEntries, isMarked]⟩⟩
    cases others with
    | nil => exact (severalKeys first.1 first.2 rfl rfl).elim
    | cons => simp
  · cases slots

theorem points_parseMap {entries : Entries} (among : visit ∈ visits)
    (isMap : visit.value = .map entries) (world : World) :
    Points scene visits visit (parseMap scene.settings visit.place.path entries) world := by
  unfold parseMap
  refine (abides_absent _).discard.points_bind fun _ _ _ => ?_
  split
  · exact ((abides_readExplicit _).bind fun _ => abides_pure _).points _
  · exact (abides_pure _).points _
  · exact ((abides_readMarked _ _ _).bind fun _ => abides_pure _).points _
  · exact (abides_pure _).points _
  · rename_i slots
    refine (abides_describe.bind fun _ => abides_pure _).points_bind fun _ _ _ => ?_
    exact Failure.pointsInto_here among rfl rfl ⟨entries, isMap, competing_of_ambiguous slots⟩

theorem points_parse (among : visit ∈ visits) (world : World) :
    Points scene visits visit (parse scene.settings visit.place.path visit.value) world := by
  unfold parse
  refine (abides_absent _).points_bind fun isAbsent _ _ => ?_
  split
  · exact (abides_pure _).points _
  · split
    · exact (abides_pure _).points _
    · exact (abides_pure _).points _
    · rename_i entries isMap
      refine points_bind (points_parseMap among isMap _) fun _ _ _ => ?_
      exact (abides_pure _).points _
    · split
      · exact ((abides_members _).bind fun _ => abides_pure _).points _
      · exact (abides_pure _).points _

theorem points_readPart (among : visit ∈ visits) (within : visit.Within scene) :
    Points scene visits visit (readPart scene.settings visit.value visit.place) visit.world := by
  refine points_bind (points_checkDepth among within _) fun _ _ _ => ?_
  refine points_bind (points_parse among _) fun found _ _ => ?_
  cases found with
  | none => exact (abides_pure _).points _
  | some spec => exact ((abides_note _ _ _).bind fun _ => abides_pure _).points _

end Reading

/-! ## Making nodes -/

section Making

variable {scene : Scene} {visits : List Visit} {visit : Visit} {spec : Spec} {read : World}
  {children : List Value} {attributes : RawAttributes}

/-- What a node must have is the text of its first child. -/
theorem points_leadingText {kind : SpecialKind} (among : visit ∈ visits)
    (isStreamless : visit.value.isStreamless) (part : visit.part? scene = some (spec, read))
    (special : kind = .instruction ∨ kind = .doctype)
    (named : spec.named? = some (some kind, children)) :
    Points scene visits visit (leadingText scene kind spec visit.place.path children) read := by
  obtain ⟨name, isMap, -⟩ := isMapOf_of_reading _ (visit.reading_of_part isStreamless part) named
  refine (abides_flatten _ _).points_bind fun text after run => ?_
  cases text with
  | some text => exact (abides_pure _).points _
  | none =>
      refine (abides_describe.bind fun _ => abides_pure _).points_bind
        fun context _ ran => ?_
      cases ran
      refine Failure.pointsInto_here among rfl rfl ⟨kind, name, children, special, rfl, isMap, ?_⟩
      cases children with
      | nil => exact .inl rfl
      | cons first rest => exact .inr ⟨first, rest, rfl, spec, read, after, part, run⟩

theorem points_buildLeaf (among : visit ∈ visits) (isStreamless : visit.value.isStreamless)
    (part : visit.part? scene = some (spec, read)) :
    Points scene visits visit (buildLeaf scene visit.place spec) read := by
  refine points_bind ?_ fun node after _ =>
    ((abides_attach _ _).bind fun _ => abides_pure _).points after
  unfold makeLeaf
  split
  · exact ((abides_childrenText _ _).bind fun _ => abides_edit _).points _
  · exact ((abides_childrenText _ _).bind fun _ => abides_edit _).points _
  · refine points_bind (points_leadingText among isStreamless part (.inl rfl) rfl) fun _ _ _ => ?_
    dsimp only
    split
    · exact ((abides_pseudoAttributes _ _).bind fun _ => abides_edit _).points _
    · exact ((abides_childrenText _ _).bind fun _ => abides_edit _).points _
  · exact (abides_edit _).points _
  · exact (abides_describe.bind fun _ => abides_edit _).points _
  · exact (abides_throw rfl).points _

theorem points_buildDoctype (among : visit ∈ visits) (isStreamless : visit.value.isStreamless)
    (part : visit.part? scene = some (.doctype children attributes, read)) :
    Points scene visits visit (buildDoctype scene (.doctype children attributes) visit.place.path
      children attributes) read := by
  refine points_bind (points_leadingText among isStreamless part (.inr rfl) rfl) fun _ after _ => ?_
  exact ((abides_identifier _ _ _ _ _).bind fun _ =>
    (abides_identifier _ _ _ _ _).bind fun _ => abides_giveDoctype _ _ _ _).points after

/-- The qualifiers that stand for nothing are in use, not declared, and not in scope. -/
theorem unbound_of_resolveIn {scope : List (String × String)} {name : String}
    {entries : List (String × String)} {missing : List String}
    (fails : resolveIn scope name (sortAttributes entries) = .error missing) :
    missing ≠ [] ∧ ∀ qualifier ∈ missing,
      some qualifier ∈ openQualifiers name (sortAttributes entries) ∧
        scope.lookup (declarationKey (some qualifier)) = none := by
  unfold resolveIn at fails
  dsimp only at fails
  split at fails
  · cases fails
  · rename_i isMissing
    cases fails
    refine ⟨isMissing, fun qualifier among => ?_⟩
    obtain ⟨given, isOpen, rfl⟩ := List.mem_filterMap.mp (Text.mem_sortByText.mp among)
    obtain ⟨isOpen, unknown⟩ := List.mem_filter.mp isOpen
    exact ⟨isOpen, Option.isNone_iff_eq_none.mp unknown⟩

/-- The node that namespaces come from is found without a change. -/
theorem Visit.sources_of_nearest {near : NodeId} {world after : World}
    (same : world.forest = visit.world.forest) (run : visit.place.nearest world = .ok near after) :
    after = world ∧ visit.sources? = some (near :: visit.place.anchor.toList) := by
  have finds : Ensures visit.place.nearest world (fun near after => after = world ∧
      visit.sources? = some (near :: visit.place.anchor.toList)) fun _ _ => True := by
    unfold Place.nearest sources?
    cases visit.place.pseudo with
    | some pseudo => exact ⟨rfl, rfl⟩
    | none =>
        refine ensures_implicitParent (fun home isHome => ⟨rfl, ?_⟩) fun _ => trivial
        rw [← same, isHome]
        rfl
  exact finds.of_ok run

/-- A qualifier that is open and not in scope is unbound. -/
theorem Visit.unbound_of_open {name qualifier : String} {entries : List (String × String)}
    {nodes : List NodeId} (flattens : visit.Flattens scene name entries)
    (isSources : visit.sources? = some nodes)
    (isOpen : some qualifier ∈ openQualifiers name (sortAttributes entries))
    (unknown : (visit.world.forest.scopes nodes).lookup (declarationKey (some qualifier)) = none) :
    visit.Unbound scene name qualifier := by
  unfold openQualifiers at isOpen
  dsimp only at isOpen
  obtain ⟨used, isOpen⟩ := List.mem_filter.mp (List.mem_eraseDups.mp isOpen)
  rw [Bool.and_eq_true, bne_iff_ne, Option.isNone_iff_eq_none] at isOpen
  refine ⟨entries, nodes, flattens, isSources, isOpen.1, ?_, ?_, unknown⟩
  · rcases List.mem_append.mp used with ofPlain | ofName
    · obtain ⟨entry, isPlain, isQualifier⟩ := List.mem_map.mp ofPlain
      rw [plain_sortAttributes] at isPlain
      obtain ⟨isEntry, declares⟩ := List.mem_filter.mp isPlain
      exact .inr ⟨entry, isEntry, Option.isNone_iff_eq_none.mp declares, isQualifier⟩
    · exact .inl (List.mem_singleton.mp ofName).symm
  · unfold declarationsIn
    rw [lookup_filter_ne isOpen.1]
    exact isOpen.2

/-- A resolution that fails names the qualifiers that are unbound. -/
theorem points_resolveFlat {name : String} {entries : List (String × String)}
    {nodes : List NodeId} {given : Value} {context : ErrorContext} {world : World}
    (among : visit ∈ visits)
    (isMap : visit.value.IsMapOf scene.settings.marker none given children)
    (flattens : visit.Flattens scene name entries) (isSources : visit.sources? = some nodes)
    (same : world.forest = visit.world.forest)
    (isPath : context.specPath = .text (String.join visit.place.path)) :
    Points scene visits visit (resolveFlat name entries nodes (some context)
      scene.settings.errorLevel) world := by
  have judges (scope : List (String × String)) (after : World)
      (known : ∀ qualifier ∈ openQualifiers name (sortAttributes entries),
        scope.lookup (declarationKey qualifier) =
          (visit.world.forest.scopes nodes).lookup (declarationKey qualifier)) :
      Points scene visits visit (resolutionOr name (some context) scene.settings.errorLevel
        (resolveIn scope name (sortAttributes entries))) after := by
    cases fails : resolveIn scope name (sortAttributes entries) with
    | ok resolution => exact (abides_pure _).points _
    | error missing =>
        obtain ⟨some, all⟩ := unbound_of_resolveIn fails
        refine Failure.pointsInto_here among rfl isPath ⟨some, ⟨given, children, isMap⟩, ?_⟩
        intro qualifier isMissing
        obtain ⟨isOpen, unknown⟩ := all qualifier isMissing
        exact Visit.unbound_of_open flattens isSources isOpen ((known _ isOpen).symm.trans unknown)
  unfold resolveFlat
  dsimp only
  split
  · rename_i nothing
    refine judges [] world fun qualifier isOpen => ?_
    rw [List.isEmpty_iff.mp nothing] at isOpen
    cases isOpen
  · refine (abides_scopeAt nodes).points_bind fun scope after run => ?_
    refine judges scope after fun qualifier _ => ?_
    rw [((ensures_scopeAt nodes).of_ok run).2, same]

/-- An element of which a name is missing or a qualifier stands for nothing is not resolved. -/
theorem points_resolveElement {given : Value} (among : visit ∈ visits)
    (isStreamless : visit.value.isStreamless)
    (part : visit.part? scene = some (.element given attributes children, read)) :
    Points scene visits visit (resolveElement scene visit.place (.element given attributes children)
      given attributes) read := by
  obtain ⟨_, isMap, isName⟩ :=
    isMapOf_of_reading none (visit.reading_of_part isStreamless part) rfl
  obtain rfl := isName _ _ _ rfl
  have same := Visit.forest_of_part? part
  unfold resolveElement
  refine (abides_describe.bind fun _ => abides_pure _).points_bind fun context _ ran => ?_
  cases ran
  refine (abides_flatten _ _).points_bind fun text named flattens => ?_
  have same := ((readsOnly_flatten _ _).forest_of_ok flattens).trans same
  cases text with
  | none =>
      have nameless : visit.Flattened scene given none := ⟨_, _, _, part, flattens⟩
      exact Failure.pointsInto_here among rfl rfl ⟨given, children, isMap, nameless⟩
  | some name =>
      refine (abides_nearest _).points_bind fun near after nears => ?_
      obtain ⟨rfl, isSources⟩ := visit.sources_of_nearest same nears
      refine points_bind ?_ fun _ last _ => (abides_pure _).points last
      refine (abides_flattenAttributes _ _).points_bind fun entries flat flattens' => ?_
      have named : visit.Flattens scene name entries :=
        ⟨given, attributes, children, read, _, flat, part, flattens, flattens'⟩
      refine points_resolveFlat among isMap named isSources ?_ rfl
      exact ((readsOnly_flattenAttributes _ _).forest_of_ok flattens').trans same

theorem points_makeElement {given : Value} (among : visit ∈ visits)
    (isStreamless : visit.value.isStreamless)
    (part : visit.part? scene = some (.element given attributes children, read)) :
    Points scene visits visit (makeElement scene visit.place (.element given attributes children)
      given attributes) read :=
  points_bind (points_resolveElement among isStreamless part) fun _ after _ =>
    ((abides_edit _).bind fun _ => (abides_attach _ _).bind fun _ =>
      abides_pure _).points after

end Making

/-! ## The whole build -/

section Building

variable {scene : Scene} {visits : Visit → List Visit} {budget : Nat}

/-- What is inside of a visit is within the depth too. -/
theorem Visit.within_of_part {visit inner : Visit} {spec : Spec} {read : World}
    (part : visit.part? scene = some (spec, read))
    (isDepth : inner.place.depth = visit.place.depth + 1) : inner.Within scene := by
  intro limit isLimit
  rw [isDepth]
  exact Nat.succ_le_succ (depth_of_part part isLimit)

/-- The name of an element that was made is the text of its name, resolved. -/
theorem Visit.name_of_made {visit : Visit} {name : Value} {attributes : RawAttributes}
    {children : List Value} {read after : World} {made : Made}
    (part : visit.part? scene = some (.element name attributes children, read))
    (isMade : visit.made? scene = some (made, after)) :
    ∃ text, visit.Flattened scene name (some text) ∧ made.resolution.name = resolvedName text := by
  obtain ⟨text, entries, flattens, isOf⟩ := of_made? isMade
  obtain ⟨_, _, _, _, named, _, part', flat, -⟩ := flattens
  rw [part] at part'
  cases part'
  refine ⟨text, ⟨_, _, _, part, flat⟩, ?_⟩
  unfold Resolution.name resolvedName
  rw [← isOf.name]

section Inner

variable {all : List Visit} {start : Visit} {spec : Spec} {read : World}
  (each : ∀ inner : Visit, inner.value.isStreamless →
    (∀ visit ∈ visits inner, visit.ReturnsStreamless scene) → inner.Within scene →
    Points scene (visits inner) inner (buildWithin scene budget inner.value inner.place)
      inner.world)
  (among : start ∈ all)

include each among

/-- What is one step inside of a value points to what is in it from there. -/
theorem points_inner (inner : Visit) {segment : Segment}
    (part : start.part? scene = some (spec, read)) (isStreamless : inner.value.isStreamless)
    (inside : ∀ visit ∈ visits inner, visit.ReturnsStreamless scene ∧ visit ∈ all)
    (steps : start.Steps scene inner segment)
    (isPath : inner.place.path = start.place.path ++ [segment.text])
    (isDepth : inner.place.depth = start.place.depth + 1) :
    Points scene all start (buildWithin scene budget inner.value inner.place) inner.world := by
  have points := each inner isStreamless (fun visit found => (inside visit found).1)
    (Visit.within_of_part part isDepth)
  refine points.mono (fun _ _ _ => trivial) fun cause _ points => ?_
  exact points.outward among (fun visit found => (inside visit found).2) steps isPath isDepth

/-- Members point to what is in them by their places in the sequence. -/
theorem points_buildMembers {enclosing : Enclosing} {inside : Place} {items : List Value}
    (part : start.part? scene = some (spec, read)) (held : start.value.held? = some items)
    (areStreamless : ∀ item ∈ items, item.isStreamless)
    (isPath : inside.path = start.place.path) (isDepth : inside.depth = start.place.depth) :
    ∀ (rest : List Value) (index : Nat) (last : Option NodeId) (world : World),
      items.drop index = rest →
      (∀ visit ∈ memberVisits visits (buildWithin scene budget) enclosing inside index world rest,
        visit.ReturnsStreamless scene ∧ visit ∈ all) →
      Points scene all start (buildMembers (buildWithin scene budget) inside index last rest) world
  | [], _, _, _, _, _ => (abides_pure _).points _
  | item :: rest, index, last, world, isRest, returns => by
      rw [memberVisits] at returns
      have there : items[index]? = some item := by
        rw [← List.head?_drop, isRest]
        rfl
      have isRest' : items.drop (index + 1) = rest := by
        rw [← List.tail_drop, isRest]
        rfl
      let inner : Visit :=
        { value := item, place := inside.deeper (memberSegment index), world, enclosing }
      have deeper : inner.place.path = start.place.path ++ [memberSegment index] :=
        congrArg (· ++ [memberSegment index]) isPath
      unfold buildMembers
      refine points_bind ?_ fun node after run => ?_
      · refine points_inner each among inner part
          (areStreamless item (List.mem_of_getElem? there)) (fun visit found => ?_)
          (.member held there) deeper (congrArg (· + 1) isDepth)
        exact returns visit (List.mem_append_left _ found)
      · rw [run] at returns
        exact points_buildMembers part held areStreamless isPath isDepth rest (index + 1) _ after
          isRest' fun visit among => returns visit (List.mem_append_right _ among)

theorem points_buildSequence {items : List Value}
    (part : start.part? scene = some (.sequence items, read))
    (isStreamless : start.value.isStreamless)
    (inner : ∀ visit ∈ innerVisits scene visits (buildWithin scene budget) start read
      (.sequence items), visit.ReturnsStreamless scene ∧ visit ∈ all) :
    Points scene all start (buildSequence scene (buildWithin scene budget) start.place items)
      read := by
  have reads := start.reading_of_part isStreamless part
  have held := (shape_of_reading reads rfl).1 items rfl
  have areStreamless := inherited_isStreamless.sequence.mp
    (inherited_isStreamless.of_reading isStreamless reads)
  dsimp only [innerVisits] at inner
  refine (abides_openSequence _ _).points_bind fun inside opened run => ?_
  rw [run] at inner
  obtain ⟨isPath, isDepth⟩ := path_of_openSequence run
  refine points_bind (points_buildMembers each among part held areStreamless isPath isDepth
    items 0 none opened rfl inner) fun last built _ => ?_
  exact ((abides_closeSequence _ _ _).bind fun _ => abides_pure _).points built

/-- What a function returns points to what is in it by the call. -/
theorem points_returned {callee : Function}
    (part : start.part? scene = some (.callable callee, read))
    (isStreamless : start.value.isStreamless) (returns : start.ReturnsStreamless scene)
    (inner : ∀ visit ∈ innerVisits scene visits (buildWithin scene budget) start read
      (.callable callee), visit.ReturnsStreamless scene ∧ visit ∈ all) :
    Points scene all start
      (buildSpec scene (buildWithin scene budget) start.place (.callable callee)) read := by
  have isFunction :=
    (shape_of_reading (start.reading_of_part isStreamless part) rfl).2 callee rfl
  dsimp only [innerVisits] at inner
  refine (Function.abides_call _ callee).points_bind fun value after run => ?_
  rw [run] at inner
  have isReturned : start.returned? scene = some (value, after) := by
    simp only [Visit.returned?, part, run]
  let next : Visit := { start with value, place := start.place.deeper "()", world := after }
  exact points_inner each among next part (returns _ isReturned) inner
    (.result isFunction isReturned) rfl rfl

/-- The children of an element point to what is in them by the name of the element. -/
theorem points_buildElement {name : Value} {attributes : RawAttributes} {children : List Value}
    (part : start.part? scene = some (.element name attributes children, read))
    (isStreamless : start.value.isStreamless)
    (inner : ∀ visit ∈ innerVisits scene visits (buildWithin scene budget) start read
      (.element name attributes children), visit.ReturnsStreamless scene ∧ visit ∈ all) :
    Points scene all start
      (buildElement scene (buildWithin scene budget) start.place
        (.element name attributes children) name attributes children) read := by
  have reads := start.reading_of_part isStreamless part
  have areStreamless := (inherited_isStreamless.element.mp
    (inherited_isStreamless.of_reading isStreamless reads)).2.2
  dsimp only [innerVisits] at inner
  refine points_bind (points_makeElement among isStreamless part) fun made after run => ?_
  have isMade : start.made? scene = some (made, after) := by
    simp only [Visit.made?, part, run]
  rw [isMade] at inner
  dsimp only at inner
  split
  · exact (abides_pure _).points _
  · rename_i someChildren
    rw [if_neg someChildren] at inner
    obtain ⟨isPath, isDepth⟩ := Visit.path_of_made isMade
    obtain ⟨_, isMap, isName⟩ := isMapOf_of_reading none reads rfl
    obtain rfl := isName _ _ _ rfl
    obtain ⟨text, flattened, isText⟩ := Visit.name_of_made part isMade
    rw [isText] at isPath
    let next : Visit :=
      { value := .list children, place := made.inside, world := after,
        enclosing := made.resolution.declarations :: start.enclosing }
    have points := points_inner each among next part
      (inherited_isStreamless.list.mpr areStreamless) inner (.children isMap flattened rfl)
      isPath isDepth
    exact points_bind points fun _ last _ => (abides_pure _).points last

/-- What a value was read as points to a value at fault if what is inside of it does. -/
theorem points_buildSpec (part : start.part? scene = some (spec, read))
    (isStreamless : start.value.isStreamless) (returns : start.ReturnsStreamless scene)
    (inner : ∀ visit ∈ innerVisits scene visits (buildWithin scene budget) start read spec,
      visit.ReturnsStreamless scene ∧ visit ∈ all) :
    Points scene all start (buildSpec scene (buildWithin scene budget) start.place spec) read := by
  cases spec with
  | sequence items => exact points_buildSequence each among part isStreamless inner
  | callable callee => exact points_returned each among part isStreamless returns inner
  | element name attributes children =>
      exact points_buildElement each among part isStreamless inner
  | doctype children attributes =>
      exact points_bind (points_buildDoctype among isStreamless part) fun _ after _ =>
        (abides_pure _).points after
  | comment | cdata | instruction | existing | text =>
      exact points_buildLeaf among isStreamless part

end Inner

/-- What fails inside of the value of a visit points to a value at fault. -/
theorem points_buildWithin : ∀ (budget : Nat) (start : Visit), start.value.isStreamless →
    (∀ visit ∈ visitsWithin scene budget start, visit.ReturnsStreamless scene) →
    start.Within scene →
    Points scene (visitsWithin scene budget start) start
      (buildWithin scene budget start.value start.place) start.world
  | 0, _, _, _, _ => (abides_throw rfl).points _
  | budget + 1, start, isStreamless, returns, within => by
      have among : start ∈ visitsWithin scene (budget + 1) start := List.mem_cons_self
      cases part : start.part? scene with
      | none =>
          unfold buildWithin
          refine points_bind (points_readPart among within) fun found after run => ?_
          cases found with
          | none => exact (abides_pure _).points _
          | some spec =>
              rw [Visit.part?, run] at part
              cases part
      | some found =>
          obtain ⟨spec, read⟩ := found
          have inner : ∀ visit ∈ innerVisits scene (visitsWithin scene budget)
              (buildWithin scene budget) start read spec,
              visit.ReturnsStreamless scene ∧ visit ∈ visitsWithin scene (budget + 1) start := by
            intro visit inside
            have within : visit ∈ visitsWithin scene (budget + 1) start := by
              rw [visitsWithin, part]
              exact List.mem_cons_of_mem start inside
            exact ⟨returns visit within, within⟩
          show Ensures _ _ _ _
          rw [Visit.ensures_buildWithin part]
          exact points_buildSpec (points_buildWithin budget) among part isStreamless
            (returns start among) inner

end Building

/-! ## Builds -/

section Compile

variable {settings : Settings} {spec document arguments : Value} {where? : Option (Mode × Value)}
  {before start after : World} {task : Task}

/-- The first visit of a build that is ready, to the whole spec. -/
def Task.first (task : Task) (spec : Value) (start : World) : Visit :=
  { value := spec, place := { target := task.target }, world := start }

/-- Failures say where in the spec they arose.  In a spec without streams, where no function that
is called in its place returns one either, a failure with a context has the way to the value at
fault in it: the segments after the first lead there from the spec, and there are as many of
them as the build was deep. -/
theorem compile_locates {error : SpecError} {context : ErrorContext}
    (isStreamless : spec.isStreamless)
    (returns : ∀ task start, prepare settings where? document arguments before = .ok task start →
      ∀ visit ∈ task.visits spec start, visit.ReturnsStreamless task.scene)
    (run : compile settings spec where? document arguments before = .error (.spec error) after)
    (isContext : error.context = some context) :
    ∃ task start, prepare settings where? document arguments before = .ok task start ∧
      ∃ segments final,
        Visit.Leads task.scene (task.visits spec start) (task.first spec start) segments final ∧
        context.specPath = .text (String.join ("$" :: segments.map Segment.text)) ∧
        final.place.path = "$" :: segments.map Segment.text ∧
        final.place.depth = segments.length ∧
        final.place.path.length = final.place.depth + 1 ∧
        final.IsAtFault task.scene error.cause := by
  rcases bind_eq_error.mp run with failed | ⟨task, start, prepared, rest⟩
  · have abides : Abides .silent (prepare settings where? document arguments) :=
      abides_prepare _ _ _ _
    have none : (Failure.spec error).context? = none := (abides before).of_error failed
    rw [Failure.context?, isContext] at none
    cases none
  · have same := (scene_of_prepare prepared).1
    rcases bind_eq_error.mp rest with built | ⟨_, _, -, rest⟩
    · have within : (task.first spec start).Within task.scene := fun limit _ => Nat.zero_le _
      rw [← same] at built
      obtain ⟨segments, final, leads, path, depth, isPath, isAtFault⟩ :=
        (points_buildWithin task.scene.settings.budget (task.first spec start) isStreamless
          (returns task start prepared) within).of_error built error context rfl isContext
      have path : final.place.path = "$" :: segments.map Segment.text := path
      have depth : final.place.depth = segments.length := depth.trans (Nat.zero_add _)
      refine ⟨task, start, prepared, segments, final, leads, by rw [isPath, path], path, depth, ?_,
        isAtFault⟩
      rw [path, depth, List.length_cons, List.length_map]
    · cases rest

end Compile

/-- A function that returns a map without a name. -/
def namelessFunction : Function where
  id := 0
  label := none
  body := .map [(.text "a", .null)]

/-- A sequence of a text and an element, whose second child is that function. -/
def namelessSpec : Value :=
  .list
    [.text "t",
      .map [(.null, .list [.text "q:x", .null, .function namelessFunction]),
        (.text "xmlns:q", .text "urn:q")]]

/-- The failure says the way to what the function returns. -/
theorem compile_locates_namelessSpec :
    ∃ error context after, compile {} namelessSpec (some (.before, .node 2)) .null (.list [])
        smallWorld = .error (.spec error) after ∧
      error.cause.kind = .missingName ∧ error.context = some context ∧
      context.specPath = .text "$[1]<q:x>[1]()" ∧
      ∃ segments final, Visit.Leads (smallTask .before).scene
          ((smallTask .before).visits namelessSpec smallWorld)
          ((smallTask .before).first namelessSpec smallWorld) segments final ∧
        String.join ("$" :: segments.map Segment.text) = "$[1]<q:x>[1]()" ∧
        final.IsAtFault (smallTask .before).scene error.cause := by
  have prepared : prepare {} (some (.before, .node 2)) .null (.list []) smallWorld =
      .ok (smallTask .before) smallWorld := rfl
  have returns : ∀ visit ∈ (smallTask .before).visits namelessSpec smallWorld,
      visit.ReturnsStreamless (smallTask .before).scene := by
    unfold Visit.ReturnsStreamless
    decide +kernel
  have ends : endsIn (compile {} namelessSpec (some (.before, .node 2)) .null (.list []))
      smallWorld (fun _ _ => False) fun cause _ => cause.kind = .spec .missingName ∧
        cause.context?.bind (fun context => context.specPath.text?) = some "$[1]<q:x>[1]()" := by
    decide +kernel
  cases run : compile {} namelessSpec (some (.before, .node 2)) .null (.list []) smallWorld with
  | ok result after => exact (done_of_endsIn ends run).elim
  | error cause after =>
      obtain ⟨isKind, isText⟩ := failed_of_endsIn ends run
      cases cause with
      | spec error =>
          obtain ⟨context, isContext, isText⟩ := Option.bind_eq_some_iff.mp isText
          obtain ⟨task, start, prepared', segments, final, leads, isPath, -, -, -, fault⟩ :=
            compile_locates (by decide +kernel) (fun task start prepared' => by
              rw [prepared] at prepared'
              cases prepared'
              exact returns) run isContext
          rw [prepared] at prepared'
          cases prepared'
          rw [isPath] at isText
          refine ⟨error, context, after, rfl, FailureKind.spec.inj isKind, isContext, ?_, segments,
            final, leads, Option.some.inj isText, fault⟩
          rw [isPath, Option.some.inj isText]
      | _ => cases isText

end MarkupSpec
