import MarkupSpec.Proofs.Build.Concatenation
import MarkupSpec.Proofs.Build.Visits

/-!
# A depth limit is only a cut

With a depth limit a build either fails because a place is too deep, or it is in all respects
the build without a limit, and that with any greater limit (`compile_limited`).  It fails so
exactly if the build without a limit comes to a value that is too deep.

A limit is looked at in one step only, when a value is read (`readPart_limited`).  At a place
that is not too deep the step is the same as without a limit, and no other step asks for it
(`echo_buildOver`).  The depth of a place grows with every step down, so a place that is as
deep as its budget allows is too deep, and what would be built below the last step of the
budget is never asked for: anything can stand in its place (`buildOver`).
-/

namespace MarkupSpec

open Build

/-! ## Limits -/

/-- The settings with another limit, or none. -/
def Settings.limited (settings : Settings) (most : Option DepthLimit) : Settings :=
  { settings with maxDepth := most }

/-- The scene with another limit, or none. -/
def Scene.limited (scene : Scene) (most : Option DepthLimit) : Scene :=
  { scene with settings := scene.settings.limited most }

/-- The other limit allows all that a limit allows. -/
def DepthLimit.Within (limit : DepthLimit) (other : Option DepthLimit) : Prop :=
  ∀ most ∈ other, limit.depth ≤ most.depth

theorem DepthLimit.within_none (limit : DepthLimit) : limit.Within none := by
  rintro _ ⟨⟩

/-- The build failed because a place is too deep. -/
def IsTooDeep {α : Type} (outcome : EStateM.Result Failure World α) : Prop :=
  ∃ cause after, outcome = .error cause after ∧ cause.kind = .spec .tooDeep

/-- Two builds that are the same in all respects, unless the first one is cut. -/
def cutting (mayBeCut : Prop) : Likeness Failure World where
  excuse := fun cause => mayBeCut ∧ cause.kind = .spec .tooDeep
  causes := Eq
  states := Eq

section Cutting

variable {α : Type} {mayBeCut : Prop}

/-- A step is the same as itself. -/
theorem echo_same (step : Build α) : Echo (cutting mayBeCut) Eq step step := by
  rintro world _ rfl
  cases step world with
  | ok => exact .ok rfl rfl
  | error => exact .failed rfl rfl

/-- What echoes a build in all respects is the same, unless that is cut. -/
theorem eq_or_isTooDeep {first second : EStateM.Result Failure World α}
    (echoes : Echoes (cutting mayBeCut) Eq first second) :
    second = first ∨ mayBeCut ∧ IsTooDeep first := by
  cases echoes with
  | ok same state =>
      cases same
      cases state
      exact .inl rfl
  | failed same state =>
      cases same
      cases state
      exact .inl rfl
  | excused excuse => exact .inr ⟨excuse.1, _, _, rfl, excuse.2⟩

end Cutting

/-! ## Reading with a limit -/

section Reading

variable {settings : Settings} {limit : DepthLimit} {other : Option DepthLimit} {place : Place}
  {value : Value}

/-- Where a limit is kept, reading is the same with any other limit that allows as much. -/
theorem readPart_limited (within : limit.Within other) (kept : place.depth ≤ limit.depth) :
    readPart (settings.limited other) value place =
      readPart (settings.limited (some limit)) value place := by
  have admits : (settings.limited (some limit)).Admits place.depth := by
    rintro _ ⟨rfl⟩
    exact kept
  have admits' : (settings.limited other).Admits place.depth :=
    fun most isLimit => Nat.le_trans kept (within most isLimit)
  rw [readPart, readPart, checkDepth_eq admits, checkDepth_eq admits']
  rfl

/-- Nothing is read at a place that is too deep. -/
theorem readPart_tooDeep (deep : limit.depth < place.depth) (world : World) :
    IsTooDeep (readPart (settings.limited (some limit)) value place world) := by
  have fails : ∃ error : SpecError, error.cause = .tooDeep limit.depth ∧
      checkDepth (settings.limited (some limit)) value place world = .error (.spec error) world := by
    simp only [checkDepth, Settings.limited, if_pos deep]
    exact ⟨_, rfl, rfl⟩
  obtain ⟨error, cause, run⟩ := fails
  refine ⟨.spec error, world, ?_, ?_⟩
  · simp only [readPart, Bind.bind, EStateM.bind, run]
  · rw [Failure.kind, cause]
    rfl

end Reading

/-! ## Building with a limit -/

/-- Build the part of a spec at a place, with another builder for what is below the last step of
the budget. -/
def buildOver (scene : Scene) (bottom : Builder) : Nat → Builder
  | 0 => bottom
  | budget + 1 => fun value place => do
      match ← readPart scene.settings value place with
      | none => pure none
      | some spec => buildSpec scene (buildOver scene bottom budget) place spec

/-- What is below the last step of the budget fails. -/
theorem buildOver_exhausted (scene : Scene) :
    ∀ budget, buildOver scene (fun _ _ => throw .exhausted) budget = buildWithin scene budget
  | 0 => rfl
  | budget + 1 => by
      funext value place
      rw [buildOver, buildOver_exhausted scene budget]
      rfl

/-- A value that is not read is not built. -/
theorem buildOver_of_error {scene : Scene} {value : Value} {place : Place} {world after : World}
    {cause : Failure} (run : readPart scene.settings value place world = .error cause after)
    (bottom : Builder) (budget : Nat) :
    buildOver scene bottom (budget + 1) value place world = .error cause after := by
  simp only [buildOver, Bind.bind, EStateM.bind, run]

/-! ### Steps that do not look at the limit -/

section Settings

variable (scene : Scene) (settings : Settings) (place : Place)

theorem pseudoAttributes_settings : ∀ attributes : RawAttributes,
    pseudoAttributes { scene with settings } attributes = pseudoAttributes scene attributes
  | [] => rfl
  | (key, value) :: rest => by
      rw [pseudoAttributes, pseudoAttributes, pseudoAttributes_settings rest]

variable (level : settings.errorLevel = scene.settings.errorLevel)

include level

theorem buildLeaf_settings (spec : Spec) :
    buildLeaf { scene with settings } place spec = buildLeaf scene place spec := by
  have instruction (children : List Value) (attributes : RawAttributes) :
      buildInstruction { scene with settings } spec place.path children attributes =
        buildInstruction scene spec place.path children attributes := by
    unfold buildInstruction leadingText
    rw [funext (pseudoAttributes_settings scene settings), level]
    rfl
  unfold buildLeaf
  cases spec with
  | instruction children attributes =>
      rw [makeLeaf, instruction]
      rfl
  | _ => rfl

/-- Of the settings only the level of messages matters, once a value was read. -/
theorem buildSpec_settings (below : Builder) (spec : Spec) :
    buildSpec { scene with settings } below place spec = buildSpec scene below place spec := by
  cases spec with
  | comment | cdata | instruction | existing | text =>
      exact buildLeaf_settings scene settings place level _
  | element =>
      simp only [buildSpec, buildElement, makeElement, resolveElement, level]
  | doctype =>
      simp only [buildSpec, buildDoctype, leadingText, level]
      rfl
  | _ => rfl

end Settings

section Limited

variable (scene : Scene) (most : Option DepthLimit) (place : Place)

/-- Only reading looks at the limit. -/
theorem buildSpec_limited (below : Builder) (spec : Spec) :
    buildSpec (scene.limited most) below place spec = buildSpec scene below place spec :=
  buildSpec_settings scene (scene.settings.limited most) place rfl below spec

variable {mayBeCut : Prop}

/-- A sequence is as deep as the place it is at. -/
theorem echo_opening : Echo (cutting mayBeCut)
    (fun inside inside' => inside' = inside ∧ inside.depth = place.depth)
    (openSequence scene place) (openSequence scene place) := by
  unfold openSequence
  refine Echo.bind (echo_same (implicitParent place.target)) ?_
  rintro parent _ rfl
  refine Echo.bind (echo_same (holderFor scene place.target)) ?_
  rintro holder _ rfl
  exact Echo.pure ⟨rfl, rfl⟩

/-- The inside of an element is one step further down. -/
theorem echo_making (spec : Spec) (name : Value) (attributes : RawAttributes) :
    Echo (cutting mayBeCut)
      (fun made made' => made' = made ∧ made.inside.depth = place.depth + 1)
      (makeElement scene place spec name attributes)
      (makeElement scene place spec name attributes) := by
  unfold makeElement
  refine Echo.bind (echo_same (resolveElement scene place spec name attributes)) ?_
  rintro ⟨near, resolution⟩ _ rfl
  refine Echo.bind (echo_same (edit (createResolved scene.document resolution))) ?_
  rintro element _ rfl
  refine Echo.bind (echo_same (attach place.target element)) fun _ _ _ => ?_
  exact Echo.pure ⟨rfl, rfl⟩

end Limited

theorem depth_of_openSequence {scene : Scene} {place inside : Place} {world opened : World}
    (run : openSequence scene place world = .ok inside opened) : inside.depth = place.depth := by
  have echo : Echo (cutting True) _ _ _ := echo_opening scene place
  have echoes := echo world world rfl
  rw [run] at echoes
  obtain ⟨_, _, -, same, -⟩ := echoes.of_ok
  exact same.2

theorem depth_of_makeElement {scene : Scene} {place : Place} {spec : Spec} {name : Value}
    {attributes : RawAttributes} {made : Made} {world after : World}
    (run : makeElement scene place spec name attributes world = .ok made after) :
    made.inside.depth = place.depth + 1 := by
  have echo : Echo (cutting True) _ _ _ := echo_making scene place spec name attributes
  have echoes := echo world world rfl
  rw [run] at echoes
  obtain ⟨_, _, -, same, -⟩ := echoes.of_ok
  exact same.2

/-! ### The build -/

section Cut

variable {mayBeCut : Prop} {scene : Scene} {limit : DepthLimit} {other : Option DepthLimit}
  {below below' : Builder} {place : Place}

theorem echo_buildMembers (each : ∀ value segment, Echo (cutting mayBeCut) Eq
      (below value (place.deeper segment)) (below' value (place.deeper segment))) :
    ∀ (items : List Value) (index : Nat) (last : Option NodeId), Echo (cutting mayBeCut) Eq
      (buildMembers below place index last items) (buildMembers below' place index last items)
  | [], _, _ => Echo.pure rfl
  | item :: rest, index, last => by
      refine Echo.bind (each item _) ?_
      rintro node _ rfl
      exact echo_buildMembers each rest _ _

/-- What a value was read as is built the same if what is one step further down is. -/
theorem echo_buildSpec
    (each : ∀ value inside, Place.depth inside = place.depth + 1 → Echo (cutting mayBeCut) Eq
      (below value inside) (below' value inside)) (spec : Spec) :
    Echo (cutting mayBeCut) Eq (buildSpec scene below place spec)
      (buildSpec scene below' place spec) := by
  cases spec with
  | sequence items =>
      refine Echo.bind (echo_opening scene place) ?_
      rintro inside _ ⟨rfl, depth⟩
      refine Echo.bind (echo_buildMembers (fun value segment => ?_) items 0 none) ?_
      · exact each value _ (congrArg (· + 1) depth)
      · rintro last _ rfl
        exact echo_same _
  | callable function =>
      refine Echo.bind (echo_same (function.call scene.arguments)) ?_
      rintro value _ rfl
      exact each value _ rfl
  | element name attributes children =>
      refine Echo.bind (echo_making scene place _ name attributes) ?_
      rintro made _ ⟨rfl, depth⟩
      split
      · exact Echo.pure rfl
      · refine Echo.bind (each _ _ depth) ?_
        rintro node _ rfl
        exact Echo.pure rfl
  | doctype children attributes =>
      exact echo_same (some <$> buildDoctype scene _ place.path children attributes)
  | comment | cdata | instruction | existing | text => exact echo_same (buildLeaf scene place _)

/-- Two builds with budgets for all that a limit allows are the same, whatever is built below
these, unless the limit cuts the first one and not the second. -/
theorem echo_buildOver (scene : Scene) (cuts : mayBeCut ∧ limit.Within other ∨ other = some limit)
    (bottom bottom' : Builder) : ∀ (budget budget' : Nat) (value : Value) (place : Place),
      place.depth ≤ limit.depth + 1 → limit.depth + 2 ≤ place.depth + budget →
      limit.depth + 2 ≤ place.depth + budget' →
      Echo (cutting mayBeCut) Eq
        (buildOver (scene.limited (some limit)) bottom budget value place)
        (buildOver (scene.limited other) bottom' budget' value place)
  | 0, _, _, _, depth, most, _ => absurd most (by omega)
  | _, 0, _, _, depth, _, most => absurd most (by omega)
  | budget + 1, budget' + 1, value, place, depth, most, most' => by
      have each (value : Value) (inside : Place) (deeper : inside.depth = place.depth + 1)
          (kept : place.depth ≤ limit.depth) :=
        echo_buildOver scene cuts bottom bottom' budget budget' value inside (by omega) (by omega)
          (by omega)
      have within : limit.Within other := by
        rcases cuts with ⟨-, within⟩ | rfl
        · exact within
        · rintro _ ⟨rfl⟩
          exact Nat.le_refl _
      by_cases kept : place.depth ≤ limit.depth
      · have reads : Echo (cutting mayBeCut) Eq
            (readPart (scene.limited (some limit)).settings value place)
            (readPart (scene.limited other).settings value place) := by
          show Echo _ _ _ (readPart (scene.settings.limited other) value place)
          rw [readPart_limited within kept]
          exact echo_same _
        refine Echo.bind reads ?_
        rintro found _ rfl
        cases found with
        | none => exact Echo.pure rfl
        | some spec =>
            dsimp only
            rw [buildSpec_limited, buildSpec_limited]
            exact echo_buildSpec (fun value inside deeper => each value inside deeper kept) spec
      · rintro world _ rfl
        have fails : IsTooDeep (readPart (scene.limited (some limit)).settings value place world) :=
          readPart_tooDeep (Nat.lt_of_not_le kept) world
        obtain ⟨cause, after, run, isTooDeep⟩ := fails
        rw [buildOver_of_error run]
        rcases cuts with ⟨cut, -⟩ | rfl
        · refine .excused ?_
          exact ⟨cut, isTooDeep⟩
        · rw [buildOver_of_error run]
          exact .failed rfl rfl

/-- A build is the same with a limit and with any other one that allows as much, unless it is
cut. -/
theorem buildWithin_limited (scene : Scene) (within : limit.Within other) (budget : Nat)
    (value : Value) (place : Place) (world : World) (depth : place.depth ≤ limit.depth + 1)
    (most : limit.depth + 2 ≤ place.depth + budget) :
    buildWithin (scene.limited other) budget value place world =
        buildWithin (scene.limited (some limit)) budget value place world ∨
      IsTooDeep (buildWithin (scene.limited (some limit)) budget value place world) := by
  have echo : Echo (cutting True) _ _ _ := echo_buildOver scene (.inl ⟨trivial, within⟩)
    (fun _ _ => throw .exhausted) (fun _ _ => throw .exhausted) budget budget value place depth
    most most
  rw [buildOver_exhausted, buildOver_exhausted] at echo
  exact (eq_or_isTooDeep (echo world world rfl)).imp_right And.right

end Cut

/-! ### The whole build -/

/-- A build that is about to begin, with another limit or none. -/
def Task.limited (task : Task) (most : Option DepthLimit) : Task :=
  { task with scene := task.scene.limited most }

/-- Build a spec, with another builder for what is below the last step of the budget. -/
def compileOver (bottom : Builder) (budget : Nat) (settings : Settings) (spec : Value)
    (where? : Option (Mode × Value)) (document arguments : Value) : Build Value := do
  let task ← prepare settings where? document arguments
  return resultOr task.fallback (← buildOver task.scene bottom budget spec { target := task.target })

section Compile

variable {mayBeCut : Prop} {settings : Settings} {limit : DepthLimit} {other : Option DepthLimit}
  {spec : Value} {where? : Option (Mode × Value)} {document arguments : Value}

theorem compileOver_exhausted (budget : Nat) :
    compileOver (fun _ _ => throw .exhausted) budget settings spec where? document arguments =
      compileWithin budget settings spec where? document arguments := by
  unfold compileOver compileWithin
  simp only [buildOver_exhausted]

/-- A build gets ready in the same way with other settings for the same version. -/
theorem prepare_settings (change : Settings → Settings)
    (version : (change settings).xmlVersion = settings.xmlVersion) :
    prepare (change settings) where? document arguments =
      (fun task =>
        { task with scene := { task.scene with settings := change task.scene.settings } }) <$>
        prepare settings where? document arguments := by
  unfold prepare rootDocument
  rw [version, map_bind]
  congr 1
  funext given
  split
  · simp only [map_bind, map_pure]
  · simp only [map_bind, map_pure]
  · rw [map_bind]
    rfl

theorem prepare_limited (most : Option DepthLimit) :
    prepare (settings.limited most) where? document arguments =
      (fun task => task.limited most) <$> prepare settings where? document arguments :=
  prepare_settings (Settings.limited · most) rfl

/-- With a budget for all that a limit allows, and whatever is built below that, a build is the same
as with the limit, unless the limit cuts that one and not the other. -/
theorem compileOver_limited (cuts : mayBeCut ∧ limit.Within other ∨ other = some limit)
    (bottom : Builder) {budget : Nat} (most : limit.depth + 2 ≤ budget) (world : World) :
    let cut := compile (settings.limited (some limit)) spec where? document arguments world
    compileOver bottom budget (settings.limited other) spec where? document arguments world = cut ∨
      mayBeCut ∧ IsTooDeep cut := by
  have isCut : compile (settings.limited (some limit)) spec where? document arguments =
      compileOver (fun _ _ => throw .exhausted) (limit.depth + 2) (settings.limited (some limit)) spec
        where? document arguments := (compileOver_exhausted _).symm
  rw [isCut]
  refine eq_or_isTooDeep ?_
  unfold compileOver
  rw [prepare_limited, prepare_limited, bind_map_left, bind_map_left]
  refine (Echo.bind (echo_same _) ?_ : Echo (cutting mayBeCut) Eq _ _) world world rfl
  rintro task _ rfl
  have echo := echo_buildOver task.scene cuts (fun _ _ => throw .exhausted) bottom (limit.depth + 2)
    budget spec { target := task.target } (Nat.zero_le _) (by simp) (by simpa using most)
  refine Echo.bind echo ?_
  rintro node _ rfl
  exact Echo.pure rfl

end Compile

/-! ## Where a build is cut -/

section TooDeep

variable {α β : Type} {first : Build α} {next : α → Build β} {world : World}

/-- A step that echoes itself where no place may be too deep does not fail for that. -/
theorem not_isTooDeep (echo : ∀ terms : Terms, (∀ value : Value, value.isClear terms) →
      ∃ done : α → α → Prop, Echo terms.likeness done first first) (world : World) :
    ¬ IsTooDeep (first world) := by
  rintro ⟨cause, after, run, isTooDeep⟩
  have nothing (id : Nat) : ({ names := world.names, mayBeDeep := False } : Terms).aside id = none := rfl
  obtain ⟨done, echo⟩ := echo _ (Value.isClear_of_nothing nothing)
  have echoes := echo world world (.refl rfl nothing)
  rw [run] at echoes
  cases echoes with
  | failed alike => exact alike.2 isTooDeep
  | excused excuse => exact excuse.1 trivial

theorem not_isTooDeep_ok {result : α} {after : World} :
    ¬ IsTooDeep (.ok result after : EStateM.Result Failure World α) := by
  rintro ⟨_, _, run, -⟩
  cases run

/-- A build that goes on with nothing that fails for that is cut before. -/
theorem isTooDeep_bind_shallow (shallow : ∀ result after, ¬ IsTooDeep (next result after)) :
    IsTooDeep ((first >>= next) world) ↔ IsTooDeep (first world) := by
  simp only [Bind.bind, EStateM.bind]
  cases run : first world with
  | ok result after => exact iff_of_false (shallow result after) not_isTooDeep_ok
  | error cause after =>
      constructor
      · rintro ⟨_, _, ⟨rfl, rfl⟩, deep⟩
        exact ⟨_, _, rfl, deep⟩
      · rintro ⟨_, _, ⟨rfl, rfl⟩, deep⟩
        exact ⟨_, _, rfl, deep⟩

end TooDeep

/-- One of the visits is deeper than a limit allows. -/
def ComesTooDeep (limit : DepthLimit) (visits : List Visit) : Prop :=
  ∃ visit ∈ visits, limit.depth < visit.place.depth

section Visits

variable {α β : Type} {scene : Scene} {limit : DepthLimit} {below below' : Builder}
  {inside : Place} {visits : Visit → List Visit} {enclosing : Enclosing}

theorem comesTooDeep_append {front back : List Visit} :
    ComesTooDeep limit (front ++ back) ↔ ComesTooDeep limit front ∨ ComesTooDeep limit back := by
  simp [ComesTooDeep, or_and_right, exists_or]

theorem comesTooDeep_cons {visit : Visit} {rest : List Visit}
    (kept : ¬ limit.depth < visit.place.depth) :
    ComesTooDeep limit (visit :: rest) ↔ ComesTooDeep limit rest := by
  simp [ComesTooDeep, kept]

theorem not_comesTooDeep_nil : ¬ ComesTooDeep limit [] := by
  rintro ⟨_, among, -⟩
  cases among

/-- Behind a step that does not fail for that, a build is cut where the visits come too deep that
are made after the step. -/
theorem isTooDeep_then {first : Build α} {next : α → Build β} {world : World} {found : List Visit}
    (shallow : ¬ IsTooDeep (first world))
    (onNext : ∀ result after, first world = .ok result after →
      (IsTooDeep (next result after) ↔ ComesTooDeep limit found))
    (onError : ∀ cause after, first world = .error cause after → found = []) :
    IsTooDeep ((first >>= next) world) ↔ ComesTooDeep limit found := by
  simp only [Bind.bind, EStateM.bind]
  cases run : first world with
  | ok result after => exact onNext result after run
  | error cause after =>
      rw [onError cause after run]
      rw [run] at shallow
      refine iff_of_false ?_ not_comesTooDeep_nil
      rintro ⟨_, _, ⟨rfl, rfl⟩, deep⟩
      exact shallow ⟨_, _, rfl, deep⟩

/-- The members of a sequence are cut where one of them is, before which all were built. -/
theorem isTooDeep_buildMembers
    (each : ∀ value segment world, IsTooDeep (below value (inside.deeper segment) world) ↔
      ComesTooDeep limit (visits { value, place := inside.deeper segment, world, enclosing }))
    (agrees : ∀ value segment world,
      below' value (inside.deeper segment) world = below value (inside.deeper segment) world ∨
        IsTooDeep (below value (inside.deeper segment) world)) :
    ∀ (items : List Value) (index : Nat) (last : Option NodeId) (world : World),
      IsTooDeep (buildMembers below inside index last items world) ↔
        ComesTooDeep limit (memberVisits visits below' enclosing inside index world items)
  | [], _, _, _ => iff_of_false not_isTooDeep_ok not_comesTooDeep_nil
  | item :: rest, index, last, world => by
      rw [buildMembers, memberVisits, comesTooDeep_append, ← each]
      by_cases deep : IsTooDeep (below item (inside.deeper (memberSegment index)) world)
      · refine iff_of_true ?_ (.inl deep)
        obtain ⟨cause, after, run, isTooDeep⟩ := deep
        exact ⟨cause, after, by simp only [Bind.bind, EStateM.bind, run], isTooDeep⟩
      · rw [or_iff_right deep, (agrees item _ world).resolve_right deep]
        refine isTooDeep_then deep (fun node after run => ?_) fun cause after run => by rw [run]
        rw [run]
        exact isTooDeep_buildMembers each agrees rest (index + 1) (node <|> last) after

variable {visit : Visit} {world : World}
  (each : ∀ other : Visit, other.place.depth = visit.place.depth + 1 →
    (IsTooDeep (below other.value other.place other.world) ↔ ComesTooDeep limit (visits other)))
  (agrees : ∀ value inside world, Place.depth inside = visit.place.depth + 1 →
    below' value inside world = below value inside world ∨ IsTooDeep (below value inside world))

include each agrees in
theorem isTooDeep_buildSequence (items : List Value) :
    IsTooDeep (buildSequence scene below visit.place items world) ↔
      ComesTooDeep limit (innerVisits scene visits below' visit world (.sequence items)) := by
  have opening : ¬ IsTooDeep (openSequence scene visit.place world) :=
    not_isTooDeep (fun _ _ => ⟨_, echo_openSequence (.refl visit.place)⟩) world
  refine isTooDeep_then opening (fun inside opened run => ?_) fun cause after run => ?_
  · rw [innerVisits, run]
    have depth := depth_of_openSequence run
    have closing (last : Option NodeId) : ∀ after, ¬ IsTooDeep
        ((closeSequence visit.place.target inside.target.reference last >>= fun _ =>
          pure last) after) :=
      not_isTooDeep fun terms _ => ⟨_, (likewise_closeSequence _ _ last).bind fun _ _ =>
        likewise_pure (R := Anything) trivial⟩
    refine (isTooDeep_bind_shallow closing).trans ?_
    refine isTooDeep_buildMembers (fun value segment world => ?_) (fun value segment world => ?_)
      items 0 none opened
    · exact each { value, place := inside.deeper segment, world, enclosing := visit.enclosing }
        (congrArg (· + 1) depth)
    · exact agrees value (inside.deeper segment) world (congrArg (· + 1) depth)
  · rw [innerVisits, run]

include each in
theorem isTooDeep_buildElement {name : Value} {attributes : RawAttributes} {children : List Value}
    (part : visit.part? scene = some (.element name attributes children, world)) :
    IsTooDeep (buildElement scene below visit.place (.element name attributes children) name
        attributes children world) ↔
      ComesTooDeep limit
        (innerVisits scene visits below' visit world (.element name attributes children)) := by
  have making : ¬ IsTooDeep (makeElement scene visit.place (.element name attributes children)
      name attributes world) :=
    not_isTooDeep (fun terms isClear => ⟨_, echo_makeElement (fun _ _ => isClear _)
      (.refl visit.place) (isClear name) fun _ _ => isClear _⟩) world
  refine isTooDeep_then making (fun made after run => ?_) fun cause after run => ?_
  · have isMade : visit.made? scene = some (made, after) := by
      simp only [Visit.made?, part, run]
    rw [innerVisits, isMade]
    dsimp only
    split
    · exact iff_of_false not_isTooDeep_ok not_comesTooDeep_nil
    · refine (isTooDeep_bind_shallow fun _ _ => not_isTooDeep_ok).trans ?_
      refine each ⟨.list children, made.inside, after, _⟩ ?_
      exact depth_of_makeElement run
  · have fails : visit.made? scene = none := by
      simp only [Visit.made?, part, run]
    rw [innerVisits, fails]

include each agrees in
/-- A build is cut inside of what a value was read as where it comes to a place that is too
deep. -/
theorem isTooDeep_buildSpec {spec : Spec} (part : visit.part? scene = some (spec, world)) :
    IsTooDeep (buildSpec scene below visit.place spec world) ↔
      ComesTooDeep limit (innerVisits scene visits below' visit world spec) := by
  cases spec with
  | sequence items => exact isTooDeep_buildSequence each agrees items
  | callable function =>
      have calling : ¬ IsTooDeep (function.call scene.arguments world) :=
        not_isTooDeep (fun terms isClear => ⟨_, (kindred_clear terms).likewise_call
          (fun _ _ => isClear _) (isClear (.function function))⟩) world
      refine isTooDeep_then calling (fun value after run => ?_) fun cause after run => ?_
      · rw [innerVisits, run]
        exact each { visit with value, place := visit.place.deeper "()", world := after } rfl
      · rw [innerVisits, run]
  | element name attributes children => exact isTooDeep_buildElement each part
  | doctype children attributes =>
      refine iff_of_false (not_isTooDeep (fun terms isClear => ⟨fun _ _ => True, ?_⟩) world)
        not_comesTooDeep_nil
      exact Echo.map (likewise_buildDoctype (fun _ _ => isClear _) (fun _ _ => isClear _)
        fun _ _ => isClear _) fun _ _ _ => trivial
  | comment | cdata | instruction | existing | text =>
      refine iff_of_false (not_isTooDeep (fun terms isClear => ⟨fun _ _ => True, ?_⟩) world)
        not_comesTooDeep_nil
      exact Echo.mono (likewise_buildLeaf (fun _ _ => isClear _) (.refl _) fun _ _ => isClear _)
        fun _ _ _ => trivial

/-- A build is cut where it comes to a place that is too deep. -/
theorem isTooDeep_buildWithin (scene : Scene) : ∀ (budget : Nat) (visit : Visit),
    visit.place.depth ≤ limit.depth + 1 → limit.depth + 2 ≤ visit.place.depth + budget →
      (IsTooDeep
          (buildWithin (scene.limited (some limit)) budget visit.value visit.place visit.world) ↔
        ComesTooDeep limit (visitsWithin (scene.limited none) budget visit))
  | 0, visit, depth, most => absurd most (by omega)
  | budget + 1, visit, depth, most => by
      by_cases kept : visit.place.depth ≤ limit.depth
      · have reads : readPart (scene.limited (some limit)).settings visit.value visit.place =
            readPart (scene.limited none).settings visit.value visit.place :=
          (readPart_limited limit.within_none kept).symm
        have reading : ¬ IsTooDeep
            (readPart (scene.limited none).settings visit.value visit.place visit.world) :=
          not_isTooDeep (fun terms isClear => ⟨_, (kindred_clear terms).likewise_readPart
            (likewise_pure (R := Anything) trivial) (isClear visit.value)⟩) visit.world
        have behind : ComesTooDeep limit (visitsWithin (scene.limited none) (budget + 1) visit) ↔ _ :=
          comesTooDeep_cons (Nat.not_lt.mpr kept)
        have each (other : Visit) (deeper : other.place.depth = visit.place.depth + 1) :=
          isTooDeep_buildWithin scene budget other (by omega) (by omega)
        have agrees (value : Value) (inside : Place) (world : World)
            (deeper : inside.depth = visit.place.depth + 1) :=
          buildWithin_limited scene limit.within_none budget value inside world (by omega) (by omega)
        rw [behind, buildWithin, reads]
        refine isTooDeep_then reading (fun found after run => ?_) fun cause after run => ?_
        · cases found with
          | none =>
              have part : visit.part? (scene.limited none) = none := by simp only [Visit.part?, run]
              rw [part]
              exact iff_of_false not_isTooDeep_ok not_comesTooDeep_nil
          | some spec =>
              have part : visit.part? (scene.limited none) = some (spec, after) := by
                simp only [Visit.part?, run]
              rw [part]
              dsimp only
              rw [buildSpec_limited, ← buildSpec_limited scene none]
              exact isTooDeep_buildSpec each agrees part
        · have part : visit.part? (scene.limited none) = none := by simp only [Visit.part?, run]
          rw [part]
      · refine iff_of_true ?_ ⟨visit, List.mem_cons_self, Nat.lt_of_not_le kept⟩
        have fails : IsTooDeep (readPart (scene.limited (some limit)).settings visit.value
          visit.place visit.world) := readPart_tooDeep (Nat.lt_of_not_le kept) visit.world
        obtain ⟨cause, after, run, isTooDeep⟩ := fails
        exact ⟨cause, after, by simp only [buildWithin, Bind.bind, EStateM.bind, run], isTooDeep⟩

end Visits

/-! ## The limit as a cut -/

section Cut

variable {settings : Settings} {limit : DepthLimit} {spec : Value} {where? : Option (Mode × Value)}
  {document arguments : Value} {world : World}

/-- What would be built below the last step that the limit allows does not matter. -/
theorem compileOver_same (bottom : Builder) {budget : Nat} (most : limit.depth + 2 ≤ budget) :
    compileOver bottom budget (settings.limited (some limit)) spec where? document arguments world =
      compile (settings.limited (some limit)) spec where? document arguments world :=
  (compileOver_limited (.inr rfl) bottom most world).resolve_right And.left

/-- Getting ready does not fail because a place is too deep. -/
theorem not_isTooDeep_prepare (world : World) :
    ¬ IsTooDeep (prepare settings where? document arguments world) :=
  not_isTooDeep (fun terms isClear => ⟨_, likewise_prepare settings where? document
    ((kindred_clear terms).likewise_spread (isClear arguments))⟩) world

/-- A build is cut if it comes to a place that is too deep. -/
theorem isTooDeep_compile {budget : Nat} (most : limit.depth + 2 ≤ budget) :
    IsTooDeep (compile (settings.limited (some limit)) spec where? document arguments world) ↔
      ∃ task start, prepare (settings.limited none) where? document arguments world = .ok task start ∧
        ComesTooDeep limit (visitsWithin task.scene budget
          { value := spec, place := { target := task.target }, world := start }) := by
  rw [← compileOver_same (fun _ _ => throw .exhausted) most, compileOver_exhausted, compileWithin,
    prepare_limited, prepare_limited, bind_map_left]
  have getsReady : ¬ IsTooDeep (prepare settings where? document arguments world) :=
    not_isTooDeep_prepare world
  simp only [Functor.map, EStateM.map]
  cases run : prepare settings where? document arguments world with
  | error cause after =>
      rw [run] at getsReady
      refine iff_of_false ?_ ?_
      · rintro ⟨cause', after', run', isTooDeep⟩
        simp only [Bind.bind, EStateM.bind, run] at run'
        cases run'
        exact getsReady ⟨_, _, rfl, isTooDeep⟩
      · rintro ⟨_, _, run', -⟩
        cases run'
  | ok task start =>
      have built : IsTooDeep (buildWithin (task.scene.limited (some limit)) budget spec
          { target := task.target } start) ↔ _ :=
        isTooDeep_buildWithin task.scene budget
          { value := spec, place := { target := task.target }, world := start } (Nat.zero_le _)
          (by simpa using most)
      simp only [Bind.bind, EStateM.bind, run]
      refine (isTooDeep_bind_shallow fun _ _ => not_isTooDeep_ok).trans (built.trans ?_)
      constructor
      · exact fun comes => ⟨_, _, rfl, comes⟩
      · rintro ⟨_, _, ⟨rfl, rfl⟩, comes⟩
        exact comes

/-- A depth limit is only a cut.  A build with a limit either fails because a place is too deep, or
it is in all respects the build without a limit, with any budget that is enough, and the build
with any greater limit.  It fails so exactly if the build without a limit comes to a value that
is deeper than the limit.  And it never nests deeper than two steps more than the limit allows:
whatever would be built there, the build is the same. -/
theorem compile_limited (settings : Settings) (limit : DepthLimit) (spec : Value)
    (where? : Option (Mode × Value)) (document arguments : Value) (world : World) :
    let cut := compile (settings.limited (some limit)) spec where? document arguments world
    (∀ budget, limit.depth + 2 ≤ budget →
      compileWithin budget (settings.limited none) spec where? document arguments world = cut ∨
        IsTooDeep cut) ∧
    (∀ most : DepthLimit, limit.depth ≤ most.depth →
      compile (settings.limited (some most)) spec where? document arguments world = cut ∨
        IsTooDeep cut) ∧
    (∀ budget, limit.depth + 2 ≤ budget → (IsTooDeep cut ↔
      ∃ task start, prepare (settings.limited none) where? document arguments world = .ok task start ∧
        ComesTooDeep limit (visitsWithin task.scene budget
          { value := spec, place := { target := task.target }, world := start }))) ∧
    ∀ bottom budget, limit.depth + 2 ≤ budget →
      compileOver bottom budget (settings.limited (some limit)) spec where? document arguments world =
        cut := by
  intro cut
  refine ⟨fun budget most => ?_, fun greater most => ?_, fun budget most => isTooDeep_compile most,
    fun bottom budget most => compileOver_same bottom most⟩
  · rw [← compileOver_exhausted]
    exact (compileOver_limited (.inl ⟨trivial, limit.within_none⟩) _ most world).imp_right And.right
  · have within : limit.Within (some greater) := by
      rintro _ ⟨rfl⟩
      exact most
    rw [compile, ← compileOver_exhausted]
    exact (compileOver_limited (.inl ⟨trivial, within⟩) _ (Nat.add_le_add_right most 2) world).imp_right
      And.right

end Cut

/-- A function that gives itself, by its name. -/
def returningItself : Function := { id := 0, label := some "f", body := .named "f" [] }

/-- With a limit of two it is called three times, and nothing is built where it would be called
once more. -/
theorem compile_limited_returningItself :
    let settings := ({} : Settings).limited (some { depth := 2 })
    let world : World := { names := [("f", .function returningItself)] }
    endsIn (compile settings (.function returningItself) none .null (.list [])) world
      (fun _ _ => False) (fun cause after => cause.kind = .spec .tooDeep ∧ after.calls.size = 3) ∧
    ∀ bottom budget, 4 ≤ budget →
      compileOver bottom budget settings (.function returningItself) none .null (.list []) world =
        compile settings (.function returningItself) none .null (.list []) world := by
  intro settings world
  exact ⟨by decide +kernel, (compile_limited {} { depth := 2 } (.function returningItself) none .null
    (.list []) world).2.2.2⟩

end MarkupSpec
