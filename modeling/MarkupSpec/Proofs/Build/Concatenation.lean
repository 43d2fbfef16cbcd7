import MarkupSpec.Proofs.Build.EvenBuilds
import MarkupSpec.Proofs.Build.NodeOwners

/-!
# A list is built like its parts in turn

Under a node, a list that is put together from two lists is built like the first one and then,
if that ends well, the second one: with the same nodes, calls and streams, and a failure at the
same point for a cause of the same kind (`compile_append`).  What was built before a failure
stays in place in both cases.

The members of a list go under the node one by one (`buildMembers_append`), and neither the way
to a member nor what was built before it matters for what it is built to.  The second build gets
ready like the first one, since nodes belong to the same documents as before.  If it builds
anything its result is a new node (`new_buildWithin`), and else the node that it goes by.
-/

namespace MarkupSpec

open Build

/-! ## Members in turn -/

section Members

variable {below : Builder}

/-- What was built before gives the result only if nothing is built. -/
theorem buildMembers_last (place : Place) : ∀ (items : List Value) (index : Nat)
    (last : Option NodeId), buildMembers below place index last items =
      (fun node => node <|> last) <$> buildMembers below place index none items
  | [], _, last => by simp [buildMembers]
  | item :: rest, index, last => by
      rw [buildMembers, buildMembers, map_bind]
      congr 1
      funext node
      rw [buildMembers_last place rest (index + 1) (node <|> last),
        buildMembers_last place rest (index + 1) (node <|> none), ← comp_map]
      congr 1
      funext later
      cases later <;> cases node <;> rfl

theorem buildMembers_append (place : Place) (ys : List Value) : ∀ (xs : List Value) (index : Nat)
    (last : Option NodeId), buildMembers below place index last (xs ++ ys) = (do
      let last ← buildMembers below place index last xs
      buildMembers below place (index + xs.length) last ys)
  | [], index, last => by simp [buildMembers]
  | x :: xs, index, last => by
      rw [List.cons_append, buildMembers, buildMembers, bind_assoc]
      congr 1
      funext node
      rw [buildMembers_append place ys xs, List.length_cons, Nat.add_assoc, Nat.add_comm 1]

end Members

/-! ## What is built is new -/

/-- A builder gives a node that was not there before, or none. -/
def Builder.Renews (below : Builder) : Prop :=
  ∀ value place world, Ensures (below value place) world
    (fun node _ => ∀ built ∈ node, world.forest.size ≤ built) fun _ _ => True

section New

variable {scene : Scene} {below : Builder}

theorem new_buildMembers (grows : below.Grows) (renews : below.Renews) (place : Place)
    {base : Nat} : ∀ (items : List Value) (index : Nat) (last : Option NodeId) (world : World),
      base ≤ world.forest.size → (∀ built ∈ last, base ≤ built) →
        Ensures (buildMembers below place index last items) world
          (fun node _ => ∀ built ∈ node, base ≤ built) fun _ _ => True
  | [], _, _, _, _, isNew => isNew
  | item :: rest, index, last, world, size, isNew => by
      rw [buildMembers, MarkupSpec.ensures_bind]
      have both := (grows item (place.deeper (memberSegment index)) world).and
        (renews item (place.deeper (memberSegment index)) world)
      refine both.mono (fun node after ends => ?_) fun _ _ _ => trivial
      obtain ⟨grew, isNode⟩ := ends
      refine new_buildMembers grows renews place rest (index + 1) (node <|> last) after
        (Nat.le_trans size grew.size) fun built among => ?_
      cases node with
      | none => exact isNew built among
      | some built' => exact Nat.le_trans size (isNode built among)

theorem new_buildElement (renews : below.Renews) (place : Place) (spec : Spec) (name : Value)
    (attributes : RawAttributes) (children : List Value) (world : World) :
    Ensures (buildElement scene below place spec name attributes children) world
      (fun node _ => ∀ built ∈ node, world.forest.size ≤ built) fun _ _ => True := by
  rw [buildElement, MarkupSpec.ensures_bind]
  refine (grows_makeElement scene place spec name attributes world).mono
    (fun made after ends => ?_) fun _ _ _ => trivial
  obtain ⟨grew, element, -⟩ := ends
  have isElement : ∀ built ∈ some made.element, world.forest.size ≤ built := by
    rintro _ ⟨rfl⟩
    exact Nat.le_of_eq element.symm
  split
  · exact isElement
  · rw [MarkupSpec.ensures_bind]
    refine (renews (.list children) made.inside after).mono (fun node final isNode => ?_)
      fun _ _ _ => trivial
    cases node with
    | none => exact isElement
    | some built => exact fun built among => Nat.le_trans grew.size (isNode built among)

theorem new_buildSequence (grows : below.Grows) (renews : below.Renews) (place : Place)
    (items : List Value) (world : World) :
    Ensures (buildSequence scene below place items) world
      (fun node _ => ∀ built ∈ node, world.forest.size ≤ built) fun _ _ => True := by
  rw [buildSequence, MarkupSpec.ensures_bind]
  refine (grows_openSequence scene place world).mono (fun inside opened ends => ?_)
    fun _ _ _ => trivial
  rw [MarkupSpec.ensures_bind]
  have nothing : ∀ built ∈ none, world.forest.size ≤ built := fun built among =>
    absurd among (Option.not_mem_none built)
  refine (new_buildMembers grows renews inside items 0 none opened ends.1.size nothing).mono
    (fun last built isNew => ?_) fun _ _ _ => trivial
  rw [MarkupSpec.ensures_bind]
  exact Ensures.of_run (fun _ _ _ => isNew) fun _ _ _ => trivial

/-- What a build gives is a node that was not there before, or nothing. -/
theorem new_buildWithin (scene : Scene) : ∀ budget, Builder.Renews (buildWithin scene budget)
  | 0 => fun _ _ _ => trivial
  | budget + 1 => by
      intro value place world
      have grows := grows_buildWithin scene budget
      have renews := new_buildWithin scene budget
      rw [buildWithin]
      refine (readsOnly_readPart _ _ _).ensures_bind (fun part after _ same => ?_)
        fun _ _ _ => trivial
      rw [← same]
      cases part with
      | none => exact fun built among => absurd among (Option.not_mem_none built)
      | some spec =>
          have isNumber {node : NodeId} (number : node = after.forest.size) :
              ∀ built ∈ some node, after.forest.size ≤ built := by
            rintro _ ⟨rfl⟩
            exact Nat.le_of_eq number.symm
          cases spec with
          | sequence items => exact new_buildSequence grows renews place items after
          | callable function =>
              refine (Function.readsOnly_call function scene.arguments).ensures_bind
                (fun value final _ same => ?_) fun _ _ _ => trivial
              rw [← same]
              exact renews value (place.deeper "()") final
          | element name attributes children =>
              exact new_buildElement renews place _ name attributes children after
          | doctype children attributes =>
              show Ensures (buildDoctype scene _ place.path children attributes >>= fun node =>
                pure (some node)) after _ _
              rw [MarkupSpec.ensures_bind]
              exact (makes_buildDoctype scene _ place.path children attributes after).mono
                (fun _ _ made => isNumber made.2) fun _ _ _ => trivial
          | comment | cdata | instruction | existing | text =>
              show Ensures (buildLeaf scene place _) after _ _
              rw [buildLeaf, MarkupSpec.ensures_bind]
              refine (makes_makeLeaf scene place.path _ after).mono (fun node made ends => ?_)
                fun _ _ _ => trivial
              rw [MarkupSpec.ensures_bind]
              exact Ensures.of_run (fun _ _ _ => isNumber ends.2) fun _ _ _ => trivial

end New

/-! ## Lists in turn -/

/-- Under a node a list is built like its two parts one after the other. -/
theorem likewise_append {terms : Terms} {scene : Scene} {place : Place} (deep : terms.mayBeDeep)
    (levelled : terms.levelled) (given : AreClear terms scene.arguments)
    (isUnder : place.target.isUnder) (admits : scene.settings.Admits place.depth) (budget : Nat)
    {xs ys : List Value} (areXs : AreClear terms xs) (areYs : AreClear terms ys) :
    Likewise terms.likeness Anything
      (buildWithin scene (budget + 1) (.list (xs ++ ys)) place) (do
        let first ← buildWithin scene (budget + 1) (.list xs) place
        let second ← buildWithin scene (budget + 1) (.list ys) place
        pure (second <|> first)) := by
  have each := likewise_buildWithin deep given budget budget (.inl ⟨levelled, rfl⟩)
  have matching : place.opened.Matches terms place.opened := .refl _
  have opens (items : List Value) : ComesTo terms (buildWithin scene (budget + 1) (.list items) place)
      (buildMembers (buildWithin scene budget) place.opened 0 none items) :=
    comesTo_buildMembers rfl isUnder admits budget
  refine (opens (xs ++ ys)).likewise_left (((opens xs).bind _).likewise_right ?_)
  rw [buildMembers_append]
  refine (likewise_buildMembers each matching xs 0 0 none areXs).bind fun first _ => ?_
  refine ((opens ys).bind _).likewise_right ?_
  rw [buildMembers_last, ← bind_pure_comp]
  exact (likewise_buildMembers each matching ys _ 0 none areYs).bind fun second _ =>
    likewise_pure trivial

/-! ## Getting ready again -/

theorem rangeMembers_cases (start stop step : Int) :
    (∃ items, rangeMembers start stop step = pure items) ∨
      ∃ cause, rangeMembers start stop step = throw cause := by
  unfold rangeMembers
  dsimp only
  split
  · exact .inr ⟨_, rfl⟩
  · split
    · exact .inr ⟨_, rfl⟩
    · exact .inl ⟨_, rfl⟩

/-- Arguments that are no stream come to the same values each time, or to the same failure. -/
theorem spread_cases {arguments : Value} (noStream : ∀ id, arguments ≠ .stream id) :
    (∃ given, spread arguments = pure given) ∨ ∃ cause, spread arguments = throw cause := by
  cases arguments with
  | stream id => exact absurd rfl (noStream id)
  | range start stop step => exact rangeMembers_cases start stop step
  | set | text | bytes | map | list | tuple => exact .inl ⟨_, rfl⟩
  | null | bool | int | float | nan | thing | function | node => exact .inr ⟨_, rfl⟩

/-- What a build under a node gets ready, once it has its arguments and its document. -/
def Task.under (settings : Settings) (parent : NodeId) (given : List Value) (document : NodeId) :
    Task where
  scene := { settings, document, arguments := given }
  target := .under parent
  fallback := .node parent

theorem prepare_under {arguments : Value} {given : List Value}
    (spreads : spread arguments = pure given) (settings : Settings) (parent : NodeId)
    (document : Value) :
    prepare settings (some (.under, .node parent)) document arguments =
      Task.under settings parent given <$> documentFor document parent := by
  unfold prepare
  rw [spreads, pure_bind, ← bind_pure_comp]
  rfl

/-- The document to build in is the same again, as long as the node belongs to it. -/
theorem documentFor_again {document : Value} (isDocument : document.isNull ∨ document.isNode)
    {parent id : NodeId} {world after : World}
    (run : documentFor document parent world = .ok id after) :
    after = world ∧ ∀ later : World,
      (∀ id, world.forest.documentOf? parent = some id →
        later.forest.documentOf? parent = some id) →
      documentFor document parent later = .ok id later := by
  cases document with
  | null =>
      have reads (world : World) : documentFor .null parent world =
          ((world.forest.documentOf? parent).elim (throw (.edit .noSuchOperation)) pure :
            Build NodeId) world := by
        have got : (get : Build World) world = .ok world world := rfl
        cases belongs : world.forest.documentOf? parent <;>
          simp [documentFor, Value.isNull, forest, Bind.bind, EStateM.bind, got, Pure.pure,
            EStateM.pure, belongs]
      rw [reads] at run
      cases belongs : world.forest.documentOf? parent with
      | none =>
          rw [belongs] at run
          cases run
      | some document =>
          rw [belongs] at run
          cases run
          refine ⟨rfl, fun later stays => ?_⟩
          rw [reads, stays _ rfl]
          rfl
  | node document =>
      cases run
      exact ⟨rfl, fun _ _ => rfl⟩
  | _ => rcases isDocument with isNull | isNode <;> contradiction

/-! ## Builds in turn -/

/-- Failures of one kind, and worlds that differ in nothing but what was noticed. -/
def butNotices : Likeness Failure World where
  excuse := fun _ => False
  causes := fun cause cause' => cause'.kind = cause.kind
  states := fun world world' => world' = { world with notices := world'.notices }

/-- Build one spec and then, if that ends well, another one under the same node.  The result is
what the second one built, or else what the first one did. -/
def compileBoth (settings : Settings) (parent : NodeId) (first second document arguments : Value) :
    Build Value := do
  let built ← compile settings first (some (.under, .node parent)) document arguments
  let later ← compile settings second (some (.under, .node parent)) document arguments
  pure (if later.node? = some parent then built else later)

/-- Even worlds without anything set aside differ in nothing but what was noticed, if their logs
are compared. -/
theorem World.Even.butNotices {terms : Terms} {world world' : World}
    (even : world.Even terms world') (nothing : ∀ id, terms.aside id = none)
    (logged : terms.logged) : MarkupSpec.butNotices.states world world' := by
  have streams := even.streams_eq nothing
  have forest := even.forest
  have nextId := even.nextId
  have calls := even.calls logged
  have names := even.names'.trans even.names.symm
  obtain ⟨_, _, _, _, _, _⟩ := world
  obtain ⟨_, _, _, _, _, _⟩ := world'
  dsimp only at streams forest nextId calls names
  subst streams forest nextId calls names
  rfl

section Compile

variable {settings : Settings} {parent : NodeId} {document arguments : Value}
  {world start : World} {task : Task}

/-- A build under a node that is ready can get ready for the same again, as long as the node
belongs to the same document, and changes nothing by that. -/
theorem prepare_again (noStream : ∀ id, arguments ≠ .stream id)
    (isDocument : document.isNull ∨ document.isNode)
    (run : prepare settings (some (.under, .node parent)) document arguments world =
      .ok task start) :
    start = world ∧ (∃ given id, task = Task.under settings parent given id) ∧
      ∀ later : World, (∀ id, world.forest.documentOf? parent = some id →
        later.forest.documentOf? parent = some id) →
        prepare settings (some (.under, .node parent)) document arguments later =
          .ok task later := by
  rcases spread_cases noStream with ⟨given, spreads⟩ | ⟨cause, fails⟩
  · rw [prepare_under spreads] at run ⊢
    cases found : documentFor document parent world with
    | error cause after =>
        simp only [Functor.map, EStateM.map, found] at run
        cases run
    | ok id after =>
        obtain ⟨rfl, again⟩ := documentFor_again isDocument found
        simp only [Functor.map, EStateM.map, found] at run
        cases run
        refine ⟨rfl, ⟨given, id, rfl⟩, fun later stays => ?_⟩
        simp only [Functor.map, EStateM.map, again later stays]
  · rw [prepare, fails] at run
    cases run

/-- Once a build is ready, it is that of its spec. -/
theorem compile_of_prepare {spec : Value} {where? : Option (Mode × Value)}
    (run : prepare settings where? document arguments world = .ok task start) :
    compile settings spec where? document arguments world =
      (resultOr task.fallback <$>
        buildWithin task.scene settings.budget spec { target := task.target }) start := by
  simp only [compile, compileWithin, Bind.bind, EStateM.bind, run, Functor.map, EStateM.map]
  rfl

theorem Settings.budget_succ (settings : Settings) : ∃ rest, settings.budget = rest + 1 := by
  unfold Settings.budget
  split
  · exact ⟨_, rfl⟩
  · exact ⟨999, rfl⟩

/-- Two builds in turn under a node that was there before are two builds of the one that is
ready. -/
theorem compileBoth_of_prepare {first second : Value} (inside : parent < world.forest.size)
    (again : ∀ later : World, (∀ id, world.forest.documentOf? parent = some id →
      later.forest.documentOf? parent = some id) →
      prepare settings (some (.under, .node parent)) document arguments later = .ok task later)
    (fallback : task.fallback = .node parent) :
    compileBoth settings parent first second document arguments world =
      (resultOr (.node parent) <$> (do
        let first ← buildWithin task.scene settings.budget first { target := task.target }
        let second ← buildWithin task.scene settings.budget second { target := task.target }
        pure (second <|> first))) world := by
  have starts : compile settings first (some (.under, .node parent)) document arguments world = _ :=
    compile_of_prepare (again world fun _ => id)
  simp only [compileBoth, Bind.bind, EStateM.bind, starts, fallback, Functor.map, EStateM.map]
  cases run : buildWithin task.scene settings.budget first { target := task.target } world with
  | error cause after => rfl
  | ok built after =>
      have grew := (grows_buildWithin task.scene settings.budget _ _ world).of_ok run
      have stays (id : NodeId) (belongs : world.forest.documentOf? parent = some id) :
          after.forest.documentOf? parent = some id :=
        (belongs_buildWithin belongs).of_ok run
      have continues :
          compile settings second (some (.under, .node parent)) document arguments after = _ :=
        compile_of_prepare (again after stays)
      simp only [continues, fallback, Functor.map, EStateM.map]
      cases run' : buildWithin task.scene settings.budget second { target := task.target } after with
      | error cause final => rfl
      | ok later final =>
          have isNew := (new_buildWithin task.scene settings.budget _ _ after).of_ok run'
          cases later with
          | none => simp [resultOr, Value.node?, pure, EStateM.pure]
          | some node =>
              have other : node ≠ parent := by
                rintro rfl
                exact absurd inside (Nat.not_lt.mpr (Nat.le_trans grew.size (isNew _ rfl)))
              simp [resultOr, Value.node?, other, pure, EStateM.pure]

/-- Building a list under a node is building its two parts in turn: with the same result, or a
failure of the same kind, and in any case with the same forest, calls and streams at the end. -/
theorem compile_append (settings : Settings) (xs ys : List Value)
    (inside : parent < world.forest.size) (isDocument : document.isNull ∨ document.isNode)
    (noStream : ∀ id, arguments ≠ .stream id) :
    Echoes butNotices (fun result result' => result' = result)
      (compile settings (.list (xs ++ ys)) (some (.under, .node parent)) document arguments world)
      (compileBoth settings parent (.list xs) (.list ys) document arguments world) := by
  cases run : prepare settings (some (.under, .node parent)) document arguments world with
  | error cause after =>
      have fails (spec : Value) :
          compile settings spec (some (.under, .node parent)) document arguments world =
            .error cause after := by
        simp only [compile, compileWithin, Bind.bind, EStateM.bind, run]
      simp only [compileBoth, Bind.bind, EStateM.bind, fails]
      exact .failed rfl rfl
  | ok task start =>
      obtain ⟨rfl, ⟨given, id, rfl⟩, again⟩ := prepare_again noStream isDocument run
      obtain ⟨rest, budget⟩ := settings.budget_succ
      have nothing (id : Nat) : ({ names := start.names } : Terms).aside id = none := rfl
      have even : start.Even { names := start.names } start := .refl rfl nothing
      have areClear (items : List Value) : AreClear { names := start.names } items :=
        fun _ _ => Value.isClear_of_nothing nothing _
      have admits : settings.Admits 0 := fun limit _ => Nat.zero_le _
      have echo : Echo ({ names := start.names } : Terms).likeness
          (fun result result' => result' = result)
          (resultOr (.node parent) <$> buildWithin (Task.under settings parent given id).scene
            (rest + 1) (.list (xs ++ ys)) { target := .under parent }) _ :=
        Echo.map (likewise_append trivial trivial (areClear _) rfl admits rest (areClear xs)
          (areClear ys)) fun _ _ same => congrArg (resultOr (.node parent)) same.1
      rw [compile_of_prepare run, compileBoth_of_prepare inside again rfl, budget]
      refine (echo start start even).mono (fun _ _ same => same) (fun _ excused => excused.1 trivial)
        (fun _ _ alike => alike.1) fun _ _ even => even.butNotices nothing trivial

end Compile

/-- An element. -/
def opening : List Value := [.map [(.null, .text "c")]]

/-- A text, and an element whose qualifier stands for nothing. -/
def failingEnd : List Value := [.text "v", .map [(.null, .text "q:d")]]

/-- The second part fails behind the text, and so does the whole list. -/
theorem compile_append_failingEnd :
    let world := worldAfter {} linkedRequests
    (endsIn (compileBoth {} 1 (.list opening) (.list failingEnd) .null (.list [])) world
      (fun _ _ => False) fun cause after =>
        cause.kind = .spec .unboundQualifiers ∧ after.forest.children 1 = [4, 5, 8, 9]) ∧
      Echoes butNotices (fun result result' => result' = result)
        (compile {} (.list (opening ++ failingEnd)) (some (.under, .node 1)) .null (.list []) world)
        (compileBoth {} 1 (.list opening) (.list failingEnd) .null (.list []) world) := by
  intro world
  have inside : 1 < world.forest.size := by decide +kernel
  exact ⟨by decide +kernel,
    compile_append {} opening failingEnd inside (.inl rfl) fun _ => nofun⟩

end MarkupSpec
