import MarkupSpec.Proofs.Position.PairedBuilds

/-!
# A build under a node and a build beside a child of it

The same spec is built under a host and beside one of its children.  Single nodes get their
places at once in both builds (`Stage.beside`).  A sequence comes under the host at once, but
beside the child into a new fragment first (`Stage.holding`), and only then to its place,
which leaves the fragment with nothing in it (`Stage.emptied`).
-/

namespace MarkupSpec

open Forest Edit Build

namespace Stage

variable {stage : Stage} {target : Target} {before after after' : Forest}

/-! ## The pairings of the two builds -/

/-- Both builds go on in the same forest. -/
def beside (stage : Stage) (target : Target) : Pairing where
  toStage := stage
  shift := 0
  second := stage.forest
  grown := .refl stage.intact.agrees
  size := rfl
  target
  hold := stage.home
  isHost' := stage.isHost
  apart' := stage.apart

/-- The forest with a new fragment. -/
def opened (stage : Stage) : Forest :=
  stage.forest.add { content := .fragment, owner := some stage.document' }

theorem opened_intact (stage : Stage) : Intact stage.forest stage.opened :=
  (Intact.refl stage.intact.agrees).add _ _

theorem opened_content (stage : Stage) : stage.opened.content? stage.forest.size = some .fragment := by
  simp [opened, content?]

theorem opened_children (stage : Stage) (id : NodeId) :
    stage.opened.children id = stage.forest.children id := children_add _ _ _ _

theorem opened_isFragment (stage : Stage) :
    stage.opened.isA Content.isFragment stage.forest.size := by
  rw [isA, opened_content]
  rfl

/-- The second build puts under a new fragment what the first one puts under the home. -/
def holding (stage : Stage) : Pairing where
  toStage := stage
  shift := 1
  second := stage.opened
  grown := stage.opened_intact
  size := size_add _ _
  target := .under stage.forest.size
  hold := stage.forest.size
  isHost' := .inr stage.opened_isFragment
  apart' id isKnown := Nat.ne_of_lt (stage.closed.inside id isKnown)

/-- The fragment is there, but what was in it is at the target. -/
def emptied (stage : Stage) (target : Target) : Pairing where
  toStage := stage
  shift := 1
  second := stage.opened
  grown := stage.opened_intact
  size := size_add _ _
  target
  hold := stage.home
  isHost' := stage.isHost.later (by rw [stage.opened_intact.content _ stage.isHost.lt_size])
  apart' := stage.apart

theorem holding_second (stage : Stage) : stage.holding.second = stage.opened := rfl

theorem document_ne_home (stage : Stage) : stage.document' ≠ stage.home := by
  intro same
  have other := stage.isHost.isDocument
  rw [← same, stage.isDocument'] at other
  cases other

/-! ## The fragment -/

section Holding

variable (twins : stage.holding.Twins before after)

include twins

/-- The fragment is as it was made. -/
theorem content_fragment : after.content? stage.forest.size = some .fragment := by
  have lasting : (after.content? stage.forest.size).map Content.lasting = _ :=
    twins.frames'.lasting stage.forest.size stage.holding.isHost'.lt_size
  rw [holding_second, opened_content] at lasting
  obtain ⟨content, there, same⟩ := Option.map_eq_some_iff.mp lasting
  rw [there, Pairing.eq_of_lasting same rfl]

theorem isFragment_fragment : after.isA Content.isFragment stage.forest.size := by
  rw [isA, content_fragment twins]
  rfl

theorem isHost_home : after.IsHost stage.home := by
  have early := stage.isHost.lt_size
  refine stage.isHost.later ((twins.frames'.lasting _ (Pairing.lt_second early)).trans ?_)
  rw [holding_second, stage.opened_intact.content _ early]

/-- While there is something in the fragment, the row of the home is as it was. -/
theorem children_home : after.children stage.home = stage.forest.children stage.home := by
  have early := stage.isHost.lt_size
  rw [twins.frames'.children stage.home (Pairing.lt_second early), holding_second, opened_children]
  rintro (isFragment | isDocument)
  · exact Nat.ne_of_lt early isFragment
  · exact stage.document_ne_home isDocument.symm

variable {list : List NodeId} {gone : Option NodeId}
  (houses : Houses stage.home list gone stage.forest.size after after')

include houses

/-- Only the rows of the home and of the document change, since there is nothing in the
fragment in the end. -/
theorem frames_emptied :
    Frames (fun id => id = stage.home ∨ id = stage.document') stage.opened after' := by
  have wide : Frames
      (fun id => id = stage.home ∨ id = stage.forest.size ∨ id = stage.document') stage.opened
      after' :=
    ((Frames.refl stage.holding.intact').trans twins.frames' fun _ _ => .inr).trans
      (.of_houses houses) fun _ _ may => may.imp_right .inl
  have elsewhere {id : NodeId} (untouched : ¬ (id = stage.home ∨ id = stage.document'))
      (other : id ≠ stage.forest.size) :
      ¬ (id = stage.home ∨ id = stage.forest.size ∨ id = stage.document') := by
    rw [not_or] at untouched
    simp [untouched, other]
  refine { wide with content := fun id inside untouched => ?_, children := fun id inside untouched => ?_ }
  · by_cases here : id = stage.forest.size
    · rw [here, houses.content, content_fragment twins, opened_content]
    · exact wide.content id inside (elsewhere untouched here)
  · by_cases here : id = stage.forest.size
    · rw [here, houses.emptied (isFragment_fragment twins), opened_children,
        children_eq_nil (Nat.le_refl _)]
    · exact wide.children id inside (elsewhere untouched here)

/-- What was put in the fragment comes to the target. -/
theorem twins_emptied (inserts : target.Inserts (after.children stage.forest.size)
    (stage.forest.children stage.home) list) : (stage.emptied target).Twins before after' where
  frames := twins.frames
  frames' := frames_emptied twins houses
  size := houses.size.trans twins.size
  content id new := by
    rw [houses.content]
    exact twins.content id new
  children id new := by
    have above : stage.forest.size < id + 1 := Nat.lt_succ_of_le new
    show after'.children (id + 1) = _
    rw [houses.children_of_ne (Nat.ne_of_gt (Nat.lt_trans stage.isHost.lt_size above))
      fun _ => Nat.ne_of_gt above]
    exact twins.children id new
  tops := by
    obtain ⟨tops, areNew, row, row'⟩ := twins.tops
    refine ⟨tops, areNew, row, ?_⟩
    have held : after.children stage.forest.size = tops.map (· + 1) := by
      have nothing := stage.opened_children stage.forest.size
      rw [children_eq_nil (Nat.le_refl _)] at nothing
      rw [Target.inserts_append rfl, holding_second] at row'
      exact row'.trans (congrArg (· ++ tops.map (· + 1)) nothing)
    show target.Inserts (tops.map (· + 1)) (stage.opened.children stage.home)
      (after'.children stage.home)
    rw [opened_children, houses.alters.row, ← held]
    exact inserts
  documents := twins.documents_later twins.frames.intact.agrees houses.intact.agrees rfl
    (houses.content _) rfl
    (houses.children_of_ne stage.document_ne_home fun _ => Nat.ne_of_lt
      (lt_size_of_isA stage.isDocument'))

end Holding

end Stage

/-! ## Sequences -/

/-- A sequence beside a node is opened in a new fragment. -/
theorem opens_beside (scene : Scene) (place : Place) {home : NodeId} {world : World}
    (beside : place.target.isUnder = false) (isHome : place.target.home? world.forest = some home)
    (isDocument : world.forest.isA Content.isDocument scene.document) :
    Ensures (openSequence scene place) world
      (fun inside after =>
        after = { world with
          forest := world.forest.add { content := .fragment, owner := some scene.document } } ∧
        inside = { place with
          target := .under world.forest.size, pseudo := some (place.near home) })
      fun _ _ => False := by
  have found : Ensures (implicitParent place.target) world
      (fun parent after => parent = home ∧ after = world) fun _ _ => False := by
    rw [Ensures, implicitParent_eq isHome]
    exact ⟨rfl, rfl⟩
  rw [openSequence, MarkupSpec.ensures_bind]
  refine found.mono (fun parent after ends => ?_) fun _ _ failed => failed
  obtain ⟨rfl, rfl⟩ := ends
  rw [MarkupSpec.ensures_bind, holderFor, beside, if_neg Bool.false_ne_true, ensures_edit,
    ensures_create]
  exact ⟨fun _ => ⟨rfl, rfl⟩, fun other => by rw [isDocument] at other; cases other⟩

namespace Stage

variable {stage : Stage} {target : Target} {settings : Settings} {arguments : List Value}
  {place : Place} {world world' : World} {value : Value}

/-- A place where a build under the home begins. -/
structure Begins (stage : Stage) (place : Place) : Prop where
  target : place.target = .under stage.home
  pseudo : place.pseudo = none
  anchor : place.anchor = none

theorem Begins.deeper (begins : stage.Begins place) (segment : String) :
    stage.Begins (place.deeper segment) :=
  ⟨begins.target, begins.pseudo, begins.anchor⟩

/-- Both builds have made the same nodes and put them in the row of the home, and maybe the
second one has made a fragment too. -/
def Mirrors (stage : Stage) (target : Target) (last : Option NodeId) (later : World)
    (last' : Option NodeId) (later' : World) : Prop :=
  ∃ pairing ∈ [stage.beside target, stage.emptied target],
    last' = last.map (· + pairing.shift) ∧ pairing.Twins later.forest later'.forest

section Begins

variable (begins : stage.Begins place) (isHome : target.home? stage.forest = some stage.home)

include begins isHome

/-- Both builds begin at places that are alike. -/
theorem Begins.like :
    place.Like { place with target } stage.home stage.home stage.forest stage.forest where
  path := rfl
  depth := rfl
  isHome := by rw [begins.target]; rfl
  isHome' := isHome
  isHost := stage.isHost
  isHost' := stage.isHost
  inside := by simp [Place.sources, Place.near, begins.pseudo, begins.anchor, stage.isHost.lt_size]
  inside' := by simp [Place.sources, Place.near, begins.pseudo, begins.anchor, stage.isHost.lt_size]
  outermost _ := by simp [Place.far, Place.near, begins.pseudo, begins.anchor]
  outermost' _ := by simp [Place.far, Place.near, begins.pseudo, begins.anchor]
  sees _ := rfl
  reaches _ := rfl

end Begins

/-- In a new fragment nothing is in scope. -/
theorem scope_opened (stage : Stage) : stage.opened.scope stage.forest.size = [] := by
  have inside : stage.forest.size < stage.opened.size := stage.holding.isHost'.lt_size
  have top : stage.opened.parent? stage.forest.size = none := by
    simp [opened, parent?]
  rw [(Chain.top inside top).scope_eq, List.flatMap_singleton, statedAt, stage.opened_content]

/-- The members of a sequence come under the home in one build and under the fragment in
the other one.  Namespaces come from the home in both. -/
theorem Begins.alongside (begins : stage.Begins place) :
    stage.holding.Alongside { place with pseudo := some stage.home }
      { place with target := .under stage.forest.size, pseudo := some stage.home } stage.forest
      stage.opened where
  isUnder := by rw [begins.target]; rfl
  isUnder' := rfl
  bears :=
    { isHost := by rw [begins.target]; exact stage.isHost
      goes := .inl ⟨rfl, by rw [begins.target]; rfl, rfl⟩ }
  like := by
    have grows : Grows Nobody stage.forest stage.opened := grows_add rfl
    have early := stage.isHost.lt_size
    have sees := stage.intact.scope_of_grows grows early
    have early' := Nat.lt_of_lt_of_le early grows.size
    rw [begins.target]
    refine
      { path := rfl, depth := rfl
        isHome := rfl
        isHome' := rfl
        isHost := stage.isHost
        isHost' := stage.holding.isHost'
        inside := by simp [Place.sources, Place.near, begins.anchor, early]
        inside' := by simp [Place.sources, Place.near, begins.anchor, early']
        outermost := fun beside => by cases beside
        outermost' := fun beside => by cases beside
        sees := fun key => by simp [Place.sources, Place.near, begins.anchor, scopes, sees]
        reaches := fun key => ?_ }
    -- The scope of the fragment adds nothing, and that of the home nothing behind itself.
    simp [Place.far, Place.near, begins.anchor, scopes, sees, Target.under, stage.scope_opened,
      List.lookup_append]

/-- Two worlds in which the builds begin. -/
structure Starts (stage : Stage) (world world' : World) : Prop where
  values : world.Abreast stage.known world'
  forest : world.forest = stage.forest
  forest' : world'.forest = stage.forest

theorem Starts.beside (starts : stage.Starts world world') (target : Target) :
    (stage.beside target).Abreast world world' where
  values := starts.values
  twins := by
    rw [starts.forest, starts.forest']
    exact (stage.beside target).twins_start

/-- The builds go on abreast when the second one has opened a sequence. -/
theorem Starts.holding (starts : stage.Starts world world') :
    stage.holding.Abreast world { world' with forest := stage.opened } := by
  have twins : stage.holding.Twins world.forest stage.opened := by
    rw [starts.forest]
    exact stage.holding.twins_start
  exact ⟨{ starts.values with describe := twins.describe }, twins⟩

/-! ## Steps of the two builds -/

section Steps

variable (beside : target.isUnder = false)
  (there : stage.forest.parent? target.reference = some stage.home)

include beside there

/-- What is in the fragment comes to its place.  In the other build it is there. -/
theorem houses_fragment (twins : stage.holding.Twins world.forest world'.forest) :
    Ensures (attach target stage.forest.size) world'
      (fun _ later => (stage.emptied target).Twins world.forest later.forest)
      fun _ _ => False := by
  have intact := twins.frames'.intact
  have isFragment := isFragment_fragment twins
  have row := children_home twins
  have isHome : target.home? world'.forest = some stage.home := by
    rw [Target.home?, beside]
    refine intact.agrees.parent stage.home _ ?_
    rw [row]
    exact stage.intact.agrees.child _ _ there
  have loose : world'.forest.IsLoose stage.forest.size := by
    refine ⟨?_, .inr isFragment⟩
    cases above : world'.forest.parent? stage.forest.size with
    | none => rfl
    | some host =>
        have noFragment := (intact.agrees.fits _ host above).isFragment
        rw [isFragment] at noFragment
        cases noFragment
  refine (houses_attach intact isHome (isHost_home twins) loose (lt_size_of_parent? there)
    stage.isHost.lt_size).mono (fun _ later ends => ?_) fun _ _ failed => failed
  obtain ⟨-, list, gone, inserts, houses⟩ := ends
  rw [(bundle_of_isFragment isFragment).1, row] at inserts
  exact twins_emptied twins houses inserts

/-- The members of a sequence come under the home in one build, and under a new fragment in
the other one. -/
theorem concurs_openSequence (starts : stage.Starts world world') (begins : stage.Begins place) :
    Concurs (openSequence (stage.scene settings arguments) place)
      (openSequence (stage.scene' settings arguments) { place with target }) world world'
      fun inside later inside' later' =>
        later = world ∧ later' = { world' with forest := stage.opened } ∧
        inside = { place with pseudo := some stage.home } ∧
        inside' = { place with
          target := .under stage.forest.size, pseudo := some stage.home } := by
  have isHome : target.home? world'.forest = some stage.home := by
    rw [starts.forest', Target.home?, beside]
    exact there
  have isDocument : world'.forest.isA Content.isDocument stage.document' := by
    rw [starts.forest']
    exact stage.isDocument'
  have near : place.near place.target.reference = stage.home := by
    rw [Place.near, begins.pseudo, begins.target]
    rfl
  have near' : Place.near { place with target } stage.home = stage.home := by
    rw [Place.near, begins.pseudo]
    rfl
  refine (Concurs.of_ensures
    (Pairing.opens_under (by rw [begins.target]; rfl) world)
    (opens_beside (stage.scene' settings arguments) { place with target } beside isHome
      isDocument)).mono fun inside later inside' later' _ _ ends => ?_
  obtain ⟨⟨isLater, isInside⟩, isLater', isInside'⟩ := ends
  rw [near] at isInside
  rw [near', starts.forest'] at isInside'
  rw [starts.forest'] at isLater'
  exact ⟨isLater, isLater', isInside, isInside'⟩

/-- When all members are built, what is in the fragment comes to its place, if there is
anything. -/
theorem concurs_closeSequence {last last' : Option NodeId} (starts : stage.Starts world world')
    {final final' : World}
    (follow : stage.holding.Follow world { world' with forest := stage.opened } last final last'
      final') :
    Concurs (closeSequence (.under stage.home) stage.home last >>= fun _ => pure last)
      (closeSequence target stage.forest.size last' >>= fun _ => pure last') final final'
      (stage.Mirrors target) := by
  obtain ⟨abreast, goes, unchanged⟩ := follow
  subst goes
  cases last with
  | none =>
      obtain ⟨isFinal, isFinal'⟩ := unchanged rfl
      refine concurs_pure ⟨stage.emptied target, by simp, rfl, ?_⟩
      rw [isFinal, isFinal', starts.forest]
      exact (stage.emptied target).twins_start
  | some node =>
      have closes : closeSequence target stage.forest.size (some (node + 1)) =
          attach target stage.forest.size := by
        rw [closeSequence, beside]
        rfl
      have nothing : Ensures (closeSequence (.under stage.home) stage.home (some node)) final
          (fun _ later => later = final) fun _ _ => False := rfl
      refine (Concurs.of_ensures nothing (closes ▸ houses_fragment beside there abreast.twins)).bind
        fun _ later _ later' _ _ ends => ?_
      obtain ⟨rfl, twins⟩ := ends
      exact concurs_pure ⟨stage.emptied target, by simp, rfl, twins⟩

theorem concurs_buildSequence {below below' : Builder} {items : List Value}
    (inStep : stage.holding.InStep below below') (starts : stage.Starts world world')
    (begins : stage.Begins place) (blind : AreBlind stage.known items) :
    Concurs (buildSequence (stage.scene settings arguments) below place items)
      (buildSequence (stage.scene' settings arguments) below' { place with target } items)
      world world' (stage.Mirrors target) := by
  unfold buildSequence
  refine (concurs_openSequence beside there starts begins).bind
    fun inside later inside' later' _ _ ends => ?_
  obtain ⟨rfl, rfl, rfl, rfl⟩ := ends
  have alongside : stage.holding.Alongside { place with pseudo := some stage.home }
      { place with target := .under stage.forest.size, pseudo := some stage.home } later.forest
      stage.opened := by
    rw [starts.forest]
    exact begins.alongside
  refine (Pairing.concurs_buildMembers inStep blind starts.holding alongside rfl).bind
    fun last final last' final' _ _ ends => ?_
  rw [begins.target]
  exact concurs_closeSequence beside there starts ends.1

omit beside there in
/-- If the second build needs no fragment, both go on in the same forest. -/
theorem mirrors_beside {last last' : Option NodeId} {later later' : World}
    (twins : (stage.beside target).Twins later.forest later'.forest)
    (goes : last' = last.map (· + 0)) : stage.Mirrors target last later last' later' :=
  ⟨stage.beside target, List.mem_cons_self, goes, twins⟩

variable (given : AreBlind stage.known arguments)

include given

/-- Two builds of a part mirror each other if those of what a function returns do. -/
theorem concurs_buildSpec {below below' : Builder} {spec : Spec}
    (inStep : ∀ pairing : Pairing, pairing.toStage = stage → pairing.InStep below below')
    (mirrors : ∀ {value : Value} {place : Place} {world world' : World},
      value.isBlind stage.known → stage.Starts world world' → stage.Begins place →
      Concurs (below value place) (below' value { place with target }) world world'
        (stage.Mirrors target))
    (starts : stage.Starts world world') (begins : stage.Begins place)
    (blind : spec.IsBlind stage.known) :
    Concurs (buildSpec (stage.scene settings arguments) below place spec)
      (buildSpec (stage.scene' settings arguments) below' { place with target } spec) world world'
      (stage.Mirrors target) := by
  have isHome : target.home? stage.forest = some stage.home := by
    rw [Target.home?, beside]
    exact there
  have abreast := starts.beside target
  have like : place.Like { place with target } stage.home stage.home world.forest world'.forest := by
    rw [starts.forest, starts.forest']
    exact begins.like isHome
  have admits : (stage.beside target).Admits place.target target world.forest world'.forest := by
    rw [begins.target, starts.forest, starts.forest']
    exact (stage.beside target).admits_home isHome
  have leaf : Concurs (buildLeaf (stage.scene settings arguments) place spec)
      (buildLeaf (stage.scene' settings arguments) { place with target } spec) world world'
      (stage.Mirrors target) := by
    refine (Pairing.concurs_buildLeaf given abreast like.path admits blind).mono
      fun _ _ _ _ _ _ ends => ?_
    obtain ⟨abreast', node, rfl, rfl⟩ := ends
    exact mirrors_beside abreast'.twins rfl
  cases spec with
  | sequence items =>
      exact concurs_buildSequence beside there (inStep stage.holding rfl) starts begins
        (Spec.isBlind_sequence.mp blind)
  | callable function =>
      refine abreast.bind (Function.blindly_call (Spec.isBlind_callable.mp blind) given)
        fun value later later' blind abreast' same same' => ?_
      exact mirrors blind
        ⟨abreast'.values, same.trans starts.forest, same'.trans starts.forest'⟩ (begins.deeper "()")
  | element name attributes children =>
      obtain ⟨isName, areAttributes, areChildren⟩ := Spec.isBlind_element.mp blind
      exact (Pairing.concurs_buildElement given (inStep (stage.beside target) rfl) abreast like
        admits blind isName areAttributes areChildren).mono fun _ _ _ _ _ _ follow =>
          mirrors_beside follow.abreast.twins follow.goes
  | doctype children attributes =>
      obtain ⟨areChildren, areAttributes⟩ := Spec.isBlind_doctype.mp blind
      exact (Pairing.concurs_buildDoctype given abreast areChildren areAttributes).bind
        fun node later node' later' _ _ ends => concurs_pure
          (mirrors_beside ends.1.twins (congrArg some ends.2))
  | _ => exact leaf

/-- A build under the home and one beside a child of it mirror each other. -/
theorem concurs_buildWithin (settings : Settings) (budget : Nat) :
    ∀ {value : Value} {place : Place} {world world' : World},
      value.isBlind stage.known → stage.Starts world world' → stage.Begins place →
      Concurs (buildWithin (stage.scene settings arguments) budget value place)
        (buildWithin (stage.scene' settings arguments) budget value { place with target })
        world world' (stage.Mirrors target) := by
  induction budget with
  | zero => exact fun _ _ _ => concurs_throw rfl
  | succ budget ih =>
      intro value place world world' blind starts begins
      have inStep (pairing : Pairing) (same : pairing.toStage = stage) :
          pairing.InStep (buildWithin (stage.scene settings arguments) budget)
            (buildWithin (stage.scene' settings arguments) budget) := by
        subst same
        exact Pairing.inStep_buildWithin given settings budget
      unfold buildWithin
      refine (starts.beside target).bind (blindly_readPart blind rfl rfl)
        fun part later later' areBlind abreast same same' => ?_
      cases part with
      | none => exact concurs_pure (mirrors_beside abreast.twins rfl)
      | some spec =>
          exact concurs_buildSpec beside there given inStep ih
            ⟨abreast.values, same.trans starts.forest, same'.trans starts.forest'⟩ begins
            (areBlind spec rfl)

end Steps

end Stage

end MarkupSpec
