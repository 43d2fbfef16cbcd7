import MarkupSpec.Proofs.Build.Visits
import MarkupSpec.Proofs.Forest.ParentChains
import MarkupSpec.Proofs.Forest.PlacedParent
import MarkupSpec.Proofs.Namespace.QualifierMeaning

/-!
# Namespaces are lexical

An element that a build makes of an element map is in the namespace that the
element maps around it declare for its qualifier, the innermost first, or else in
the one that is in scope where the build puts its nodes.  So are its attributes.
-/

namespace MarkupSpec

open Forest Edit Build

/-! ## Resolving -/

/-- What is in scope at several nodes, each behind the one before it. -/
def Forest.scopes (forest : Forest) (nodes : List NodeId) : List (String × String) :=
  nodes.flatMap forest.scope

theorem ensures_scopeAt {world : World} : ∀ nodes : List NodeId,
    Ensures (scopeAt nodes) world
      (fun scope after => after.forest = world.forest ∧ scope = world.forest.scopes nodes)
      fun _ _ => True
  | [] => ⟨rfl, rfl⟩
  | node :: behind => by
      have looks : Ensures (edit (discard (Edit.look node))) world (fun _ after => after = world)
          fun _ _ => True := by
        rw [ensures_edit, ensures_discard, ensures_look]
        exact ⟨fun _ _ => rfl, fun _ => trivial⟩
      rw [scopeAt, MarkupSpec.ensures_bind]
      refine looks.mono (fun _ after same => ?_) fun _ _ _ => trivial
      subst same
      show Ensures (scopeAt behind >>= fun far => pure (after.forest.scope node ++ far)) after _ _
      rw [MarkupSpec.ensures_bind]
      refine (ensures_scopeAt behind).mono (fun far final ends => ?_) fun _ _ _ => trivial
      exact ⟨ends.1, by rw [ends.2]; rfl⟩

/-- A resolution is found in the scope of the nodes it is given. -/
theorem ensures_resolve (name : String) (attributes : RawAttributes) (nodes : List NodeId)
    (arguments : List Value) (context : Option ErrorContext) (level : ErrorLevel) (world : World) :
    Ensures (resolve name attributes nodes arguments context level) world
      (fun resolution _ => resolution.FoundIn (world.forest.scopes nodes)) fun _ _ => True := by
  rw [resolve]
  refine (readsOnly_flattenAttributes arguments attributes).ensures_bind
    (fun flat after _ same => ?_) fun _ _ _ => trivial
  have judges (scope : List (String × String))
      (agree : ∀ qualifier ∈ openQualifiers name (sortAttributes flat),
        scope.lookup (declarationKey qualifier) =
          (world.forest.scopes nodes).lookup (declarationKey qualifier)) (final : World) :
      Ensures (resolutionOr name context level (resolveIn scope name (sortAttributes flat))) final
        (fun resolution _ => resolution.FoundIn (world.forest.scopes nodes))
        fun _ _ => True := by
    unfold resolutionOr
    split
    · rename_i resolution found
      exact foundIn_resolveIn found agree
    · trivial
  rw [resolveFlat]
  dsimp only
  split
  · rename_i nothing
    refine judges [] (fun qualifier among => ?_) after
    rw [List.isEmpty_iff.mp nothing] at among
    cases among
  · rw [MarkupSpec.ensures_bind]
    refine (ensures_scopeAt nodes).mono (fun scope final ends => ?_) fun _ _ _ => trivial
    rw [ends.2, same]
    exact judges _ (fun _ _ => rfl) final

/-- The node that the namespaces of a place with a home come from. -/
def Place.near (place : Place) (home : NodeId) : NodeId := place.pseudo.getD home

/-- The node whose scope stands behind that of the nodes inside of a place. -/
def Place.far (place : Place) (home : NodeId) : NodeId := place.anchor.getD (place.near home)

/-- The nodes that the namespaces of a place come from, below a home. -/
def Place.sources (place : Place) (home : NodeId) : List NodeId :=
  place.near home :: place.anchor.toList

theorem ensures_nearest {place : Place} {world : World} {home : NodeId}
    (isHome : place.target.home? world.forest = some home) :
    Ensures place.nearest world (fun near _ => near = place.near home) fun _ _ => True := by
  unfold Place.nearest Place.near
  cases place.pseudo with
  | some pseudo => exact rfl
  | none =>
      refine ensures_implicitParent (fun other there => ?_) fun _ => trivial
      rw [isHome] at there
      cases there
      rfl

theorem ensures_resolveElement (scene : Scene) {place : Place} (spec : Spec) (name : Value)
    (attributes : RawAttributes) {world : World} {home : NodeId}
    (isHome : place.target.home? world.forest = some home) :
    Ensures (resolveElement scene place spec name attributes) world
      (fun found _ => found.1 = place.near home ∧
        found.2.FoundIn (world.forest.scopes (place.sources home)))
      fun _ _ => True := by
  rw [resolveElement]
  refine (readsOnly_specContext _ _ _).ensures_bind (fun context after _ same => ?_)
    fun _ _ _ => trivial
  refine (readsOnly_flatten _ _).ensures_bind (fun text after' _ same' => ?_) fun _ _ _ => trivial
  have here := same'.trans same
  cases text with
  | none => trivial
  | some text =>
      refine (readsOnly_nearest place).ensures_bind (fun near final run last => ?_)
        fun _ _ _ => trivial
      obtain rfl := (ensures_nearest (here ▸ isHome)).of_ok run
      rw [MarkupSpec.ensures_bind]
      refine (ensures_resolve text attributes _ scene.arguments _ _ final).mono
        (fun resolution _ found => ⟨rfl, ?_⟩) fun _ _ _ => trivial
      rw [last.trans here] at found
      exact found

/-- A node without a place that is attached lands at the home of the target. -/
theorem lands_attach {target : Target} {node home : NodeId} {world : World}
    (isHome : target.home? world.forest = some home) (inside : node < world.forest.size)
    (noFragment : world.forest.isA Content.isFragment node = false)
    (detached : world.forest.parent? node = none) (differ : target.reference ≠ node) :
    Ensures (attach target node) world
      (fun _ after => after.forest.parent? node = some home ∨
        after.forest.parent? node = none ∧ world.forest.isA Content.isDocument home)
      fun _ _ => True := by
  refine ensures_attach (fun _ after _ same => ?_) fun _ _ _ => trivial
  rw [ensures_edit, same]
  exact lands_place isHome inside noFragment detached differ

/-- What is known of an element with a tag that was made at a place with a home. -/
structure Place.Makes (place : Place) (home : NodeId) (before : Forest) (made : Made) (tag : Tag)
    (after : Forest) : Prop where
  element : made.element = before.size
  found : made.resolution.FoundIn (before.scopes (place.sources home))
  inside : made.inside = place.within (place.near home) made.element made.resolution
  isTag : made.resolution.tag = (.ok (), tag)
  content : after.content? made.element = some (.element tag)
  lands : after.parent? made.element = some home ∨
    after.parent? made.element = none ∧ before.isA Content.isDocument home

theorem ensures_makeElement (scene : Scene) {place : Place} (spec : Spec) (name : Value)
    (attributes : RawAttributes) {world : World} {home : NodeId}
    (isHome : place.target.home? world.forest = some home)
    (inside : place.target.reference < world.forest.size) :
    Ensures (makeElement scene place spec name attributes) world
      (fun made after => ∃ tag, place.Makes home world.forest made tag after.forest)
      fun _ _ => True := by
  refine (readsOnly_resolveElement scene place spec name attributes).ensures_bind
    (fun found after run same => ?_) fun _ _ _ => trivial
  obtain ⟨near, resolution⟩ := found
  obtain ⟨isNear, foundIn⟩ :=
    (ensures_resolveElement scene spec name attributes isHome).of_ok run
  dsimp only at isNear foundIn
  rw [MarkupSpec.ensures_bind, ensures_edit, same, ensures_createResolved]
  refine ⟨fun _ => ?_, fun _ => trivial⟩
  split
  · rename_i tag isTag
    rw [MarkupSpec.ensures_bind]
    -- The element keeps its tag when it gets its place, and lands at the home.
    let grown := world.forest.add { content := .element tag, owner := some scene.document }
    let next : World := { after with forest := grown }
    have tagged : grown.content? world.forest.size = some (.element tag) := by
      simp [grown, content?]
    have isHome' : place.target.home? grown = some home := by
      rw [← isHome]
      simp only [Target.home?, parent?, grown, node?_add, if_neg (Nat.ne_of_lt inside)]
    have lands : Ensures (attach place.target world.forest.size) next
        (fun _ final => final.forest.parent? world.forest.size = some home ∨
          final.forest.parent? world.forest.size = none ∧ grown.isA Content.isDocument home)
        fun _ _ => True :=
      lands_attach isHome' (by simp [next, grown]) (by simp [next, isA, tagged, Content.isFragment])
        (by simp [next, grown, parent?]) (Nat.ne_of_lt inside)
    refine ((lasts_attach place.target _ next).and lands).mono (fun _ final ends => ?_)
      fun _ _ _ => trivial
    obtain ⟨⟨-, lasts⟩, lands⟩ := ends
    rw [show grown.isA Content.isDocument home = world.forest.isA Content.isDocument home from
      (grows_add rfl).isDocument home] at lands
    exact ⟨tag,
      { element := rfl
        found := foundIn
        inside := by rw [isNear]
        isTag
        content := lasts.element tagged
        lands }⟩
  · trivial

/-! ## Places -/

/-- What qualifiers mean inside of element maps with these declarations. -/
def lexical (enclosing : Enclosing) (outer : Meaning) : Meaning :=
  enclosing.foldr declaredOver outer

/-- A place where the scope gives the qualifiers their lexical meaning, both to the
element that is made there and, behind what that says, to those inside of it. -/
structure Place.Sited (outer : Meaning) (place : Place) (forest : Forest) (enclosing : Enclosing)
    (home : NodeId) : Prop where
  isHome : place.target.home? forest = some home
  reference : place.target.reference < forest.size
  onTop : forest.DocumentsOnTop
  settledHome : forest.Settled home
  settledNear : forest.Settled (place.near home)
  settledFar : forest.Settled (place.far home)
  scope : Means (forest.scopes (place.sources home)) (lexical enclosing outer)
  behind : Means (forest.scopes [home, place.far home]) (lexical enclosing outer)
  first : place.target.isUnder = false ∨ forest.isA Content.isDocument home →
    place.near home = home ∧ place.anchor = none
  free : ∀ qualifier, qualifier ≠ xmlQualifier →
    lexical enclosing outer qualifier ≠ some declarationNamespace

namespace Place.Sited

variable {outer : Meaning} {place : Place} {forest after : Forest} {enclosing : Enclosing}
  {home : NodeId}

/-- What is in scope at the nodes of a place lasts while something is built there.
If the target spares nodes, these are all the home, and that is not spared. -/
theorem lasts (sited : place.Sited outer forest enclosing home)
    (grows : Grows (place.target.Spares forest) forest after) {node : NodeId}
    (settled : forest.Settled node)
    (same : place.target.isUnder = false ∨ forest.isA Content.isDocument home → node = home) :
    after.Settled node ∧ after.scope node = forest.scope node := by
  obtain ⟨path, chain⟩ := settled
  refine grows.scope sited.onTop chain fun member among spares => ?_
  have isHome := sited.isHome
  rcases spares with ⟨isReplacing, rfl⟩ | ⟨isUnder, isDocument⟩
  · have beside : place.target.isUnder = false := by simp [Target.isUnder, isReplacing]
    obtain rfl := same (.inl beside)
    simp only [Target.home?, beside] at isHome
    exact absurd among (chain.not_mem_above isHome)
  · simp only [Target.home?, isUnder, if_true, Option.some.injEq] at isHome
    subst isHome
    obtain rfl := same (.inr isDocument)
    have top := sited.onTop _ isDocument
    cases chain with
    | up there =>
        rw [top] at there
        cases there
    | top =>
        rw [List.mem_singleton.mp among]
        exact top

theorem near_eq (sited : place.Sited outer forest enclosing home)
    (special : place.target.isUnder = false ∨ forest.isA Content.isDocument home) :
    place.near home = home :=
  (sited.first special).1

theorem far_eq (sited : place.Sited outer forest enclosing home)
    (special : place.target.isUnder = false ∨ forest.isA Content.isDocument home) :
    place.far home = home := by
  rw [Place.far, (sited.first special).1, (sited.first special).2]
  rfl

/-- What is in scope at the sources of a place lasts. -/
theorem scopes_sources (sited : place.Sited outer forest enclosing home)
    (grows : Grows (place.target.Spares forest) forest after) :
    after.scopes (place.sources home) = forest.scopes (place.sources home) := by
  have near := (sited.lasts grows sited.settledNear sited.near_eq).2
  have far := (sited.lasts grows sited.settledFar sited.far_eq).2
  unfold Place.far at far
  cases isAnchor : place.anchor with
  | none => simp [Forest.scopes, Place.sources, isAnchor, near]
  | some node =>
      rw [isAnchor, Option.getD_some] at far
      simp [Forest.scopes, Place.sources, isAnchor, near, far]

/-- What is in scope at the home and behind it lasts. -/
theorem scopes_behind (sited : place.Sited outer forest enclosing home)
    (grows : Grows (place.target.Spares forest) forest after) :
    after.scopes [home, place.far home] = forest.scopes [home, place.far home] := by
  have near := (sited.lasts grows sited.settledHome fun _ => rfl).2
  have far := (sited.lasts grows sited.settledFar sited.far_eq).2
  simp [Forest.scopes, near, far]

/-- A place stays sited when something was built there. -/
theorem later (sited : place.Sited outer forest enclosing home)
    (grows : Grows (place.target.Spares forest) forest after) (isUnder : place.target.isUnder) :
    place.Sited outer after enclosing home where
  isHome := by
    rw [← sited.isHome]
    simp [Target.home?, isUnder]
  reference := Nat.lt_of_lt_of_le sited.reference grows.size
  onTop := grows.onTop sited.onTop
  settledHome := (sited.lasts grows sited.settledHome fun _ => rfl).1
  settledNear := (sited.lasts grows sited.settledNear sited.near_eq).1
  settledFar := (sited.lasts grows sited.settledFar sited.far_eq).1
  scope := by
    rw [sited.scopes_sources grows]
    exact sited.scope
  behind := by
    rw [sited.scopes_behind grows]
    exact sited.behind
  first special := by
    rw [grows.isDocument] at special
    exact sited.first special
  free := sited.free

/-- The members of a sequence have the site of the sequence, in the fragment that is
made for them too. -/
theorem opens (scene : Scene) {world : World}
    (sited : place.Sited outer world.forest enclosing home) :
    Ensures (openSequence scene place) world
      (fun inside after => ∃ home, inside.Sited outer after.forest enclosing home)
      fun _ _ => True := by
  rw [openSequence, MarkupSpec.ensures_bind]
  refine ensures_implicitParent (fun other there => ?_) fun _ => trivial
  rw [sited.isHome] at there
  cases there
  rw [MarkupSpec.ensures_bind, holderFor]
  split
  · rename_i isUnder
    have same : place.target.reference = home := by
      have isHome := sited.isHome
      simpa [Target.home?, isUnder] using isHome
    refine ⟨home, { sited with isHome := ?_, first := fun special => ?_ }⟩
    · exact congrArg some same
    · rcases special with impossible | isDocument
      · cases impossible
      · exact sited.first (.inr isDocument)
  · rename_i beside
    have special : place.target.isUnder = false := by simpa using beside
    have grows : Grows (place.target.Spares world.forest) world.forest
        (world.forest.add { content := .fragment, owner := some scene.document }) :=
      (grows_add rfl).mono fun _ => False.elim
    have near := sited.lasts grows sited.settledNear sited.near_eq
    have empty : Forest.scope (world.forest.add
        { content := .fragment, owner := some scene.document }) world.forest.size = [] := by
      rw [scope_of_top (by simp) (by simp [parent?])]
      simp [statedAt, content?]
    -- Beside a node there is no anchor, and the fragment says nothing.
    have anchor := (sited.first (.inl special)).2
    have behind : Forest.scopes (world.forest.add
        { content := .fragment, owner := some scene.document })
        [world.forest.size, place.far home] = world.forest.scopes (place.sources home) := by
      simp [Forest.scopes, Place.sources, Place.far, anchor, empty, near.2]
    rw [ensures_edit, ensures_create]
    refine ⟨fun _ => ⟨world.forest.size, ?_⟩, fun _ => trivial⟩
    exact
      { isHome := rfl
        reference := by simp [Target.under]
        onTop := grows.onTop sited.onTop
        settledHome := ⟨_, .top (by simp) (by simp [parent?])⟩
        settledNear := near.1
        settledFar := (sited.lasts grows sited.settledFar sited.far_eq).1
        scope := (sited.scopes_sources grows).symm ▸ sited.scope
        behind := behind.symm ▸ sited.scope
        first := fun special => by
          rcases special with impossible | isDocument
          · cases impossible
          · simp [isA, content?, Content.isDocument] at isDocument
        free := sited.free }

/-- The declarations of a plain element give no qualifier the namespace of
declarations. -/
theorem free_inside {resolution : Resolution} (sited : place.Sited outer forest enclosing home)
    (plain : resolution.Plain) {qualifier : Option String} (noXml : qualifier ≠ xmlQualifier) :
    lexical (resolution.declarations :: enclosing) outer qualifier ≠ some declarationNamespace := by
  show declaredOver resolution.declarations (lexical enclosing outer) qualifier ≠ _
  unfold declaredOver
  intro same
  cases own : resolution.declarations.lookup qualifier with
  | none =>
      rw [own] at same
      exact sited.free qualifier noXml same
  | some uri =>
      rw [own, Option.some_or] at same
      exact (plain.declared (qualifier, uri) (mem_of_lookup own)).2 (Option.some.inj same)

/-- An element that is resolved at a sited place can be made, and its tag obeys the
lexical meaning. -/
theorem spells {resolution : Resolution} (sited : place.Sited outer forest enclosing home)
    (found : resolution.FoundIn (forest.scopes (place.sources home))) (plain : resolution.Plain) :
    ∃ tag, resolution.tag = (.ok (), tag) ∧ resolution.Spells tag ∧
      tag.Obeys (lexical (resolution.declarations :: enclosing) outer) := by
  have apart : resolution.Apart := by
    refine found.apart plain fun qualifier noXml said => ?_
    rw [sited.scope qualifier noXml] at said
    exact sited.free qualifier noXml said
  obtain ⟨tag, isTag, spells⟩ := Resolution.spells_tag plain found.sorted apart
  exact ⟨tag, isTag, spells, Resolution.obeys found sited.scope plain spells isTag⟩

/-- The place inside of an element that was made has the site of the element, and
the element obeys the lexical meaning. -/
theorem makes {made : Made} {tag : Tag}
    (sited : place.Sited outer forest enclosing home)
    (grows : Grows (place.target.Spares forest) forest after)
    (makes : place.Makes home forest made tag after) (plain : made.resolution.Plain) :
    tag.Obeys (lexical (made.resolution.declarations :: enclosing) outer) ∧
      made.inside.Sited outer after (made.resolution.declarations :: enclosing) made.element := by
  have found := makes.found
  obtain ⟨tag', isTag', spells, obeys⟩ := sited.spells found plain
  obtain rfl : tag' = tag := by
    have same := isTag'.symm.trans makes.isTag
    exact congrArg Prod.snd same
  refine ⟨obeys, ?_⟩
  have home' := sited.lasts grows sited.settledHome fun _ => rfl
  have far' := sited.lasts grows sited.settledFar sited.far_eq
  have said : after.statedAt made.element = tag'.stated := by simp [statedAt, makes.content]
  have inside : made.element < after.size := by
    rcases Nat.lt_or_ge made.element after.size with inside | beyond
    · exact inside
    · have nothing := makes.content
      rw [content?_eq_none beyond] at nothing
      cases nothing
  have element : after.Settled made.element ∧
      after.scope made.element = tag'.stated ++ forest.scope home := by
    rcases makes.lands with there | ⟨top, isDocument⟩
    · obtain ⟨path, chain⟩ := home'.1
      refine ⟨⟨_, .up there chain⟩, ?_⟩
      rw [scope_of_parent there home'.1, said, home'.2]
    · -- A document has nothing in scope, whether the element is under it or not.
      refine ⟨⟨_, .top inside top⟩, ?_⟩
      have nothing : forest.scope home = [] := by
        rw [scope_of_top (lt_size_of_isA isDocument) (sited.onTop _ isDocument),
          statedAt_of_isDocument isDocument]
      rw [scope_of_top inside top, said, nothing, List.append_nil]
  have means : Means (after.scopes [made.element, place.far home])
      (lexical (made.resolution.declarations :: enclosing) outer) := by
    intro qualifier noXml
    have whole : after.scopes [made.element, place.far home] =
        tag'.stated ++ forest.scopes [home, place.far home] := by
      simp [Forest.scopes, element.2, far'.2]
    rw [whole, List.lookup_append, sited.behind qualifier noXml]
    exact Resolution.lookup_stated found sited.scope plain spells makes.isTag noXml
  rw [makes.inside]
  exact
    { isHome := rfl
      reference := inside
      onTop := grows.onTop sited.onTop
      settledHome := element.1
      settledNear := element.1
      settledFar := far'.1
      scope := means
      behind := means
      first := fun special => by
        rcases special with impossible | isDocument
        · cases impossible
        · simp [isA, makes.content, Content.isDocument] at isDocument
      free := fun _ noXml => sited.free_inside plain noXml }

end Place.Sited

/-! ## The whole build -/

/-- What qualifiers mean where a build puts its nodes. -/
def Target.surrounding (target : Target) (forest : Forest) : Meaning := fun qualifier =>
  match target.home? forest with
  | some home => (forest.declarations home).lookup (declarationKey qualifier)
  | none => none

/-- A target is sited if its node exists, in a forest where chains end. -/
theorem sited_target {target : Target} {forest : Forest} {home : NodeId} (rooted : forest.Rooted)
    (inside : target.reference < forest.size) (isHome : target.home? forest = some home)
    (free : ∀ qualifier, qualifier ≠ xmlQualifier →
      target.surrounding forest qualifier ≠ some declarationNamespace) :
    Place.Sited (target.surrounding forest) { target } forest [] home := by
  have settled : forest.Settled home := by
    unfold Target.home? at isHome
    split at isHome
    · cases isHome
      exact rooted.settled _ inside
    · exact (rooted.settled _ inside).parent isHome
  have means (qualifier : Option String) :
      (forest.scope home).lookup (declarationKey qualifier) =
        target.surrounding forest qualifier := by
    simp only [Target.surrounding, isHome, lookup_declarations]
  exact
    { isHome
      reference := inside
      onTop := rooted.onTop
      settledHome := settled
      settledNear := settled
      settledFar := settled
      scope := fun qualifier _ => by
        show _ = target.surrounding forest qualifier
        simpa [Forest.scopes, Place.sources, Place.near] using means qualifier
      behind := fun qualifier _ => by
        have same := means qualifier
        simp only [Forest.scopes, Place.far, Place.near, Option.getD_none, List.flatMap_cons,
          List.flatMap_nil, List.append_nil, List.lookup_append, same, Option.or_self]
        rfl
      first := fun _ => ⟨rfl, rfl⟩
      free }

section Visits

variable {scene : Scene} {outer : Meaning} {visit : Visit} {made : Made} {after : World}

/-- An element that a visit makes obeys the lexical meaning, and so does the place
inside of it. -/
theorem Visit.obeys_of_made? {home : NodeId}
    (sited : visit.place.Sited outer visit.world.forest visit.enclosing home)
    (isMade : visit.made? scene = some (made, after)) (plain : made.resolution.Plain) :
    made.inside.Sited outer after.forest (made.resolution.declarations :: visit.enclosing)
        made.element ∧
      ∃ tag, after.forest.content? made.element = some (.element tag) ∧
        tag.name = made.resolution.name ∧
        tag.Obeys (lexical (made.resolution.declarations :: visit.enclosing) outer) := by
  obtain ⟨spec, name, attributes, world, same, run⟩ := Visit.makeElement_of_made? isMade
  rw [← same] at sited
  have grows := ((grows_makeElement scene visit.place spec name attributes world).of_ok run).1
  obtain ⟨tag, makes⟩ :=
    (ensures_makeElement scene spec name attributes sited.isHome sited.reference).of_ok run
  obtain ⟨obeys, inside⟩ := sited.makes grows makes plain
  have bare := made.resolution.bare_tag
  rw [makes.isTag] at bare
  exact ⟨inside, tag, makes.content, congrArg Tag.name bare, obeys⟩

/-- Every visit of a build is at a place that has its lexical meaning in scope. -/
theorem sited_of_visit {start : Visit} {home : NodeId} {budget : Nat}
    (sited : start.place.Sited outer start.world.forest start.enclosing home)
    (plain : ∀ visit ∈ visitsWithin scene budget start, ∀ made after,
      visit.made? scene = some (made, after) → made.resolution.Plain)
    (among : visit ∈ visitsWithin scene budget start) :
    ∃ home, visit.place.Sited outer visit.world.forest visit.enclosing home := by
  refine visits_induct (P := fun place world enclosing =>
      ∃ home, place.Sited outer world.forest enclosing home)
    (H := fun visit => ∀ made after, visit.made? scene = some (made, after) →
      made.resolution.Plain) ?_ ?_ ?_ ?_ ?_ budget start ⟨home, sited⟩ plain visit among
  · exact fun _ _ _ _ ⟨home, sited⟩ => ⟨home, { sited with }⟩
  · exact fun _ _ _ _ ⟨home, sited⟩ same => ⟨home, same.symm ▸ sited⟩
  · exact fun _ _ _ _ _ ⟨home, sited⟩ run => (sited.opens scene).of_ok run
  · exact fun budget value place segment world _ _ _ ⟨home, sited⟩ isUnder run =>
      ⟨home, sited.later ((grows_buildWithin scene budget value (place.deeper segment) world).of_ok
        run) isUnder⟩
  · exact fun visit made after ⟨home, sited⟩ plain isMade =>
      ⟨made.element, (visit.obeys_of_made? sited isMade (plain made after isMade)).1⟩

end Visits

end MarkupSpec
