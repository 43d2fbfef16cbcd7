import MarkupSpec.Proofs.Build.Growth
import MarkupSpec.Proofs.Position.PairedPlaces

/-!
# Two builds in step

Two builds of the same spec that are abreast, at places under nodes that go together, either
both end well, abreast again, or both fail with failures of one kind
(`Pairing.inStep_buildWithin`).  The last node of the one is the twin of the last node of
the other, and if there is none, nothing has changed.

There is one lemma for each kind of part: nodes without parts, doctypes, elements, and the
members of sequences.
-/

namespace MarkupSpec

open Forest Edit Build

/-- A notice changes nothing else. -/
theorem silent_noticeReplaced (document : NodeId) (root : Value) (world : World) :
    Ensures (noticeReplaced document root) world
      (fun _ after => after.forest = world.forest ∧ world.SameValues after) fun _ _ => False := by
  rw [noticeReplaced, MarkupSpec.ensures_bind, ensures_forest]
  split
  · exact ⟨rfl, rfl, rfl, rfl⟩
  · exact ⟨rfl, rfl, rfl, rfl⟩

/-- What the first of two builds is for. -/
def Stage.scene (stage : Stage) (settings : Settings) (arguments : List Value) : Scene :=
  { settings, document := stage.document, arguments }

/-- What the second of two builds is for. -/
def Stage.scene' (stage : Stage) (settings : Settings) (arguments : List Value) : Scene :=
  { settings, document := stage.document', arguments }

namespace Pairing

variable {pairing : Pairing} {settings : Settings} {arguments : List Value}
  {world world' : World} {spec : Spec} {path : List String}

theorem like_scene : (pairing.scene settings arguments).Like (pairing.scene' settings arguments) :=
  ⟨rfl, rfl⟩

section Steps

variable (given : AreBlind pairing.known arguments)

include given

/-! ## Nodes without parts -/

theorem concurs_buildInstruction {children : List Value} {attributes : RawAttributes}
    (abreast : pairing.Abreast world world') (blind : AreBlind pairing.known children)
    (areAttributes : ∀ entry ∈ attributes, entry.2.isBlind pairing.known) :
    Concurs (buildInstruction (pairing.scene settings arguments) spec path children attributes)
      (buildInstruction (pairing.scene' settings arguments) spec path children attributes) world world'
      fun node grown node' grown' => pairing.Abreast grown grown' ∧
        pairing.Doubles world.forest world'.forest node grown.forest node' grown'.forest := by
  have create {later later' : World} (abreast : pairing.Abreast later later') (target content : String) :
      Concurs (edit (create pairing.document (.instruction target content)))
        (edit (create pairing.document' (.instruction target content))) later later'
        fun node grown node' grown' => pairing.Abreast grown grown' ∧
          pairing.Doubles later.forest later'.forest node grown.forest node' grown'.forest :=
    abreast.edit (concurs_create abreast.twins (.inl rfl)) fun _ _ _ _ doubles => doubles.twins
  unfold buildInstruction
  refine abreast.bind (blindTo_leadingText like_scene given _ blind)
    fun target later later' _ abreast same same' => ?_
  rw [← same, ← same']
  dsimp only
  split
  · have sorted : ∀ entry ∈ Text.sortByText Prod.fst attributes, entry.2.isBlind pairing.known :=
      fun entry among => areAttributes entry (Text.mem_sortByText.mp among)
    refine abreast.bind (blindTo_pseudoAttributes like_scene given sorted)
      fun pairs later later' _ abreast same same' => ?_
    rw [← same, ← same']
    exact create abreast _ _
  · have rest : AreBlind pairing.known children.tail :=
      fun child among => blind child (List.mem_of_mem_tail among)
    refine abreast.bind (blindTo_childrenText like_scene given rest)
      fun content later later' _ abreast same same' => ?_
    rw [← same, ← same']
    exact create abreast _ _

theorem concurs_makeLeaf (abreast : pairing.Abreast world world')
    (blind : spec.IsBlind pairing.known) :
    Concurs (makeLeaf (pairing.scene settings arguments) path spec)
      (makeLeaf (pairing.scene' settings arguments) path spec) world world'
      fun node grown node' grown' => pairing.Abreast grown grown' ∧
        pairing.Doubles world.forest world'.forest node grown.forest node' grown'.forest := by
  have create {later later' : World} (abreast : pairing.Abreast later later') {content : Content}
      (isInner : content.isInner) :
      Concurs (edit (create pairing.document content)) (edit (create pairing.document' content))
        later later' fun node grown node' grown' => pairing.Abreast grown grown' ∧
          pairing.Doubles later.forest later'.forest node grown.forest node' grown'.forest :=
    abreast.edit (concurs_create abreast.twins (.inl isInner)) fun _ _ _ _ doubles => doubles.twins
  cases spec with
  | comment children =>
      refine abreast.bind (blindTo_childrenText like_scene given (Spec.isBlind_comment.mp blind))
        fun _ _ _ _ abreast same same' => ?_
      rw [← same, ← same']
      exact create abreast rfl
  | cdata children =>
      refine abreast.bind (blindTo_childrenText like_scene given (Spec.isBlind_cdata.mp blind))
        fun _ _ _ _ abreast same same' => ?_
      rw [← same, ← same']
      exact create abreast rfl
  | instruction children attributes =>
      obtain ⟨areChildren, areAttributes⟩ := Spec.isBlind_instruction.mp blind
      exact concurs_buildInstruction given abreast areChildren areAttributes
  | existing id =>
      exact abreast.edit (concurs_copy abreast.twins (Spec.isBlind_existing.mp blind))
        fun _ _ _ _ doubles => doubles.twins
  | text value =>
      show Concurs
        (edit (Edit.create pairing.document (.text (value.scalarText world.forest.describe))))
        (edit (Edit.create pairing.document' (.text (value.scalarText world'.forest.describe)))) world
        world' _
      rw [Value.scalarText_congr abreast.twins.describe value (Spec.isBlind_text.mp blind)]
      exact create abreast rfl
  | _ => exact concurs_throw rfl

/-- A node without parts is made in both builds and gets its place. -/
theorem concurs_buildLeaf {place place' : Place} (abreast : pairing.Abreast world world')
    (path : place'.path = place.path)
    (admits : pairing.Admits place.target place'.target world.forest world'.forest)
    (blind : spec.IsBlind pairing.known) :
    Concurs (buildLeaf (pairing.scene settings arguments) place spec)
      (buildLeaf (pairing.scene' settings arguments) place' spec) world world'
      fun last later last' later' => pairing.Abreast later later' ∧
        ∃ node, last = some node ∧ last' = some (node + pairing.shift) := by
  unfold buildLeaf
  rw [path]
  refine (concurs_makeLeaf given abreast blind).bind fun node grown node' grown' _ _ ends => ?_
  obtain ⟨abreast', doubles⟩ := ends
  refine (admits _ _ _ _ abreast' doubles).bind fun _ _ _ _ _ _ abreast'' =>
    concurs_pure ⟨abreast'', ?_⟩
  exact ⟨node, rfl, by rw [doubles.goes abreast.twins]⟩

/-! ## Doctypes -/

omit given in
/-- A doctype is made in both builds and given to the documents. -/
theorem concurs_giveDoctype (abreast : pairing.Abreast world world') (name : String)
    (publicId systemId : Option String) :
    Concurs (giveDoctype pairing.document (.text name) publicId systemId)
      (giveDoctype pairing.document' (.text name) publicId systemId) world world'
      fun node later node' later' => pairing.Abreast later later' ∧ node' = node + pairing.shift := by
  have checks {document : NodeId} {world : World}
      (isDocument : world.forest.isA Content.isDocument document) :
      Ensures (edit (checkDocument document)) world (fun _ after => after = world)
        fun _ _ => False := by
    rw [ensures_edit, ensures_checkDocument]
    exact ⟨fun _ => rfl, fun other => by rw [isDocument] at other; cases other⟩
  unfold giveDoctype
  refine (Concurs.of_ensures (checks abreast.twins.isDocument)
    (checks abreast.twins.isDocument')).bind fun _ _ _ _ _ _ ends => ?_
  obtain ⟨rfl, rfl⟩ := ends
  refine abreast.bind (blindly_doctypeName _) fun asked later later' _ abreast _ _ => ?_
  refine (abreast.edit (concurs_add abreast.twins _) fun _ _ _ _ ends => ?_).bind
    fun node grown node' grown' _ _ ends => ?_
  · rw [ends.1.2, ends.2.2]
    exact abreast.twins.add rfl _ _
  obtain ⟨abreast', ⟨isNode, grew⟩, isNode', grew'⟩ := ends
  refine (Concurs.of_ensures (silent_noticeReplaced _ _ grown)
    (silent_noticeReplaced _ _ grown')).bind fun _ noted _ noted' _ _ ends => ?_
  obtain ⟨⟨same, values⟩, same', values'⟩ := ends
  have twins : pairing.Twins noted.forest noted'.forest := by
    rw [same, same']
    exact abreast'.twins
  have seats {forest : Forest} {content : Content} {document node : NodeId} {noted : World}
      (intact : Intact {} noted.forest) (isNode : node = forest.size)
      (is : noted.forest = forest.add { content, owner := some document })
      (isDoctype : content.isDoctype) (isDocument : noted.forest.isA Content.isDocument document)
      (early : document < forest.size) :
      Ensures (edit (placeDoctype document node)) noted
        (fun _ after => noted.SameValues after ∧ after.forest.size = noted.forest.size ∧
          Frames (· = document) noted.forest after.forest ∧
          after.forest.children document = noted.forest.seating document node ∧
          currentDoctype? after.forest document = some node) fun _ _ => False := by
    rw [ensures_edit]
    refine (seats_placeDoctype intact isDocument ?_ ?_ (isNode ▸ early)).mono
      (fun _ _ ends => ⟨⟨rfl, rfl, rfl⟩, ends⟩) fun _ _ failed => failed
    · rw [is, isNode]
      simpa [isA, content?] using isDoctype
    · rw [is, isNode]
      simp [parent?]
  have goes : node' = node + pairing.shift := by
    rw [isNode, isNode', abreast.twins.size]
  have places := seats twins.frames.intact isNode (same.trans grew) rfl twins.isDocument
    (lt_size_of_isA abreast.twins.isDocument)
  have places' := seats twins.frames'.intact isNode' (same'.trans grew') rfl twins.isDocument'
    (lt_size_of_isA abreast.twins.isDocument')
  refine (Concurs.of_ensures places places').bind fun _ placed _ placed' _ _ ends => ?_
  obtain ⟨⟨values₂, size, frames, row, current⟩, values₂', size', frames', row', current'⟩ := ends
  have isNew : pairing.forest.size ≤ node := isNode ▸ abreast.twins.frames.size
  rw [goes] at row' current'
  exact concurs_pure ⟨(abreast'.same values values' twins).same values₂ values₂'
    (twins.seated isNew frames frames' size size' row row' current current'), goes⟩

theorem concurs_buildDoctype {children : List Value} {attributes : RawAttributes}
    (abreast : pairing.Abreast world world') (blind : AreBlind pairing.known children)
    (areAttributes : ∀ entry ∈ attributes, entry.2.isBlind pairing.known) :
    Concurs (buildDoctype (pairing.scene settings arguments) spec path children attributes)
      (buildDoctype (pairing.scene' settings arguments) spec path children attributes) world world'
      fun node later node' later' => pairing.Abreast later later' ∧
        node' = node + pairing.shift := by
  unfold buildDoctype
  refine abreast.bind (blindTo_leadingText like_scene given _ blind)
    fun name _ _ _ abreast _ _ => ?_
  refine abreast.bind (blindTo_identifier like_scene given _ _ blind areAttributes)
    fun publicId _ _ _ abreast _ _ => ?_
  refine abreast.bind (blindTo_identifier like_scene given _ _ blind areAttributes)
    fun systemId _ _ _ abreast _ _ => ?_
  exact concurs_giveDoctype abreast _ _ _

/-! ## Elements -/

/-- The namespaces of an element are the same at two places where qualifiers mean the
same. -/
theorem concurs_resolveElement {place place' : Place} {home home' : NodeId} {name : Value}
    {attributes : RawAttributes} (abreast : pairing.Abreast world world')
    (like : place.Like place' home home' world.forest world'.forest)
    (isSpec : spec.IsBlind pairing.known) (isName : name.isBlind pairing.known)
    (areAttributes : ∀ entry ∈ attributes, entry.2.isBlind pairing.known) :
    Concurs (resolveElement (pairing.scene settings arguments) place spec name attributes)
      (resolveElement (pairing.scene' settings arguments) place' spec name attributes) world world'
      fun found later found' later' => pairing.Abreast later later' ∧
        later.forest = world.forest ∧ later'.forest = world'.forest ∧ found'.2 = found.2 := by
  have finds {place : Place} {home : NodeId} {world : World}
      (isHome : place.target.home? world.forest = some home) :
      Ensures place.nearest world (fun found after => found = place.near home ∧ after = world)
        fun _ _ => False := by
    rw [Ensures, Place.nearest_eq isHome]
    exact ⟨rfl, rfl⟩
  unfold resolveElement
  rw [like.path]
  refine abreast.bind (blindly_specContext isSpec _) fun context later later' _ abreast same same' => ?_
  rw [← same, ← same'] at like
  refine abreast.bind (blindly_flatten given isName)
    fun text later₂ later₂' _ abreast same₂ same₂' => ?_
  rw [← same₂, ← same₂'] at like
  cases text with
  | none => exact concurs_throw rfl
  | some text =>
      refine (Concurs.of_ensures (finds like.isHome) (finds like.isHome')).bind
        fun _ _ _ _ _ _ ends => ?_
      obtain ⟨⟨rfl, rfl⟩, rfl, rfl⟩ := ends
      unfold resolve
      refine Concurs.bind (?_ : Concurs _ _ _ _ fun resolution later resolution' later' =>
        pairing.Abreast later later' ∧ later.forest = world.forest ∧
          later'.forest = world'.forest ∧ resolution' = resolution)
        fun _ _ _ _ _ _ ends => concurs_pure ⟨ends.1, ends.2.1, ends.2.2.1, ends.2.2.2⟩
      refine abreast.bind (blindly_flattenAttributes given _ areAttributes)
        fun flat later₃ later₃' _ abreast same₃ same₃' => ?_
      rw [← same₃, ← same₃'] at like
      refine (concurs_resolveFlat like.inside like.inside' like.sees text flat _ _ _).mono
        fun _ _ _ _ _ _ ends => ?_
      obtain ⟨rfl, rfl, rfl⟩ := ends
      exact ⟨abreast, same₃.trans (same₂.trans same), same₃'.trans (same₂'.trans same'), rfl⟩

/-- An element is made in both builds and gets its place. -/
theorem concurs_placeElement {place place' : Place} {home home' : NodeId} {name : Value}
    {attributes : RawAttributes} (abreast : pairing.Abreast world world')
    (like : place.Like place' home home' world.forest world'.forest)
    (admits : pairing.Admits place.target place'.target world.forest world'.forest)
    (isSpec : spec.IsBlind pairing.known) (isName : name.isBlind pairing.known)
    (areAttributes : ∀ entry ∈ attributes, entry.2.isBlind pairing.known) :
    Concurs (makeElement (pairing.scene settings arguments) place spec name attributes)
      (makeElement (pairing.scene' settings arguments) place' spec name attributes) world world'
      fun made later made' later' => pairing.Abreast later later' ∧
        made'.resolution = made.resolution := by
  refine (concurs_resolveElement given abreast like isSpec isName areAttributes).bind
    fun found later found' later' _ _ ends => ?_
  obtain ⟨near, resolution⟩ := found
  obtain ⟨near', resolution'⟩ := found'
  obtain ⟨abreast, same, same', isSame⟩ := ends
  obtain rfl : resolution = resolution' := isSame.symm
  refine (abreast.edit (concurs_createResolved abreast.twins resolution)
    fun _ _ _ _ ends => ends.1.twins).bind fun element grown element' grown' _ _ ends => ?_
  obtain ⟨abreast', doubles, -⟩ := ends
  rw [same, same'] at doubles
  exact (admits _ _ _ _ abreast' doubles).bind fun _ _ _ _ _ _ abreast'' =>
    concurs_pure ⟨abreast'', rfl⟩

omit given in
/-- The places of two builds under nodes that go together. -/
structure Alongside (pairing : Pairing) (place place' : Place) (before after : Forest) : Prop where
  isUnder : place.target.isUnder
  isUnder' : place'.target.isUnder
  bears : pairing.Bears before place.target.reference place'.target.reference
  like : place.Like place' place.target.reference place'.target.reference before after

/-- An element is made in both builds, and the places inside of the two go together. -/
theorem concurs_makeElement {place place' : Place} {home home' : NodeId} {name : Value}
    {attributes : RawAttributes} (abreast : pairing.Abreast world world')
    (like : place.Like place' home home' world.forest world'.forest)
    (admits : pairing.Admits place.target place'.target world.forest world'.forest)
    (isSpec : spec.IsBlind pairing.known) (isName : name.isBlind pairing.known)
    (areAttributes : ∀ entry ∈ attributes, entry.2.isBlind pairing.known) :
    Concurs (makeElement (pairing.scene settings arguments) place spec name attributes)
      (makeElement (pairing.scene' settings arguments) place' spec name attributes) world world'
      fun made later made' later' => pairing.Abreast later later' ∧
        made'.element = made.element + pairing.shift ∧
        pairing.Alongside made.inside made'.inside later.forest later'.forest := by
  refine (concurs_placeElement given abreast like admits isSpec isName areAttributes).mono
    fun made later made' later' run run' ends => ?_
  obtain ⟨abreast', sameResolution⟩ := ends
  have reference {target : Target} {world : World} {home : NodeId}
      (isHome : target.home? world.forest = some home) (isHost : world.forest.IsHost home) :
      target.reference < world.forest.size := by
    unfold Target.home? at isHome
    split at isHome
    · rw [Option.some.inj isHome]
      exact isHost.lt_size
    · exact lt_size_of_parent? isHome
  -- What is known of each of the two elements by itself.
  obtain ⟨tag, makes⟩ := (ensures_makeElement _ spec name attributes like.isHome
    (reference like.isHome like.isHost)).of_ok run
  obtain ⟨tag', makes'⟩ := (ensures_makeElement _ spec name attributes like.isHome'
    (reference like.isHome' like.isHost')).of_ok run'
  have grows := ((grows_makeElement _ _ _ _ _ _).of_ok run).1
  have grows' := ((grows_makeElement _ _ _ _ _ _).of_ok run').1
  have intact := abreast.twins.frames.intact
  have intact' := abreast.twins.frames'.intact
  have sameTag : tag' = tag := by
    have isTag' := makes'.isTag
    rw [sameResolution, makes.isTag] at isTag'
    exact (congrArg Prod.snd isTag').symm
  have there : later.forest.parent? made.element = some home :=
    makes.lands.resolve_right fun lands => by
      rw [like.isHost.isDocument] at lands
      cases lands.2
  have there' : later'.forest.parent? made'.element = some home' :=
    makes'.lands.resolve_right fun lands => by
      rw [like.isHost'.isDocument] at lands
      cases lands.2
  have goes : made'.element = made.element + pairing.shift := by
    rw [makes.element, makes'.element, abreast.twins.size]
  have isElement : later.forest.isA Content.isElement made.element := by
    rw [isA, makes.content]
    rfl
  have isElement' : later'.forest.isA Content.isElement made'.element := by
    rw [isA, makes'.content]
    rfl
  have reaches : SameMeanings (later.forest.scopes [made.element, place.far home])
      (later'.forest.scopes [made'.element, place'.far home']) := by
    refine sameMeanings_inside abreast'.twins.frames.intact abreast'.twins.frames'.intact
      makes.content (sameTag ▸ makes'.content) there there' ?_
    rw [like.scopes_lasting intact grows, like.symm.scopes_lasting intact' grows']
    exact like.reaches
  have behind := Nat.lt_of_lt_of_le (like.inside _ (place.far_mem_sources home)) grows.size
  have behind' := Nat.lt_of_lt_of_le (like.inside' _ (place'.far_mem_sources home')) grows'.size
  have isNew : pairing.forest.size ≤ made.element := makes.element ▸ abreast.twins.frames.size
  refine ⟨abreast', goes, ?_⟩
  rw [makes.inside, makes'.inside]
  exact
    { isUnder := rfl
      isUnder' := rfl
      bears := { isHost := .inl isElement, goes := .inr ⟨isNew, goes⟩ }
      like :=
        { path := by simp [Place.within, Place.deeper, like.path, sameResolution]
          depth := congrArg (· + 1) like.depth
          isHome := rfl
          isHome' := rfl
          isHost := .inl isElement
          isHost' := .inl isElement'
          inside := List.forall_mem_cons.mpr
            ⟨lt_size_of_isA isElement, List.forall_mem_singleton.mpr behind⟩
          inside' := List.forall_mem_cons.mpr
            ⟨lt_size_of_isA isElement', List.forall_mem_singleton.mpr behind'⟩
          outermost := fun beside => by cases beside
          outermost' := fun beside => by cases beside
          sees := reaches
          reaches := reaches } }

/-! ## Parts inside of parts -/

omit given in
/-- Places go together as long as the forests only grow. -/
theorem Alongside.later {place place' : Place} {before after before' after' : Forest}
    (alongside : pairing.Alongside place place' before after) (twins : pairing.Twins before after)
    (grows : Grows (place.target.Spares before) before before')
    (grows' : Grows (place'.target.Spares after) after after') :
    pairing.Alongside place place' before' after' where
  isUnder := alongside.isUnder
  isUnder' := alongside.isUnder'
  bears := alongside.bears.later (grows.content _ alongside.bears.isHost.lt_size)
  like := alongside.like.later alongside.isUnder alongside.isUnder' twins.frames.intact
    twins.frames'.intact (grows.nobody alongside.isUnder alongside.like.isHost)
    (grows'.nobody alongside.isUnder' alongside.like.isHost')

omit given in
theorem Alongside.deeper {place place' : Place} {before after : Forest}
    (alongside : pairing.Alongside place place' before after) (segment : String) :
    pairing.Alongside (place.deeper segment) (place'.deeper segment) before after :=
  { alongside with like := alongside.like.deeper segment }

omit given in
theorem Alongside.admits {place place' : Place} {before after : Forest}
    (alongside : pairing.Alongside place place' before after) (twins : pairing.Twins before after) :
    pairing.Admits place.target place'.target before after := by
  rw [Target.eq_under alongside.isUnder, Target.eq_under alongside.isUnder']
  exact alongside.bears.admits twins

omit given in
/-- Both builds have built the same node last, or both nothing. -/
structure Follow (pairing : Pairing) (world world' : World) (last : Option NodeId) (later : World)
    (last' : Option NodeId) (later' : World) : Prop where
  abreast : pairing.Abreast later later'
  goes : last' = last.map (· + pairing.shift)
  unchanged : last = none → later.forest = world.forest ∧ later'.forest = world'.forest

omit given in
/-- Two builders stay in step at places that go together. -/
structure InStep (pairing : Pairing) (below below' : Builder) : Prop where
  concurs : ∀ {value : Value} {place place' : Place} {world world' : World},
    value.isBlind pairing.known → pairing.Abreast world world' →
    pairing.Alongside place place' world.forest world'.forest →
    Concurs (below value place) (below' value place') world world' (pairing.Follow world world')
  grows : below.Grows
  grows' : below'.Grows

variable {below below' : Builder}

theorem concurs_buildElement {place place' : Place} {home home' : NodeId} {name : Value}
    {attributes : RawAttributes} {children : List Value} (inStep : pairing.InStep below below')
    (abreast : pairing.Abreast world world')
    (like : place.Like place' home home' world.forest world'.forest)
    (admits : pairing.Admits place.target place'.target world.forest world'.forest)
    (isSpec : spec.IsBlind pairing.known) (isName : name.isBlind pairing.known)
    (areAttributes : ∀ entry ∈ attributes, entry.2.isBlind pairing.known)
    (blind : AreBlind pairing.known children) :
    Concurs
      (buildElement (pairing.scene settings arguments) below place spec name attributes children)
      (buildElement (pairing.scene' settings arguments) below' place' spec name attributes children)
      world world' (pairing.Follow world world') := by
  unfold buildElement
  refine (concurs_makeElement given abreast like admits isSpec isName areAttributes).bind
    fun made later made' later' _ _ ends => ?_
  obtain ⟨abreast', goes, alongside⟩ := ends
  split
  · exact concurs_pure
      { abreast := abreast', goes := congrArg some goes
        unchanged := fun nothing => by cases nothing }
  · refine (inStep.concurs (Value.isBlind_list.mpr blind) abreast' alongside).bind
      fun last final last' final' _ _ follow => concurs_pure ?_
    have goesLast := follow.goes
    cases last with
    | none =>
        subst goesLast
        exact
          { abreast := follow.abreast, goes := congrArg some goes
            unchanged := fun nothing => by cases nothing }
    | some node =>
        subst goesLast
        exact
          { abreast := follow.abreast, goes := rfl
            unchanged := fun nothing => by cases nothing }

omit given in
theorem concurs_buildMembers {place place' : Place} {items : List Value} {index : Nat}
    {last last' : Option NodeId} (inStep : pairing.InStep below below')
    (blind : AreBlind pairing.known items) (abreast : pairing.Abreast world world')
    (alongside : pairing.Alongside place place' world.forest world'.forest)
    (goes : last' = last.map (· + pairing.shift)) :
    Concurs (buildMembers below place index last items)
      (buildMembers below' place' index last' items) world world'
      fun final later final' later' => pairing.Follow world world' final later final' later' ∧
        (final = none → last = none) := by
  induction items generalizing index last last' world world' with
  | nil =>
      exact concurs_pure
        ⟨{ abreast, goes, unchanged := fun _ => ⟨rfl, rfl⟩ }, fun nothing => nothing⟩
  | cons item rest ih =>
      rw [AreBlind, List.forall_mem_cons] at blind
      unfold buildMembers
      have deeper := alongside.deeper (memberSegment index)
      refine (inStep.concurs blind.1 abreast deeper).bind fun node later node' later' run run' follow => ?_
      have grows := (inStep.grows item _ world).of_ok run
      have grows' := (inStep.grows' item _ world').of_ok run'
      have goes' : (node' <|> last') = (node <|> last).map (· + pairing.shift) := by
        rw [follow.goes, goes]
        cases node <;> rfl
      refine (ih blind.2 follow.abreast (alongside.later abreast.twins grows grows') goes').mono
        fun final after final' after' _ _ ends => ?_
      obtain ⟨further, nothing⟩ := ends
      have noNode (isNone : final = none) : node = none ∧ last = none := by
        have neither := nothing isNone
        cases node with
        | none => exact ⟨rfl, neither⟩
        | some => cases neither
      refine ⟨{ abreast := further.abreast, goes := further.goes, unchanged := fun isNone => ?_ },
        fun isNone => (noNode isNone).2⟩
      obtain ⟨same, same'⟩ := further.unchanged isNone
      obtain ⟨before, before'⟩ := follow.unchanged (noNode isNone).1
      exact ⟨same.trans before, same'.trans before'⟩

omit given in
/-- A sequence under a node is opened there. -/
theorem opens_under {scene : Scene} {place : Place} (isUnder : place.target.isUnder)
    (world : World) :
    Ensures (openSequence scene place) world
      (fun inside after => after = world ∧
        inside = { place with pseudo := some (place.near place.target.reference) })
      fun _ _ => False := by
  have isHome : place.target.home? world.forest = some place.target.reference := by
    simp [Target.home?, isUnder]
  have same : Target.under place.target.reference = place.target := (Target.eq_under isUnder).symm
  rw [openSequence, Ensures]
  simp only [Bind.bind, EStateM.bind, implicitParent_eq isHome, holderFor, isUnder, if_true]
  exact ⟨rfl, by rw [same]; rfl⟩

omit given in
theorem concurs_buildSequence {place place' : Place} {items : List Value}
    (inStep : pairing.InStep below below') (blind : AreBlind pairing.known items)
    (abreast : pairing.Abreast world world')
    (alongside : pairing.Alongside place place' world.forest world'.forest) :
    Concurs (buildSequence (pairing.scene settings arguments) below place items)
      (buildSequence (pairing.scene' settings arguments) below' place' items) world world'
      (pairing.Follow world world') := by
  unfold buildSequence
  refine (Concurs.of_ensures (opens_under alongside.isUnder world)
    (opens_under alongside.isUnder' world')).bind fun inside later inside' later' _ _ ends => ?_
  obtain ⟨⟨rfl, rfl⟩, rfl, rfl⟩ := ends
  have within : pairing.Alongside
      { place with pseudo := some (place.near place.target.reference) }
      { place' with pseudo := some (place'.near place'.target.reference) } later.forest
      later'.forest :=
    { alongside with like := { alongside.like with } }
  refine (concurs_buildMembers inStep blind abreast within rfl).bind
    fun last final last' final' _ _ ends => ?_
  have closes {target : Target} {holder : NodeId} {last : Option NodeId} (isUnder : target.isUnder) :
      closeSequence target holder last = pure () := by
    rw [closeSequence, isUnder, Bool.not_true, Bool.and_false]
    rfl
  rw [closes alongside.isUnder, closes alongside.isUnder']
  exact concurs_pure ends.1

/-- Two builders that read a part and then build it are in step if those for what is inside
of it are. -/
theorem concurs_buildSpec {place place' : Place} (inStep : pairing.InStep below below')
    (abreast : pairing.Abreast world world')
    (alongside : pairing.Alongside place place' world.forest world'.forest)
    (blind : spec.IsBlind pairing.known) :
    Concurs (buildSpec (pairing.scene settings arguments) below place spec)
      (buildSpec (pairing.scene' settings arguments) below' place' spec) world world'
      (pairing.Follow world world') := by
  have admits := alongside.admits abreast.twins
  have leaf : Concurs (buildLeaf (pairing.scene settings arguments) place spec)
      (buildLeaf (pairing.scene' settings arguments) place' spec) world world'
      (pairing.Follow world world') := by
    refine (concurs_buildLeaf given abreast alongside.like.path admits blind).mono
      fun _ _ _ _ _ _ ends => ?_
    obtain ⟨abreast', node, rfl, rfl⟩ := ends
    exact { abreast := abreast', goes := rfl, unchanged := fun nothing => by cases nothing }
  cases spec with
  | sequence items =>
      exact concurs_buildSequence inStep (Spec.isBlind_sequence.mp blind) abreast alongside
  | callable function =>
      refine abreast.bind (Function.blindly_call (Spec.isBlind_callable.mp blind) given)
        fun value later later' blind abreast' same same' => ?_
      rw [← same, ← same'] at alongside
      refine (inStep.concurs blind abreast' (alongside.deeper "()")).mono
        fun _ _ _ _ _ _ follow => ?_
      exact { follow with unchanged := fun nothing => same ▸ same' ▸ follow.unchanged nothing }
  | element name attributes children =>
      obtain ⟨isName, areAttributes, areChildren⟩ := Spec.isBlind_element.mp blind
      exact concurs_buildElement given inStep abreast alongside.like admits blind isName
        areAttributes areChildren
  | doctype children attributes =>
      obtain ⟨areChildren, areAttributes⟩ := Spec.isBlind_doctype.mp blind
      show Concurs
        (buildDoctype (pairing.scene settings arguments) _ place.path children attributes >>=
          fun node => pure (some node))
        (buildDoctype (pairing.scene' settings arguments) _ place'.path children attributes >>=
          fun node => pure (some node)) world world' _
      rw [alongside.like.path]
      refine (concurs_buildDoctype given abreast areChildren areAttributes).bind
        fun node later node' later' _ _ ends => concurs_pure ?_
      obtain ⟨abreast', rfl⟩ := ends
      exact { abreast := abreast', goes := rfl, unchanged := fun nothing => by cases nothing }
  | _ => exact leaf

/-- Two builds of the same spec stay in step. -/
theorem inStep_buildWithin (settings : Settings) (budget : Nat) :
    pairing.InStep (buildWithin (pairing.scene settings arguments) budget)
      (buildWithin (pairing.scene' settings arguments) budget) where
  grows := grows_buildWithin _ budget
  grows' := grows_buildWithin _ budget
  concurs := by
    induction budget with
    | zero => exact fun _ _ _ => concurs_throw rfl
    | succ budget ih =>
        intro value place place' world world' blind abreast alongside
        have inStep : pairing.InStep (buildWithin (pairing.scene settings arguments) budget)
            (buildWithin (pairing.scene' settings arguments) budget) :=
          ⟨ih, grows_buildWithin _ budget, grows_buildWithin _ budget⟩
        unfold buildWithin
        refine abreast.bind (blindly_readPart blind alongside.like.path alongside.like.depth)
          fun part later later' areBlind abreast' same same' => ?_
        rw [← same, ← same'] at alongside
        cases part with
        | none => exact concurs_pure { abreast := abreast', goes := rfl, unchanged := fun _ => ⟨same, same'⟩ }
        | some spec =>
            refine (concurs_buildSpec given inStep abreast' alongside (areBlind spec rfl)).mono
              fun _ _ _ _ _ _ follow => ?_
            exact { follow with
              unchanged := fun nothing => same ▸ same' ▸ follow.unchanged nothing }

end Steps

end Pairing

end MarkupSpec
