import MarkupSpec.Proofs.Build.NodeOwners
import MarkupSpec.Proofs.Position.BesideHost

/-!
# What is built does not depend on where

The same spec builds the same nodes under an element or a fragment and beside one of its
children, before it, behind it or in its place, or fails in all of these ways for causes of
one kind (`compile_alike`).  Only the place of the nodes in the row differs.

This holds of specs that do not follow the tree.  Lists, maps and streams never do here, as they
are settled before the build (`Value`), but functions may look at the tree.  A function that does
may find the nodes of the build itself, and it finds other ones in front of a node than at the end
of the row (`looking_differs`).
-/

namespace MarkupSpec

open Forest Edit Build

/-! ## Nodes apart from a home -/

namespace Forest

/-- Does the number name a node other than a home and those above it? -/
def isApartFrom (forest : Forest) (home id : NodeId) : Bool :=
  decide (id < forest.size) && !(forest.lineage home).contains id

theorem isApartFrom_iff {forest : Forest} {home id : NodeId} :
    forest.isApartFrom home id ↔ id < forest.size ∧ id ∉ forest.lineage home := by
  simp [isApartFrom]

end Forest

/-- Values may go by all nodes but a home and those above it, and by some names and streams. -/
def Known.apartFrom (forest : Forest) (home : NodeId) (name : String → Bool)
    (stream : Nat → Bool) : Known where
  node := forest.isApartFrom home
  name
  stream

section Apart

variable {forest : Forest} {home : NodeId} {name : String → Bool} {stream : Nat → Bool}

/-- What is below a node that is apart from a home is apart from it too. -/
theorem Known.closed_apartFrom (intact : Intact {} forest) (inside : home < forest.size) :
    (Known.apartFrom forest home name stream).Closed forest where
  inside id isKnown := (isApartFrom_iff.mp isKnown).1
  children id isKnown child among := by
    obtain ⟨path, chain⟩ := intact.settled home inside
    have outside := (isApartFrom_iff.mp isKnown).2
    refine isApartFrom_iff.mpr ⟨intact.agrees.lt_size_of_mem among, fun above => outside ?_⟩
    rw [chain.lineage_eq] at above ⊢
    exact chain.parent_mem above (intact.agrees.parent id child among)

theorem Known.ne_of_apartFrom (intact : Intact {} forest) (inside : home < forest.size) {id : NodeId}
    (isKnown : (Known.apartFrom forest home name stream).node id) : id ≠ home := by
  rintro rfl
  obtain ⟨path, chain⟩ := intact.settled id inside
  refine (isApartFrom_iff.mp isKnown).2 ?_
  rw [chain.lineage_eq]
  cases chain <;> simp

end Apart

/-! ## Forests that have grown alike -/

namespace Forest

/-- Two forests have grown from the same one, the first one under a home and the second one
at a target that leads there.  The new nodes are the same, but that a number is added to
those of the first forest to get those of the second one. -/
structure GrownAlike (start : Forest) (home : NodeId) (target : Target) (shift : Nat)
    (before after : Forest) : Prop where
  size : after.size = before.size + shift
  content : ∀ id, start.size ≤ id → after.content? (id + shift) = before.content? id
  children : ∀ id, start.size ≤ id →
    after.children (id + shift) = (before.children id).map (· + shift)
  /-- Any other new nodes are fragments without a place and with nothing in them. -/
  spare : ∀ id, start.size ≤ id → id < start.size + shift →
    after.content? id = some .fragment ∧ after.children id = [] ∧ after.parent? id = none
  /-- The same nodes were put in the row of the home, at its end and at the target. -/
  row : ∃ tops, (∀ id ∈ tops, start.size ≤ id) ∧
    before.children home = start.children home ++ tops ∧
    target.Inserts (tops.map (· + shift)) (start.children home) (after.children home)
  /-- Nothing else has changed of what was there, apart from documents. -/
  others : ∀ id < start.size, start.isA Content.isDocument id = false →
    before.content? id = start.content? id ∧ after.content? id = start.content? id ∧
      (id ≠ home →
        before.children id = start.children id ∧ after.children id = start.children id)
  /-- Documents have the same nodes too, if the nodes to go by belong to one of them. -/
  documents : start.documentOf? target.reference = start.documentOf? home →
    ∀ id, start.isA Content.isDocument id →
      after.children id =
          (before.children id).map (fun child => if child < start.size then child else child + shift) ∧
        currentDoctype? after id =
          (currentDoctype? before id).map fun child => if child < start.size then child else child + shift

variable {before after : Forest} {id other : NodeId}

/-- What lasts of the content of a node is all of it, if it is no document. -/
theorem content?_eq_of_lasting
    (same : (after.content? other).map Content.lasting = (before.content? id).map Content.lasting)
    (noDocument : before.isA Content.isDocument id = false) :
    after.content? other = before.content? id := by
  unfold isA at noDocument
  cases was : before.content? id with
  | none =>
      rw [was] at same
      exact Option.map_eq_none_iff.mp same
  | some content =>
      rw [was] at same noDocument
      obtain ⟨now, there, lasts⟩ := Option.map_eq_some_iff.mp same
      rw [there, Pairing.eq_of_lasting lasts noDocument]

end Forest

/-- Twins have grown alike if new nodes come to the same home in both. -/
theorem Pairing.Twins.grownAlike {pairing : Pairing} {before after : Forest}
    (twins : pairing.Twins before after) (holds : pairing.hold = pairing.home)
    (spare : ∀ id, pairing.forest.size ≤ id → id < pairing.second.size →
      pairing.second.content? id = some .fragment ∧ pairing.second.children id = [])
    (owned : pairing.forest.documentOf? pairing.home = some pairing.document)
    (owned' : pairing.forest.documentOf? pairing.target.reference = some pairing.document') :
    pairing.forest.GrownAlike pairing.home pairing.target pairing.shift before after where
  size := twins.size
  content id new := content?_eq_of_lasting (twins.content id new) (twins.frames.noDocument id new)
  children := twins.children
  spare id new inside := by
    rw [← pairing.size] at inside
    have early := pairing.isHost.lt_size
    have untouched : ¬ (id = pairing.hold ∨ id = pairing.document') := by
      rintro (rfl | rfl)
      · exact absurd early (Nat.not_lt.mpr (holds ▸ new))
      · exact absurd (lt_size_of_isA pairing.isDocument') (Nat.not_lt.mpr new)
    obtain ⟨isFragment, nothing⟩ := spare id new inside
    have content := (twins.frames'.content id inside untouched).trans isFragment
    refine ⟨content, (twins.frames'.children id inside untouched).trans nothing, ?_⟩
    cases above : after.parent? id with
    | none => rfl
    | some home =>
        have noFragment := (twins.frames'.intact.agrees.fits id home above).isFragment
        rw [isA, content] at noFragment
        cases noFragment
  row := by
    obtain ⟨tops, areNew, row, row'⟩ := twins.tops
    rw [holds, pairing.grown.children _ pairing.isHost.lt_size] at row'
    exact ⟨tops, areNew, row, row'⟩
  others id inside noDocument := by
    have inside' := Pairing.lt_second inside
    have same := pairing.grown.content id inside
    have notDocument {document : NodeId} (isDocument : pairing.forest.isA Content.isDocument document) :
        id ≠ document := by
      rintro rfl
      rw [isDocument] at noDocument
      cases noDocument
    refine ⟨content?_eq_of_lasting (twins.frames.lasting id inside) noDocument,
      content?_eq_of_lasting ((twins.frames'.lasting id inside').trans (by rw [same])) noDocument,
      fun notHome => ⟨?_, ?_⟩⟩
    · exact twins.frames.children id inside (not_or.mpr ⟨notHome, notDocument pairing.isDocument⟩)
    · rw [← holds] at notHome
      rw [twins.frames'.children id inside'
        (not_or.mpr ⟨notHome, notDocument pairing.isDocument'⟩), pairing.grown.children id inside]
  documents same id isDocument := by
    rw [owned, owned', Option.some.injEq] at same
    by_cases here : id = pairing.document
    · rw [here]
      exact twins.documents same
    · have inside := lt_size_of_isA isDocument
      have notHome : id ≠ pairing.home := by
        rintro rfl
        rw [pairing.isHost.isDocument] at isDocument
        cases isDocument
      have untouched : ¬ (id = pairing.home ∨ id = pairing.document) := not_or.mpr ⟨notHome, here⟩
      have untouched' : ¬ (id = pairing.hold ∨ id = pairing.document') := by
        rw [holds, same]
        exact untouched
      have row := twins.frames.children id inside untouched
      have row' := (twins.frames'.children id (Pairing.lt_second inside) untouched').trans
        (pairing.grown.children id inside)
      have content := twins.frames.content id inside untouched
      have content' := (twins.frames'.content id (Pairing.lt_second inside) untouched').trans
        (pairing.grown.content id inside)
      refine Pairing.documents_of_same twins.frames.intact.agrees twins.frames'.intact.agrees
        (content'.trans content.symm) (row'.trans row.symm) fun child among => ?_
      rw [row] at among
      exact pairing.intact.agrees.lt_size_of_mem among

namespace Stage

variable {stage : Stage} {target : Target} {last last' : Option NodeId} {later later' : World}

/-- There is one number to add, and at most one node more in the second forest. -/
theorem Mirrors.grownAlike (mirrors : stage.Mirrors target last later last' later')
    (owned : stage.forest.documentOf? stage.home = some stage.document)
    (owned' : stage.forest.documentOf? target.reference = some stage.document') :
    ∃ shift ≤ 1, last' = last.map (· + shift) ∧
      stage.forest.GrownAlike stage.home target shift later.forest later'.forest := by
  obtain ⟨pairing, among, goes, twins⟩ := mirrors
  rcases List.mem_cons.mp among with rfl | among
  · exact ⟨0, Nat.zero_le _, goes, twins.grownAlike rfl
      (fun id new inside => absurd inside (Nat.not_lt.mpr new)) owned owned'⟩
  · cases List.mem_singleton.mp among
    refine ⟨1, Nat.le_refl _, goes, twins.grownAlike rfl (fun id new inside => ?_) owned owned'⟩
    obtain rfl : id = stage.forest.size := by
      have below : id < stage.forest.size + 1 := (stage.emptied target).size ▸ inside
      exact Nat.le_antisymm (Nat.le_of_lt_succ below) new
    exact ⟨stage.opened_content, (stage.opened_children _).trans (children_eq_nil (Nat.le_refl _))⟩

end Stage

/-! ## The whole build -/

/-- What two builds begin with of which one goes under a home. -/
def Stage.onForest {forest : Forest} {home document document' : NodeId} (intact : Intact {} forest)
    (isHost : forest.IsHost home) (isDocument : forest.isA Content.isDocument document)
    (isDocument' : forest.isA Content.isDocument document') (name : String → Bool)
    (stream : Nat → Bool) : Stage where
  known := .apartFrom forest home name stream
  forest
  intact
  closed := Known.closed_apartFrom intact isHost.lt_size
  home
  isHost
  apart _ := Known.ne_of_apartFrom intact isHost.lt_size
  document
  document'
  isDocument
  isDocument'

/-- The build of a spec that goes by the node of a target, with the arguments spread. -/
def Task.goingBy (settings : Settings) (document : NodeId) (given : List Value) (target : Target) :
    Task :=
  { scene := { settings, document, arguments := given }, target, fallback := .node target.reference }

section Compile

variable {settings : Settings} {spec arguments : Value} {mode mode' : Mode}
  {home reference reference' document document' : NodeId} {name : String → Bool}
  {stream : Nat → Bool} {world : World}

/-- Once the arguments are spread, a build that goes by a node with a home is ready for the
document of the node. -/
theorem ensures_ready (given : List Value)
    (isHome : Target.home? { mode, reference } world.forest = some home)
    (owned : world.forest.documentOf? reference = some document) :
    Ensures
      (documentFor .null reference >>= fun id =>
        discard (implicitParent { mode, reference }) >>= fun _ =>
          pure (Task.goingBy settings id given { mode, reference })) world
      (fun task after =>
        after = world ∧ task = .goingBy settings document given { mode, reference })
      fun _ _ => False := by
  rw [MarkupSpec.ensures_bind, documentFor, if_pos (show Value.null.isNull = true from rfl),
    MarkupSpec.ensures_bind, ensures_forest, owned, ensures_pure, MarkupSpec.ensures_bind,
    ensures_discard, Ensures, implicitParent_eq isHome]
  exact ⟨rfl, rfl⟩

/-- Two builds that go by nodes with the same home get ready alike, each for the document of
its node. -/
theorem concurs_prepare {known : Known} (values : world.Abreast known world)
    (areArguments : arguments.isBlind known)
    (isHome : Target.home? { mode, reference } world.forest = some home)
    (isHome' : Target.home? { mode := mode', reference := reference' } world.forest = some home)
    (owned : world.forest.documentOf? reference = some document)
    (owned' : world.forest.documentOf? reference' = some document') :
    Concurs (prepare settings (some (mode, .node reference)) .null arguments)
      (prepare settings (some (mode', .node reference')) .null arguments) world world
      fun task start task' start' => ∃ given, AreBlind known given ∧
        task = .goingBy settings document given { mode, reference } ∧
        task' = .goingBy settings document' given { mode := mode', reference := reference' } ∧
        start.Abreast known start' ∧ start.forest = world.forest ∧ start'.forest = world.forest := by
  unfold prepare
  refine (blindly_spread areArguments world world values).bind fun _ after given after' _ _ ends => ?_
  obtain ⟨rfl, areGiven, abreast, same, same'⟩ := ends
  rw [← same] at isHome owned
  rw [← same'] at isHome' owned'
  refine (Concurs.of_ensures (ensures_ready given isHome owned)
    (ensures_ready given isHome' owned')).mono fun task start task' start' _ _ ends => ?_
  obtain ⟨⟨rfl, isTask⟩, rfl, isTask'⟩ := ends
  exact ⟨given, areGiven, isTask, isTask', abreast, same, same'⟩

/-- What a build makes does not depend on where it goes, under an element or a fragment or
beside one of its children, if the functions of the spec do not look at the tree and none of
the nodes that it goes by is the home or above it. -/
theorem compile_alike (intact : Intact {} world.forest) (owned : world.forest.Owned)
    (beside : mode ≠ .under) (there : world.forest.parent? reference = some home)
    (isHost : world.forest.isA Content.isElement home ∨ world.forest.isA Content.isFragment home)
    (blind : world.IsBlind (.apartFrom world.forest home name stream))
    (isSpec : spec.isBlind (.apartFrom world.forest home name stream))
    (areArguments : arguments.isBlind (.apartFrom world.forest home name stream)) :
    Concurs (compile settings spec (some (.under, .node home)) .null arguments)
      (compile settings spec (some (mode, .node reference)) .null arguments) world world
      fun result after result' after' => ∃ last, ∃ shift ≤ 1,
        result = resultOr (.node home) last ∧
        result' = resultOr (.node reference) (last.map (· + shift)) ∧
        world.forest.GrownAlike home { mode, reference } shift after.forest after'.forest := by
  have inside : home < world.forest.size := IsHost.lt_size isHost
  obtain ⟨document, isOwner, isDocument⟩ := owned home inside
  obtain ⟨document', isOwner', isDocument'⟩ := owned reference (lt_size_of_parent? there)
  have isBeside : Target.isUnder { mode, reference } = false := by simpa [Target.isUnder] using beside
  have isHome : Target.home? { mode, reference } world.forest = some home := by
    rw [Target.home?, isBeside]
    exact there
  refine (concurs_prepare ⟨rfl, rfl, rfl, blind, fun _ _ => rfl⟩ areArguments rfl isHome isOwner
    isOwner').bind fun task start task' start' _ _ ends => ?_
  obtain ⟨given, areGiven, rfl, rfl, values, same, same'⟩ := ends
  have starts : (Stage.onForest intact isHost isDocument isDocument' name stream).Starts start start' :=
    ⟨values, same, same'⟩
  refine (Stage.concurs_buildWithin isBeside there areGiven settings _ isSpec starts
    ⟨rfl, rfl, rfl⟩).bind fun last after last' after' _ _ mirrors => ?_
  obtain ⟨shift, few, goes, alike⟩ := mirrors.grownAlike isOwner isOwner'
  exact concurs_pure ⟨last, shift, few, rfl, congrArg (resultOr (.node reference)) goes, alike⟩

end Compile

/-- An element and a copy of a node. -/
def twofold : Value := .list [.map [(.null, .text "b")], .node 4]

/-- The element and the copy come to the end of the row and in front of the second child. -/
theorem compile_alike_twofold :
    let world := worldAfter {} linkedRequests
    ∃ result after result' after',
      compile {} twofold (some (.under, .node 1)) .null (.list []) world = .ok result after ∧
      compile {} twofold (some (.before, .node 5)) .null (.list []) world = .ok result' after' ∧
      after.forest.children 1 = [4, 5, 8, 9] ∧ after'.forest.children 1 = [4, 9, 10, 5] ∧
      ∃ shift, world.forest.GrownAlike 1 { mode := .before, reference := 5 } shift after.forest
        after'.forest := by
  intro world
  have reached : Reached world := (Reached.start rfl).requests (by decide +kernel)
  have noStreams : world.streams.size = 0 := by decide +kernel
  have noNames : world.names.length = 0 := by decide +kernel
  have blind : world.IsBlind (.apartFrom world.forest 1 (fun _ => true) fun _ => true) :=
    { streams := fun id items _ there => by
        rw [Array.getElem?_eq_none (noStreams ▸ Nat.zero_le id)] at there
        cases there
      later := fun _ _ => rfl
      names := fun entry among => by
        rw [List.length_eq_zero_iff.mp noNames] at among
        cases among }
  have isSpec : twofold.isBlind (.apartFrom world.forest 1 (fun _ => true) fun _ => true) := by
    decide +kernel
  have there : world.forest.parent? 5 = some 1 := by decide +kernel
  have isHost : world.forest.isA Content.isElement 1 := by decide +kernel
  have ends : endsIn (compile {} twofold (some (.under, .node 1)) .null (.list [])) world
      (fun _ after => after.forest.children 1 = [4, 5, 8, 9]) fun _ _ => False := by decide +kernel
  have ends' : endsIn (compile {} twofold (some (.before, .node 5)) .null (.list [])) world
      (fun _ after => after.forest.children 1 = [4, 9, 10, 5]) fun _ _ => False := by decide +kernel
  -- From here on nothing is to be computed.
  clear_value world
  cases run : compile {} twofold (some (.under, .node 1)) .null (.list []) world with
  | error => exact (failed_of_endsIn ends run).elim
  | ok result after =>
      cases run' : compile {} twofold (some (.before, .node 5)) .null (.list []) world with
      | error => exact (failed_of_endsIn ends' run').elim
      | ok result' after' =>
          obtain ⟨last, shift, -, -, -, alike⟩ := (compile_alike reached.intact reached.owned
            (by decide) there (.inl isHost) blind isSpec rfl).of_ok run run'
          have row := done_of_endsIn ends run
          have row' := done_of_endsIn ends' run'
          exact ⟨result, after, result', after', rfl, rfl, row, row', shift, alike⟩

/-- An element of one document with a text of it and a text that was made for another
document. -/
def sharedRequests : List Request :=
  [.document .null, .document .null,
    .markup {} (.map [(.null, .list [.text "p", .text "s"])]) (.node 0) {} (.list []),
    .markup {} (.text "r") (.node 1) { under := .node 2 } (.list [])]

/-- The second text has a name. -/
def sharedWorld : World := { worldAfter {} sharedRequests with names := [("r", .node 4)] }

/-- An element with a copy of the node that is in front of the named one, and a doctype. -/
def looking : Value :=
  .map [(.null, .list
    [.text "x", .function { id := 0, label := none, body := .named "r" [.previous] },
      .map [(.text "#doctype", .text "html")]])]

/-- A function that looks at the tree may find the element that it is in, if that was put in
front of the named node, and not if it was put at the end.  The doctype comes to the document
that the node to go by was made for. -/
theorem looking_differs : ∃ result after result' after',
    compile {} looking (some (.under, .node 2)) .null (.list []) sharedWorld = .ok result after ∧
    compile {} looking (some (.before, .node 4)) .null (.list []) sharedWorld = .ok result' after' ∧
    (after.forest.children 2 = [3, 4, 5] ∧ after'.forest.children 2 = [3, 5, 4]) ∧
    (after.forest.children 5 = [6] ∧ after'.forest.children 5 = [6]) ∧
    (after.forest.isA Content.isElement 6 = false ∧ after'.forest.isA Content.isElement 6) ∧
    (after.forest.children 0 = [7, 2] ∧ after'.forest.children 0 = [2]) ∧
    ¬ ∃ shift, sharedWorld.forest.GrownAlike 2 { mode := .before, reference := 4 } shift
      after.forest after'.forest := by
  have ends : endsIn (compile {} looking (some (.under, .node 2)) .null (.list [])) sharedWorld
      (fun _ after => after.forest.size = 8 ∧ after.forest.children 2 = [3, 4, 5] ∧
        after.forest.children 5 = [6] ∧ after.forest.isA Content.isElement 6 = false ∧
        after.forest.children 0 = [7, 2]) fun _ _ => False := by decide +kernel
  have ends' : endsIn (compile {} looking (some (.before, .node 4)) .null (.list [])) sharedWorld
      (fun _ after => after.forest.size = 8 ∧ after.forest.children 2 = [3, 5, 4] ∧
        after.forest.children 5 = [6] ∧ after.forest.isA Content.isElement 6 ∧
        after.forest.children 0 = [2]) fun _ _ => False := by decide +kernel
  have early : sharedWorld.forest.size = 5 := by decide +kernel
  cases run : compile {} looking (some (.under, .node 2)) .null (.list []) sharedWorld with
  | error => exact (failed_of_endsIn ends run).elim
  | ok result after =>
      cases run' : compile {} looking (some (.before, .node 4)) .null (.list []) sharedWorld with
      | error => exact (failed_of_endsIn ends' run').elim
      | ok result' after' =>
          obtain ⟨size, row, inner, isText, document⟩ := done_of_endsIn ends run
          obtain ⟨size', row', inner', isElement, document'⟩ := done_of_endsIn ends' run'
          refine ⟨result, after, result', after', rfl, rfl, ⟨row, row'⟩, ⟨inner, inner'⟩,
            ⟨isText, isElement⟩, ⟨document, document'⟩, ?_⟩
          rintro ⟨shift, alike⟩
          obtain rfl : shift = 0 := by
            have sizes := alike.size
            rw [size, size'] at sizes
            exact (Nat.add_left_cancel sizes).symm
          have same := alike.content 6 (by rw [early]; decide)
          rw [isA, ← same] at isText
          rw [isA] at isElement
          exact Bool.false_ne_true (isText.symm.trans isElement)

end MarkupSpec
