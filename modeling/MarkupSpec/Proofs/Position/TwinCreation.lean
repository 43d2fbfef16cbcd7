import MarkupSpec.Proofs.Position.TwinDoctypes
import MarkupSpec.Proofs.Run.Concurs

/-!
# Making a node twice

In twins the same node can be made in both forests, and they stay twins
(`Pairing.Doubles`).  An element is made with its attributes, or fails to be made in both
(`Pairing.concurs_createResolved`).  A copy of a known node is made with the copies of all
that is below it (`Pairing.concurs_copy`): what is copied is the same in both forests, since
known nodes are.
-/

namespace MarkupSpec

open Forest Edit Build

/-! ## One copy -/

namespace Edit

/-- A host takes a node behind its children. -/
theorem houses_appendChild {forest : Forest} {home node : NodeId} (intact : Intact {} forest)
    (isHost : forest.IsHost home) (loose : forest.IsLoose node)
    (noFragment : forest.isA Content.isFragment node = false) (lower : home < node)
    (inside : node < forest.size) :
    Ensures (appendChild home node) forest
      (fun _ after =>
        Houses home (forest.children home ++ forest.bundle node) none node forest after)
      fun _ _ => False := by
  obtain ⟨bundle, emptied⟩ := IsLoose.emptied?_eq noFragment
  have takes := isHost.takes intact.agrees loose
  rw [bundle] at takes ⊢
  have ready : forest.Ready home node :=
    { inside, lower, movable := loose.movable, noFragment }
  refine ((tends_appendChild intact (Nat.zero_le _) ready).and
    (joins_appendChild intact.agrees noFragment)).mono (fun _ after ends => ?_)
    fun _ _ failed => failed.2 takes
  obtain ⟨tends, joins⟩ := ends
  exact
    { intact := tends.intact, size := tends.size
      alters := by
        rw [emptied]
        exact (joins.gains intact.agrees loose.top (List.append_nil _).symm rfl).alters
          intact.agrees joins.fits loose.top
      emptied := fun isFragment => by
        rw [noFragment] at isFragment
        cases isFragment }

/-- A copy may come into any host. -/
theorem loose_copyWithin (document : NodeId) (deep : Bool) (depth : Nat) (id : NodeId)
    {forest : Forest} (agrees : forest.Agrees) :
    Ensures (copyWithin document deep depth id) forest (fun copy after => after.IsLoose copy)
      fun _ _ => True := by
  have kind : Ensures (copyWithin document deep depth id) forest
      (fun copy after => after.isA Content.isInner copy ∨ after.isA Content.isFragment copy)
      fun _ _ => True := by
    cases depth with
    | zero => trivial
    | succ depth =>
        have below {content : Content} (isKind : content.isInner ∨ content.isFragment)
            (members : List NodeId) :
            Ensures (do
              if deep then copyInto (copyWithin document deep depth) forest.size members
              pure forest.size : Edit NodeId)
              (forest.add { content, owner := some document })
              (fun copy after => after.isA Content.isInner copy ∨ after.isA Content.isFragment copy)
              fun _ _ => True := by
          have isKind' : (forest.add { content, owner := some document }).isA Content.isInner
                forest.size ∨
              (forest.add { content, owner := some document }).isA Content.isFragment
                forest.size := by
            simpa [isA, content?] using isKind
          split
          · rw [MarkupSpec.ensures_bind]
            refine (grows_copyInto (fun id _ grew => grows_copyWithin document deep depth id grew)
              members (Grows.refl _)).mono (fun _ after grew => ?_) fun _ _ _ => trivial
            have inside : forest.size < (forest.add { content, owner := some document }).size := by
              simp
            exact isKind'.imp (grew.isA_of_lt Content.isInner_lasting inside).trans
              (grew.isA_of_lt Content.isFragment_lasting inside).trans
          · exact isKind'
        rw [copyWithin, MarkupSpec.ensures_bind, ensures_look]
        refine ⟨fun node there => ?_, fun _ => trivial⟩
        dsimp only
        split
        · rw [MarkupSpec.ensures_bind, createElement, ensures_create]
          refine ⟨fun _ => ?_, fun _ => trivial⟩
          rw [MarkupSpec.ensures_bind, ensures_setAll]
          split
          · exact below (.inl rfl) _
          · trivial
        · rw [MarkupSpec.ensures_bind, ensures_create]
          exact ⟨fun _ => below (.inr rfl) _, fun _ => trivial⟩
        · trivial
        · trivial
        · rename_i noElement noFragment noDocument noDoctype
          rw [ensures_create]
          refine ⟨fun _ => .inl ?_, fun _ => trivial⟩
          cases content : node.content with
          | document => exact absurd content (noDocument _ _)
          | fragment => exact absurd content noFragment
          | element => exact absurd content (noElement _)
          | doctype => exact absurd content (noDoctype _ _ _)
          | _ => simp [isA, content?, Content.isInner, Content.holds]
  exact ((copies_copyWithin document deep depth id forest agrees).and kind).mono
    (fun _ _ ends => ⟨ends.1.top, ends.2⟩) fun _ _ _ => trivial

end Edit

/-! ## Two nodes -/

namespace Pairing

variable {pairing : Pairing} {before after : Forest}

/-- The same node was made in both forests, with what comes with it. -/
structure Doubles (pairing : Pairing) (before after : Forest) (node : NodeId) (grown : Forest)
    (node' : NodeId) (grown' : Forest) : Prop where
  fresh : Fresh before node grown
  fresh' : Fresh after node' grown'
  loose : grown.IsLoose node
  loose' : grown'.IsLoose node'
  twins : pairing.Twins grown grown'

theorem Doubles.goes {node node' : NodeId} {grown grown' : Forest}
    (doubles : pairing.Doubles before after node grown node' grown')
    (twins : pairing.Twins before after) : node' = node + pairing.shift := by
  rw [doubles.fresh.number, doubles.fresh'.number, twins.size]

theorem Doubles.new {node node' : NodeId} {grown grown' : Forest}
    (doubles : pairing.Doubles before after node grown node' grown')
    (twins : pairing.Twins before after) : pairing.forest.size ≤ node :=
  doubles.fresh.number ▸ twins.frames.size

/-- A node without children is made in both forests. -/
theorem doubles_add (twins : pairing.Twins before after) {content : Content}
    (isInner : content.isInner ∨ content.isFragment) (owner owner' : Option NodeId) :
    pairing.Doubles before after before.size (before.add { content, owner }) after.size
      (after.add { content, owner := owner' }) := by
  have loose (forest : Forest) (owner : Option NodeId) :
      (forest.add { content, owner }).IsLoose forest.size :=
    ⟨by simp [parent?], by simpa [isA, content?] using isInner⟩
  have noDocument : content.isDocument = false := by
    cases content with
    | document => simp [Content.isInner, Content.holds, Content.isFragment] at isInner
    | _ => rfl
  exact
    { fresh := fresh_add twins.frames.intact.agrees _ _
      fresh' := fresh_add twins.frames'.intact.agrees _ _
      loose := loose before owner, loose' := loose after owner'
      twins := twins.add noDocument owner owner' }

theorem concurs_add (twins : pairing.Twins before after) (content : Content) :
    Concurs (create pairing.document content) (create pairing.document' content) before after
      fun node grown node' grown' =>
        (node = before.size ∧
          grown = before.add { content, owner := some pairing.document }) ∧
        node' = after.size ∧
          grown' = after.add { content, owner := some pairing.document' } := by
  have makes {document : NodeId} {forest : Forest}
      (isDocument : forest.isA Content.isDocument document) :
      Ensures (create document content) forest
        (fun node grown => node = forest.size ∧
          grown = forest.add { content, owner := some document }) fun _ _ => False := by
    rw [ensures_create]
    exact ⟨fun _ => ⟨rfl, rfl⟩, fun other => by rw [isDocument] at other; cases other⟩
  exact .of_ensures (makes twins.isDocument) (makes twins.isDocument')

theorem concurs_create (twins : pairing.Twins before after) {content : Content}
    (isInner : content.isInner ∨ content.isFragment) :
    Concurs (create pairing.document content) (create pairing.document' content) before after
      (pairing.Doubles before after) := by
  refine (concurs_add twins content).mono fun _ _ _ _ _ _ ends => ?_
  obtain ⟨⟨rfl, rfl⟩, rfl, rfl⟩ := ends
  exact doubles_add twins isInner _ _

/-- An element is made with its attributes, or it is made in neither of the forests. -/
theorem concurs_createElement (twins : pairing.Twins before after) (name : String)
    (namespaceUri : Option String) (entries : List Attribute.Entry) {α β : Type}
    {next : NodeId → Edit α} {next' : NodeId → Edit β} {done : α → Forest → β → Forest → Prop}
    (onNext : ∀ tag,
      Concurs (next before.size) (next' after.size)
        (before.add { content := .element tag, owner := some pairing.document })
        (after.add { content := .element tag, owner := some pairing.document' }) done) :
    Concurs
      (createElement pairing.document name namespaceUri >>= fun element =>
        setAll element entries >>= fun _ => next element)
      (createElement pairing.document' name namespaceUri >>= fun element =>
        setAll element entries >>= fun _ => next' element) before after done := by
  refine (concurs_add twins _).bind fun node grown node' grown' _ _ ends => ?_
  obtain ⟨⟨rfl, rfl⟩, rfl, rfl⟩ := ends
  have sets : Concurs (setAll before.size entries) (setAll after.size entries)
      (before.add { content := .element (.ofName name namespaceUri), owner := some pairing.document })
      (after.add { content := .element (.ofName name namespaceUri), owner := some pairing.document' })
      fun _ grown _ grown' => ∃ tag,
        grown = before.add { content := .element tag, owner := some pairing.document } ∧
        grown' = after.add { content := .element tag, owner := some pairing.document' } := by
    cases put : (Tag.ofName name namespaceUri).putAll entries with
    | mk outcome tag =>
        cases outcome with
        | ok =>
            have done (forest : Forest) (owner : Option NodeId) :
                Ensures (setAll forest.size entries)
                  (forest.add { content := .element (.ofName name namespaceUri), owner })
                  (fun _ grown => grown = forest.add { content := .element tag, owner })
                  fun _ _ => False := by
              rw [ensures_setAll, put]
            exact (Concurs.of_ensures (done before _) (done after _)).mono
              fun _ _ _ _ _ _ ends => ⟨tag, ends.1, ends.2⟩
        | error cause =>
            have fails (forest : Forest) (owner : Option NodeId) :
                Ensures (setAll forest.size entries)
                  (forest.add { content := .element (.ofName name namespaceUri), owner })
                  (fun _ _ => False)
                  fun failure _ => Kinded.kind failure = EditError.kind (.badAttribute cause) := by
              rw [ensures_setAll, put]
              rfl
            exact .of_failures (fails before _) (fails after _)
  refine sets.bind fun _ _ _ _ _ _ ends => ?_
  obtain ⟨tag, rfl, rfl⟩ := ends
  exact onNext tag

theorem concurs_createResolved (twins : pairing.Twins before after) (resolution : Resolution) :
    Concurs (createResolved pairing.document resolution)
      (createResolved pairing.document' resolution) before after
      fun element grown element' grown' => pairing.Doubles before after element grown element' grown' ∧
        ∃ tag, grown.content? element = some (.element tag) ∧
          grown'.content? element' = some (.element tag) := by
  refine concurs_createElement twins _ _ _ fun tag => ?_
  exact ⟨doubles_add twins (.inl rfl) _ _, tag, by simp [content?], by simp [content?]⟩

/-! ## Two copies -/

/-- Copies of the same members are appended to nodes that go together. -/
theorem concurs_copyInto {copy copy' : NodeId → Edit NodeId} {made made' : NodeId} :
    ∀ {members : List NodeId} {before after : Forest},
      (∀ id ∈ members, ∀ {before after : Forest}, pairing.Twins before after →
        Concurs (copy id) (copy' id) before after fun node grown node' grown' =>
          pairing.Doubles before after node grown node' grown' ∧
            grown.isA Content.isFragment node = false) →
      pairing.Twins before after → pairing.Bears before made made' →
      Concurs (copyInto copy made members) (copyInto copy' made' members) before after
        fun _ grown _ grown' => pairing.Twins grown grown'
  | [], _, _, _, twins, _ => concurs_pure twins
  | id :: rest, before, after, copies, twins, bears => by
      refine (copies id List.mem_cons_self twins).bind fun node grown node' grown' _ _ ends => ?_
      obtain ⟨doubles, noFragment⟩ := ends
      have isNew := doubles.new twins
      obtain rfl := doubles.goes twins
      have noFragment' : grown'.isA Content.isFragment (node + pairing.shift) = false :=
        (doubles.twins.isA_new Content.isFragment_lasting isNew).trans noFragment
      have bears' : pairing.Bears grown made made' :=
        bears.later (by rw [doubles.fresh.intact.content _ bears.isHost.lt_size])
      have lower : made < node := doubles.fresh.number ▸ bears.isHost.lt_size
      have lower' : made' < node + pairing.shift :=
        doubles.fresh'.number ▸ (bears.isHost' twins).lt_size
      have appends := houses_appendChild doubles.twins.frames.intact bears'.isHost doubles.loose
        noFragment lower doubles.fresh.inside
      have appends' := houses_appendChild doubles.twins.frames'.intact (bears'.isHost' doubles.twins)
        doubles.loose' noFragment' lower' doubles.fresh'.inside
      refine (Concurs.of_ensures appends appends').bind fun _ grown _ grown' _ _ ends => ?_
      obtain ⟨houses, houses'⟩ := ends
      exact concurs_copyInto (fun id among => copies id (List.mem_cons_of_mem _ among))
        (doubles.twins.houses bears' isNew houses houses') (bears'.later (by rw [houses.content]))

/-- A known node is there in both forests, with the same content and the same children, but
for a document. -/
theorem Twins.look (twins : pairing.Twins before after) {id : NodeId}
    (isKnown : pairing.known.node id) :
    ∃ node node', before.node? id = some node ∧ after.node? id = some node' ∧
      node'.content.lasting = node.content.lasting ∧
      (node.content.isDocument = false → node'.children = node.children) ∧
      ∀ child ∈ node.children, node.content.isDocument = false → pairing.known.node child := by
  obtain ⟨node, there⟩ := node?_of_lt (Nat.lt_of_lt_of_le (known_lt isKnown) twins.frames.size)
  obtain ⟨node', there'⟩ := node?_of_lt (Nat.lt_of_lt_of_le (lt_second (known_lt isKnown)) twins.frames'.size)
  have content := twins.restsBefore.content id isKnown
  have content' := twins.restsAfter.content id isKnown
  rw [content?_of_node? there] at content
  rw [content?_of_node? there', ← content] at content'
  have noDocument (other : node.content.isDocument = false) :
      pairing.forest.isA Content.isDocument id = false := by
    rw [← isA_of_lasting (twins.restsBefore.content id isKnown) Content.isDocument_lasting,
      isA_of_node? there]
    exact other
  refine ⟨node, node', there, there', by simpa using content', fun other => ?_,
    fun child among other => ?_⟩
  · rw [← children_of_node? there, ← children_of_node? there',
      twins.restsBefore.children id isKnown (noDocument other),
      twins.restsAfter.children id isKnown (noDocument other)]
  · rw [← children_of_node? there, twins.restsBefore.children id isKnown (noDocument other)] at among
    exact pairing.closed.children id isKnown child among

/-- Looking at nodes that are there. -/
theorem concurs_look {α β : Type} {id : NodeId} {node node' : Node} {next : Node → Edit α}
    {next' : Node → Edit β} {done : α → Forest → β → Forest → Prop}
    (there : before.node? id = some node) (there' : after.node? id = some node')
    (onNext : Concurs (next node) (next' node') before after done) :
    Concurs (look id >>= next) (look id >>= next') before after done := by
  have looks {forest : Forest} {node : Node} (there : forest.node? id = some node) :
      Ensures (look id) forest (fun found later => found = node ∧ later = forest)
        fun _ _ => False := by
    rw [ensures_look]
    simp [there]
  refine (Concurs.of_ensures (looks there) (looks there')).bind fun _ _ _ _ _ _ ends => ?_
  obtain ⟨⟨rfl, rfl⟩, rfl, rfl⟩ := ends
  exact onNext

theorem eq_of_lasting {content other : Content} (same : content.lasting = other.lasting)
    (noDocument : other.isDocument = false) : content = other := by
  cases other <;> cases content <;> simp_all [Content.lasting, Content.isDocument]

/-- All but that the forests stay twins is known of one copy already. -/
theorem concurs_doubles {depth depth' : Nat} {id : NodeId} (twins : pairing.Twins before after)
    (copies : Concurs (copyWithin pairing.document true depth id)
      (copyWithin pairing.document' true depth' id) before after
      fun _ grown _ grown' => pairing.Twins grown grown') :
    Concurs (copyWithin pairing.document true depth id)
      (copyWithin pairing.document' true depth' id) before after (pairing.Doubles before after) := by
  refine copies.mono fun node grown node' grown' run run' twins' => ?_
  have agrees := twins.frames.intact.agrees
  have agrees' := twins.frames'.intact.agrees
  exact
    { fresh := ((copies_copyWithin _ _ _ _ _ agrees).of_ok run).toFresh
      fresh' := ((copies_copyWithin _ _ _ _ _ agrees').of_ok run').toFresh
      loose := (loose_copyWithin _ _ _ _ agrees).of_ok run
      loose' := (loose_copyWithin _ _ _ _ agrees').of_ok run'
      twins := twins' }

/-- A known child is no fragment, and does not become one. -/
theorem Twins.noFragment {before' after' : Forest} {id child : NodeId}
    (twins : pairing.Twins before after) (twins' : pairing.Twins before' after')
    (isKnown : pairing.known.node child) (isChild : child ∈ before.children id) :
    before'.isA Content.isFragment child = false := by
  have parent := twins.frames.intact.agrees.parent id child isChild
  rw [isA_of_lasting (twins'.restsBefore.content child isKnown) Content.isFragment_lasting,
    ← isA_of_lasting (twins.restsBefore.content child isKnown) Content.isFragment_lasting]
  exact (twins.frames.intact.agrees.fits child id parent).isFragment

/-- A node that holds what was below the original comes with the copies of that. -/
theorem concurs_copyBelow {copy copy' : NodeId → Edit NodeId} {members : List NodeId}
    {content : Content} (twins : pairing.Twins before after)
    (isHost : content.isElement ∨ content.isFragment)
    (copies : ∀ id ∈ members, ∀ {before after : Forest}, pairing.Twins before after →
      Concurs (copy id) (copy' id) before after fun node grown node' grown' =>
        pairing.Doubles before after node grown node' grown' ∧
          grown.isA Content.isFragment node = false) :
    Concurs (copyInto copy before.size members >>= fun _ => pure before.size)
      (copyInto copy' after.size members >>= fun _ => pure after.size)
      (before.add { content, owner := some pairing.document })
      (after.add { content, owner := some pairing.document' })
      fun _ grown _ grown' => pairing.Twins grown grown' := by
  have noDocument : content.isDocument = false := by
    cases content <;> simp_all [Content.isElement, Content.isFragment, Content.isDocument]
  have bears : pairing.Bears (before.add { content, owner := some pairing.document })
      before.size after.size :=
    { isHost := by simpa [IsHost, isA, content?] using isHost
      goes := .inr ⟨twins.frames.size, twins.size⟩ }
  exact (concurs_copyInto copies (twins.add noDocument _ _) bears).bind
    fun _ _ _ _ _ _ twins => concurs_pure twins

/-- A known node is copied alike if the depth is enough for it.  It need not go beyond the nodes that
there are, since each child has a greater number than its parent. -/
theorem concurs_copyWithin : ∀ (depth depth' : Nat) (id : NodeId) {before after : Forest},
    pairing.known.node id → pairing.forest.size ≤ id + depth → pairing.forest.size ≤ id + depth' →
    pairing.Twins before after →
    Concurs (copyWithin pairing.document true depth id) (copyWithin pairing.document' true depth' id)
      before after (pairing.Doubles before after)
  | 0, _, id, _, _, isKnown, enough, _, _ =>
      absurd (pairing.closed.inside id isKnown) (Nat.not_lt.mpr enough)
  | _, 0, id, _, _, isKnown, _, enough, _ =>
      absurd (pairing.closed.inside id isKnown) (Nat.not_lt.mpr enough)
  | depth + 1, depth' + 1, id, before, after, isKnown, enough, enough', twins => by
      refine concurs_doubles twins ?_
      obtain ⟨node, node', there, there', same, sameChildren, areKnown⟩ := twins.look isKnown
      have each (isOther : node.content.isDocument = false) :
          ∀ child ∈ node.children, ∀ {before after : Forest}, pairing.Twins before after →
          Concurs (copyWithin pairing.document true depth child)
            (copyWithin pairing.document' true depth' child) before after
            fun copy grown copy' grown' => pairing.Doubles before after copy grown copy' grown' ∧
              grown.isA Content.isFragment copy = false := by
        intro child among before' after' twins'
        have isChild : child ∈ before.children id := children_of_node? there ▸ among
        have isKnown' := areKnown child among isOther
        have parent := twins.frames.intact.agrees.parent id child isChild
        have lower := (twins.frames.intact.under child id (Nat.zero_le _) parent).2
        have deeper {depth : Nat} (enough : pairing.forest.size ≤ id + (depth + 1)) :
            pairing.forest.size ≤ child + depth := by
          rw [← Nat.add_assoc, Nat.add_right_comm] at enough
          exact Nat.le_trans enough (Nat.add_le_add_right lower depth)
        refine (concurs_copyWithin depth depth' child isKnown' (deeper enough) (deeper enough')
          twins').mono fun copy grown copy' grown' run _ doubles => ⟨doubles, ?_⟩
        exact ((copies_copyWithin _ _ _ _ _ twins'.frames.intact.agrees).of_ok run).kind.trans
          (twins.noFragment twins' isKnown' isChild)
      refine concurs_look there there' ?_
      dsimp only
      cases isContent : node.content with
      | element tag =>
          rw [isContent] at same each sameChildren
          rw [eq_of_lasting same rfl, sameChildren rfl]
          exact concurs_createElement twins _ _ _ fun tag =>
            concurs_copyBelow twins (.inl rfl) (each rfl)
      | fragment =>
          rw [isContent] at same each sameChildren
          rw [eq_of_lasting same rfl, sameChildren rfl]
          refine (concurs_add twins .fragment).bind fun _ _ _ _ _ _ ends => ?_
          obtain ⟨⟨rfl, rfl⟩, rfl, rfl⟩ := ends
          exact concurs_copyBelow twins (.inr rfl) (each rfl)
      | document =>
          rw [isContent] at same
          cases isContent' : node'.content with
          | document => exact concurs_throw rfl
          | _ => simp [isContent', Content.lasting] at same
      | doctype =>
          rw [isContent] at same
          rw [eq_of_lasting same rfl]
          exact concurs_throw rfl
      | _ =>
          rw [isContent] at same
          rw [eq_of_lasting same rfl]
          exact (concurs_create twins (.inl rfl)).mono fun _ _ _ _ _ _ doubles => doubles.twins

/-- A known node is copied in both forests, or in neither of them. -/
theorem concurs_copy (twins : pairing.Twins before after) {id : NodeId}
    (isKnown : pairing.known.node id) :
    Concurs (copy pairing.document true id) (copy pairing.document' true id) before after
      (pairing.Doubles before after) := by
  have checks {document : NodeId} {forest : Forest}
      (isDocument : forest.isA Content.isDocument document) :
      Ensures (checkDocument document) forest (fun _ later => later = forest) fun _ _ => False := by
    rw [ensures_checkDocument]
    exact ⟨fun _ => rfl, fun other => by rw [isDocument] at other; cases other⟩
  refine (Concurs.of_ensures (checks twins.isDocument) (checks twins.isDocument')).bind
    fun _ _ _ _ _ _ ends => ?_
  obtain ⟨rfl, rfl⟩ := ends
  have early := twins.frames.size
  refine concurs_copyWithin _ _ id isKnown ?_ ?_ twins
  · exact Nat.le_trans early (by omega)
  · exact Nat.le_trans early (by rw [twins.size]; omega)

end Pairing

end MarkupSpec
