import MarkupSpec.Proofs.Forest.KeptNodeEdits

/-!
# Prologs of documents

The children of a document are composed as a document has to be: of the elements
there is at most one, the doctypes are the one that the document remembers, if it
remembers any, and no doctype is behind an element (`Prolog`).

A row of children stays composed so when a node that is no doctype comes to its end,
when a node is exchanged for one of its kind, and when a doctype comes in front of all
elements.  These are the ways in which nodes come under a document that is built under:
an element takes the place of the element there is, and a doctype that of the doctype
(`Forest.Composed`).  Whatever is attached elsewhere leaves the rows of documents
alone, and so does what fails.
-/

namespace MarkupSpec

open Forest Edit Build

/-! ## Rows -/

/-- A row with at most one element, with no doctype but the one that is remembered, and
with no doctype behind an element. -/
structure Prolog (isElement isDoctype : NodeId → Bool) (remembered : Option NodeId)
    (row : List NodeId) : Prop where
  single : (row.filter isElement).length ≤ 1
  known : row.filter isDoctype = remembered.toList
  order : row.Pairwise fun first second => isElement first → isDoctype second = false

namespace Prolog

variable {isElement isDoctype : NodeId → Bool} {remembered : Option NodeId}
  {front back row : List NodeId} {id old new : NodeId}

/-- An empty row has nothing to remember. -/
theorem nil (isElement isDoctype : NodeId → Bool) : Prolog isElement isDoctype none [] where
  single := by simp
  known := rfl
  order := .nil

theorem congr {isElement' isDoctype' : NodeId → Bool}
    (prolog : Prolog isElement isDoctype remembered row)
    (sameElement : ∀ id ∈ row, isElement' id = isElement id)
    (sameDoctype : ∀ id ∈ row, isDoctype' id = isDoctype id) :
    Prolog isElement' isDoctype' remembered row where
  single := by
    rw [List.filter_congr sameElement]
    exact prolog.single
  known := by
    rw [List.filter_congr sameDoctype]
    exact prolog.known
  order := prolog.order.imp_of_mem fun among among' order => by
    rw [sameElement _ among, sameDoctype _ among']
    exact order

/-- What comes to the end is no doctype, and an element only if there is none. -/
theorem append (prolog : Prolog isElement isDoctype remembered row)
    (noDoctype : isDoctype id = false) (room : isElement id → row.find? isElement = none) :
    Prolog isElement isDoctype remembered (row ++ [id]) where
  single := by
    rw [List.filter_append, List.length_append]
    cases kind : isElement id with
    | false => simpa [kind] using prolog.single
    | true =>
        have none : row.filter isElement = [] := by
          simpa [List.filter_eq_nil_iff] using room kind
        simp [none, kind]
  known := by simpa [noDoctype] using prolog.known
  order := by
    refine List.pairwise_append.mpr ⟨prolog.order, List.pairwise_singleton _ _, ?_⟩
    rintro first - second isLast -
    rw [List.mem_singleton.mp isLast]
    exact noDoctype

/-- A node is exchanged for one of its kind.  If they are doctypes, the new one is to be
remembered. -/
theorem instead (prolog : Prolog isElement isDoctype remembered (front ++ old :: back))
    (sameElement : isElement new = isElement old) (sameDoctype : isDoctype new = isDoctype old) :
    Prolog isElement isDoctype (if isDoctype new then some new else remembered)
      (front ++ new :: back) where
  single := by
    have single := prolog.single
    rw [List.filter_append, List.filter_cons] at single ⊢
    rw [sameElement]
    cases kind : isElement old <;> simpa [kind] using single
  known := by
    have known := prolog.known
    rw [List.filter_append, List.filter_cons] at known ⊢
    rw [sameDoctype]
    cases kind : isDoctype old with
    | false => simpa [kind] using known
    | true =>
        -- The old doctype is all that was remembered, so no other one is around.
        have length := congrArg List.length known
        have atMost : remembered.toList.length ≤ 1 := by cases remembered <;> simp
        simp only [kind, if_true, List.length_append, List.length_cons] at length
        have noFront : front.filter isDoctype = [] := List.length_eq_zero_iff.mp (by omega)
        have noBack : back.filter isDoctype = [] := List.length_eq_zero_iff.mp (by omega)
        simp [noFront, noBack]
  order := by
    have order := prolog.order
    rw [List.pairwise_append, List.pairwise_cons] at order ⊢
    obtain ⟨inFront, ⟨behind, inBack⟩, across⟩ := order
    refine ⟨inFront, ⟨?_, inBack⟩, fun first among second among' => ?_⟩
    · rw [sameElement]
      exact behind
    · rcases List.mem_cons.mp among' with rfl | later
      · rw [sameDoctype]
        exact across first among old List.mem_cons_self
      · exact across first among second (List.mem_cons_of_mem _ later)

/-- A doctype comes in front of all elements where none is remembered. -/
theorem insert (prolog : Prolog isElement isDoctype none (front ++ back))
    (early : ∀ id ∈ front, isElement id = false) (noElement : isElement new = false)
    (newDoctype : isDoctype new) :
    Prolog isElement isDoctype (some new) (front ++ new :: back) where
  single := by
    have single := prolog.single
    rw [List.filter_append] at single ⊢
    simpa [noElement] using single
  known := by
    obtain ⟨noFront, noBack⟩ := List.append_eq_nil_iff.mp (List.filter_append .. ▸ prolog.known)
    rw [List.filter_append, noFront, List.filter_cons_of_pos newDoctype, noBack]
    rfl
  order := by
    have order := prolog.order
    rw [List.pairwise_append] at order
    rw [List.pairwise_append, List.pairwise_cons]
    obtain ⟨inFront, inBack, across⟩ := order
    refine ⟨inFront, ⟨fun _ _ isElement => ?_, inBack⟩, fun first among second _ isElement => ?_⟩
    · rw [noElement] at isElement
      cases isElement
    · rw [early first among] at isElement
      cases isElement

end Prolog

/-! ## Forests -/

@[simp]
theorem Content.isDoctype_lasting (content : Content) :
    content.lasting.isDoctype = content.isDoctype := by
  cases content <;> rfl

/-- What a parent that is no document holds is no doctype. -/
theorem Content.isDoctype_of_holds {above below : Content} (held : above.holds below = true)
    (noDocument : above.isDocument = false) : below.isDoctype = false := by
  cases above with
  | document => cases noDocument
  | _ => cases below <;> first | rfl | cases held

/-- An element is no doctype. -/
theorem Content.isDoctype_of_isElement {content : Content} (isElement : content.isElement) :
    content.isDoctype = false := by
  cases content <;> first | rfl | cases isElement

namespace Forest

variable {before after forest : Forest} {home child document new old : NodeId}
  {mark : Option NodeId}

/-- The document remembers its doctype, and the row of its children is composed as it
has to be. -/
def HasProlog (forest : Forest) (document : NodeId) : Prop :=
  Prolog (forest.isA Content.isElement) (forest.isA Content.isDoctype) (forest.doctype? document)
    (forest.children document)

/-- Every document has its prolog. -/
def Prologs (forest : Forest) : Prop :=
  ∀ document, forest.isA Content.isDocument document → forest.HasProlog document

/-- A woven forest in which every document has its prolog. -/
structure Composed (forest : Forest) : Prop where
  intact : Intact {} forest
  prologs : forest.Prologs

theorem doctype?_of_content (same : after.content? document = before.content? document) :
    after.doctype? document = before.doctype? document := by
  rw [doctype?, doctype?, same]

/-- A prolog depends on what the document remembers, on its children and on their kinds. -/
theorem HasProlog.later (has : before.HasProlog document)
    (doctype : after.doctype? document = before.doctype? document)
    (row : after.children document = before.children document)
    (kinds : ∀ child ∈ before.children document,
      (after.content? child).map Content.lasting = (before.content? child).map Content.lasting) :
    after.HasProlog document := by
  unfold HasProlog
  rw [doctype, row]
  exact has.congr (fun child among => isA_of_lasting (kinds child among) Content.isElement_lasting)
    fun child among => isA_of_lasting (kinds child among) Content.isDoctype_lasting

/-- Nodes are made, and the new documents have their prologs. -/
theorem Composed.grown (composed : before.Composed) (grown : Intact before after)
    (added : ∀ document, before.size ≤ document → after.isA Content.isDocument document →
      after.HasProlog document) : after.Composed where
  intact := composed.intact.trans grown
  prologs document isDocument := by
    rcases Nat.lt_or_ge document before.size with known | late
    · have content := grown.content document known
      rw [isA, content] at isDocument
      refine (composed.prologs document isDocument).later (doctype?_of_content content)
        (grown.children document known) fun child among => ?_
      rw [grown.content child (composed.intact.agrees.lt_size_of_mem among)]
    · exact added document late isDocument

/-- Only nodes that are no documents get other children. -/
theorem Prologs.moved {homes placed dropped : NodeId → Prop} (prologs : before.Prologs)
    (moves : Moves homes placed dropped before after)
    (spared : ∀ id, homes id → before.isA Content.isDocument id = false) : after.Prologs := by
  intro document isDocument
  rw [moves.isDocument] at isDocument
  have noHome : ¬ homes document := fun isHome => by simp [spared document isHome] at isDocument
  obtain ⟨content, row⟩ := moves.rest document noHome
  exact (prologs document isDocument).later (doctype?_of_content content) row
    fun child _ => moves.content child

/-! ### What an edit does -/

/-- What leaves its place was not under a document. -/
theorem Detached.row (detached : Detached child before after) (movable : before.Movable child)
    (isDocument : before.isA Content.isDocument document) :
    after.children document = before.children document := by
  rcases detached with ⟨-, rfl⟩ | ⟨home, front, back, there, loses⟩
  · rfl
  · rw [loses.children, if_neg]
    rintro rfl
    rw [movable document there] at isDocument
    cases isDocument

/-- Contents are the same, and so are the rows of all documents but one. -/
theorem Prologs.changed (prologs : before.Prologs)
    (content : ∀ id, after.content? id = before.content? id)
    (rows : ∀ document, before.isA Content.isDocument document → document ≠ home →
      after.children document = before.children document)
    (own : before.isA Content.isDocument home → after.HasProlog home) : after.Prologs := by
  intro document isDocument
  rw [isA, content] at isDocument
  by_cases isHome : document = home
  · subst isHome
    exact own isDocument
  · exact (prologs document isDocument).later (doctype?_of_content (content document))
      (rows document isDocument isHome) fun child _ => by rw [content]

theorem Prologs.unplaced (prologs : before.Prologs) (movable : before.Movable child)
    (unplaced : Unplaced child before after) : after.Prologs := by
  rcases unplaced with rfl | detached
  · exact prologs
  · intro document isDocument
    rw [isA, detached.content] at isDocument
    exact (prologs document isDocument).later (doctype?_of_content (detached.content document))
      (detached.row movable isDocument) fun child _ => by rw [detached.content]

theorem Joins.row (joins : Joins home child mark before after) (movable : before.Movable child)
    (isDocument : before.isA Content.isDocument document) (elsewhere : document ≠ home) :
    after.children document = before.children document := by
  obtain ⟨middle, front, back, -, detached, -, gains⟩ := joins
  rw [gains.children, if_neg elsewhere]
  exact detached.row movable isDocument

/-- A document gets a child in front of a mark. -/
theorem Joins.row_home (joins : Joins home child mark before after)
    (movable : before.Movable child) (isDocument : before.isA Content.isDocument home) :
    ∃ front back, back.head? = mark ∧ before.children home = front ++ back ∧
      after.children home = front ++ child :: back := by
  obtain ⟨middle, front, back, -, detached, isMark, gains⟩ := joins
  refine ⟨front, back, isMark, ?_, ?_⟩
  · rw [← detached.row movable isDocument, gains.split]
  · rw [gains.children, if_pos rfl]

theorem Ousts.row (ousts : Ousts home new old before after) (movable : before.Movable new)
    (isDocument : before.isA Content.isDocument document) (elsewhere : document ≠ home) :
    after.children document = before.children document := by
  obtain ⟨middle, front, back, -, detached, swaps⟩ := ousts
  rw [swaps.children, if_neg elsewhere]
  exact detached.row movable isDocument

/-- A child of a document is exchanged. -/
theorem Ousts.row_home (ousts : Ousts home new old before after) (movable : before.Movable new)
    (isDocument : before.isA Content.isDocument home) :
    ∃ front back, before.children home = front ++ old :: back ∧
      after.children home = front ++ new :: back := by
  obtain ⟨middle, front, back, -, detached, swaps⟩ := ousts
  refine ⟨front, back, ?_, ?_⟩
  · rw [← detached.row movable isDocument, swaps.split]
  · rw [swaps.children, if_pos rfl]

/-- What comes behind the children of a document is no doctype, and an element only if
there is none. -/
theorem Prologs.joins (prologs : before.Prologs) (movable : before.Movable child)
    (noDoctype : before.isA Content.isDoctype child = false)
    (room : before.isA Content.isDocument home → before.isA Content.isElement child →
      before.rootElement? home = none)
    (joins : Joins home child none before after) : after.Prologs := by
  refine prologs.changed joins.content (fun _ => joins.row movable) fun isDocument => ?_
  obtain ⟨front, back, isLast, split, row⟩ := joins.row_home movable isDocument
  obtain rfl := List.head?_eq_none_iff.mp isLast
  rw [List.append_nil] at split
  unfold HasProlog
  rw [doctype?_of_content (joins.content home), row, ← split]
  have composes : Prolog (before.isA Content.isElement) (before.isA Content.isDoctype)
      (before.doctype? home) (before.children home ++ [child]) :=
    (prologs home isDocument).append noDoctype (room isDocument)
  exact composes.congr (fun id _ => by rw [isA, isA, joins.content])
    fun id _ => by rw [isA, isA, joins.content]

/-- An element takes the place of the element of a document. -/
theorem Prologs.ousts (prologs : before.Prologs) (movable : before.Movable new)
    (isElement : before.isA Content.isElement new) (wasElement : before.isA Content.isElement old)
    (ousts : Ousts home new old before after) : after.Prologs := by
  refine prologs.changed ousts.content (fun _ => ousts.row movable) fun isDocument => ?_
  obtain ⟨front, back, split, row⟩ := ousts.row_home movable isDocument
  have noDoctype {id : NodeId} (isElement : before.isA Content.isElement id) :
      before.isA Content.isDoctype id = false :=
    isA_of_isA Content.isDoctype_of_isElement isElement
  have prolog := prologs home isDocument
  unfold HasProlog at prolog ⊢
  rw [split] at prolog
  rw [doctype?_of_content (ousts.content home), row]
  have exchanged := prolog.instead (isElement.trans wasElement.symm)
    ((noDoctype isElement).trans (noDoctype wasElement).symm)
  rw [noDoctype isElement] at exchanged
  exact exchanged.congr (fun id _ => by rw [isA, isA, ousts.content])
    fun id _ => by rw [isA, isA, ousts.content]

/-- A document that remembers no doctype of its own has none. -/
theorem HasProlog.doctype?_eq_none (has : forest.HasProlog document) (agrees : forest.Agrees)
    (noDoctype : currentDoctype? forest document = none) : forest.doctype? document = none := by
  cases remembers : forest.doctype? document with
  | none => rfl
  | some old =>
      have known := has.known
      rw [remembers] at known
      have among : old ∈ (forest.children document).filter (forest.isA Content.isDoctype) :=
        known ▸ List.mem_singleton_self old
      have there := agrees.parent document old (List.mem_filter.mp among).1
      simp [currentDoctype?, remembers, there] at noDoctype

/-- The row of a document is composed with a doctype that the document is going to
remember. -/
def Awaits (forest : Forest) (document doctype : NodeId) : Prop :=
  Prolog (forest.isA Content.isElement) (forest.isA Content.isDoctype) (some doctype)
    (forest.children document)

/-- A document comes to remember the doctype that its row is composed with. -/
theorem Awaits.prologs_update {step : Node → Node} {doctype : NodeId}
    (awaits : forest.Awaits document doctype)
    (isDocument : forest.isA Content.isDocument document)
    (others : ∀ other, forest.isA Content.isDocument other → other ≠ document →
      forest.HasProlog other)
    (lasts : ∀ found, (step found).content.lasting = found.content.lasting)
    (children : ∀ found, (step found).children = found.children)
    (remembers : ∀ found version remembered, found.content = .document version remembered →
      (step found).content = .document version (some doctype)) :
    (forest.update document step).Prologs := by
  intro other isDocument'
  have row : (forest.update document step).children other = forest.children other :=
    children_update children
  have kinds (id : NodeId) : ((forest.update document step).content? id).map Content.lasting =
      (forest.content? id).map Content.lasting := content?_update_lasting lasts
  by_cases isOwn : other = document
  · subst isOwn
    obtain ⟨found, there⟩ := node?_of_lt (lt_size_of_isA isDocument)
    rw [isA_of_node? there] at isDocument
    have remembers : (forest.update other step).doctype? other = some doctype := by
      cases content : found.content with
      | document version remembered =>
          simp [doctype?, content?, there, remembers found version remembered content]
      | _ =>
          rw [content] at isDocument
          cases isDocument
    unfold HasProlog
    rw [remembers, row]
    exact awaits.congr (fun child _ => isA_of_lasting (kinds child) Content.isElement_lasting)
      fun child _ => isA_of_lasting (kinds child) Content.isDoctype_lasting
  · have content : (forest.update document step).content? other = forest.content? other := by
      simp [content?, Ne.symm isOwn]
    rw [isA, content] at isDocument'
    exact (others other isDocument' isOwn).later (doctype?_of_content content) row
      fun child _ => kinds child

end Forest

/-! ## Edits -/

namespace Edit

section One

variable {forest : Forest} {home child document doctype new old : NodeId} {mark : Option NodeId}

/-- A node that is exchanged for itself stays. -/
theorem ensures_replaceChild (agrees : forest.Agrees)
    (noFragment : forest.isA Content.isFragment new = false) :
    Ensures (replaceChild home new old) forest
      (fun _ after => new = old ∧ after = forest ∨ new ≠ old ∧ Ousts home new old forest after)
      fun _ after => Unplaced new forest after := by
  rw [replaceChild, ensures_bind, ensures_look]
  refine ⟨fun below there => ?_, fun _ => .inl rfl⟩
  rw [(isA_of_node? there).symm.trans noFragment, if_neg Bool.false_ne_true]
  exact (ensures_replaceOne agrees).mono (fun _ _ ends => ends) fun _ _ failed => failed.1

theorem ensures_insertBefore (agrees : forest.Agrees)
    (noFragment : forest.isA Content.isFragment child = false) :
    Ensures (insertBefore home child mark) forest (fun _ after => Joins home child mark forest after)
      fun _ after => Unplaced child forest after := by
  rw [insertBefore, ensures_bind, ensures_look]
  refine ⟨fun below there => ?_, fun _ => .inl rfl⟩
  rw [(isA_of_node? there).symm.trans noFragment, if_neg Bool.false_ne_true]
  exact (ensures_insertOne agrees mark).mono (fun _ _ joins => joins) fun _ _ failed => failed.1

/-- Attaching a node under another one, an element in the place of the element of a
document, keeps the prologs. -/
theorem prologs_attachOneUnder (composed : forest.Composed) (ready : forest.Ready home child)
    (noDoctype : forest.isA Content.isDoctype child = false) :
    Ensures (attachOneUnder home child) forest (fun _ => Prologs) fun _ => Prologs := by
  have agrees := composed.intact.agrees
  have unplaced {after : Forest} (unplaced : Unplaced child forest after) : after.Prologs :=
    composed.prologs.unplaced ready.movable unplaced
  have appends (room : forest.isA Content.isDocument home → forest.isA Content.isElement child →
      forest.rootElement? home = none) :
      Ensures (appendChild home child) forest (fun _ => Prologs) fun _ => Prologs :=
    (ensures_appendChild agrees ready).mono
      (fun _ _ joins => composed.prologs.joins ready.movable noDoctype room joins)
      fun _ _ => unplaced
  rw [attachOneUnder, ensures_bind, ensures_look]
  refine ⟨fun above there => ?_, fun _ => composed.prologs⟩
  rw [ensures_bind, ensures_look]
  refine ⟨fun below there' => ?_, fun _ => composed.prologs⟩
  have isAbove : forest.isA Content.isDocument home = above.content.isDocument := isA_of_node? there
  have isBelow : forest.isA Content.isElement child = below.content.isElement := isA_of_node? there'
  rw [← isAbove, ← isBelow]
  split
  · rename_i kinds
    have isElement := (Bool.and_eq_true_iff.mp kinds).2
    rw [setRoot, ensures_bind, rootOf, ensures_bind, ensures_checkDocument]
    refine ⟨fun _ => ?_, fun _ => composed.prologs⟩
    rw [ensures_bind, ensures_get, ensures_pure]
    split
    · rename_i noRoot
      exact appends fun _ _ => noRoot
    · rename_i old isRoot
      split
      · exact composed.prologs
      · refine (ensures_replaceChild agrees ready.noFragment).mono (fun _ after ends => ?_)
          fun _ _ => unplaced
        rcases ends with ⟨-, rfl⟩ | ⟨-, ousts⟩
        · exact composed.prologs
        · exact composed.prologs.ousts ready.movable isElement (List.find?_some isRoot) ousts
  · rename_i kinds
    exact appends fun isDocument isElement => absurd (by simp [isDocument, isElement]) kinds

theorem composed_attachOneUnder (composed : forest.Composed) (ready : forest.Ready home child)
    (noDoctype : forest.isA Content.isDoctype child = false) :
    Ensures (attachOneUnder home child) forest
      (fun _ after => after.Composed ∧ Tends {} (· = child) forest after) fun _ => Composed :=
  ((tends_attachOneUnder composed.intact (Nat.zero_le _) ready).and
    (prologs_attachOneUnder composed ready noDoctype)).mono
    (fun _ _ ends => ⟨⟨ends.1.intact, ends.2⟩, ends.1⟩) fun _ _ ends => ⟨ends.1, ends.2⟩

/-- Nodes come under a home one by one. -/
theorem composed_attachMembers : ∀ (members : List NodeId) {forest : Forest}, forest.Composed →
    members.Nodup →
    (∀ member ∈ members, forest.Ready home member ∧ forest.isA Content.isDoctype member = false) →
    Ensures (members.forM (attachOneUnder home)) forest (fun _ => Composed) fun _ => Composed
  | [], _, composed, _, _ => composed
  | member :: rest, forest, composed, distinct, ready => by
      rw [List.nodup_cons] at distinct
      obtain ⟨own, noDoctype⟩ := ready member List.mem_cons_self
      show Ensures (attachOneUnder home member >>= fun _ => rest.forM (attachOneUnder home)) forest _ _
      rw [ensures_bind]
      refine (composed_attachOneUnder composed own noDoctype).mono (fun _ middle ends => ?_)
        fun _ _ composed => composed
      obtain ⟨composed', tends⟩ := ends
      refine composed_attachMembers rest composed' distinct.2 fun other among => ?_
      obtain ⟨ready, noDoctype⟩ := ready other (List.mem_cons_of_mem _ among)
      refine ⟨ready.later tends fun same => distinct.1 (same ▸ among), ?_⟩
      rw [isA_of_lasting (tends.content other) Content.isDoctype_lasting]
      exact noDoctype

/-- Attaching a new node under another one keeps a forest composed. -/
theorem composed_attachUnder (composed : forest.Composed) (lower : home < child)
    (movable : forest.Movable child) (noDoctype : forest.isA Content.isDoctype child = false) :
    Ensures (attachUnder home child) forest (fun _ => Composed) fun _ => Composed := by
  rw [attachUnder, ensures_bind, ensures_discard, ensures_look]
  refine ⟨fun _ _ => ?_, fun _ => composed⟩
  rw [ensures_bind, ensures_look]
  refine ⟨fun below there => ?_, fun _ => composed⟩
  have kind : forest.isA Content.isFragment child = below.content.isFragment := isA_of_node? there
  rw [← kind, ← children_of_node? there]
  split
  · rename_i isFragment
    refine composed_attachMembers _ composed (composed.intact.agrees.nodup child)
      fun member among => ⟨?_, ?_⟩
    · exact (composed.intact.ready_of_fragment (Nat.zero_le _) lower isFragment among).2
    · obtain ⟨above, below, isAbove, isBelow, held⟩ :=
        composed.intact.agrees.fits member child (composed.intact.agrees.parent child member among)
      rw [isA, isBelow]
      refine Content.isDoctype_of_holds held ?_
      have noDocument := isDocument_of_isFragment isFragment
      rwa [isA, isAbove] at noDocument
  · rename_i noFragment
    have inside := node?_isSome_iff.mp (Option.isSome_iff_exists.mpr ⟨below, there⟩)
    exact (composed_attachOneUnder composed ⟨inside, lower, movable, by simpa using noFragment⟩
      noDoctype).mono (fun _ _ ends => ends.1) fun _ _ composed => composed

/-! ### Doctypes -/

/-- A document remembers the doctype that its row is composed with. -/
theorem prologs_remember (isDocument : forest.isA Content.isDocument document)
    (others : ∀ other, forest.isA Content.isDocument other → other ≠ document →
      forest.HasProlog other)
    (awaits : forest.Awaits document doctype) :
    Ensures (change document (remembering doctype)) forest (fun _ => Prologs) fun _ => Prologs := by
  rw [change, ensures_modify]
  exact awaits.prologs_update isDocument others (lasting_remembering doctype)
    (remembering_children doctype) fun found _ _ => remembering_content doctype found

/-- A doctype takes the place of the one there is, or comes in front of the element, or to
the end where there is no element. -/
theorem prologs_placeDoctype (composed : forest.Composed)
    (isDocument : forest.isA Content.isDocument document)
    (isDoctype : forest.isA Content.isDoctype doctype) (ready : forest.Ready document doctype) :
    Ensures (placeDoctype document doctype) forest (fun _ => Prologs) fun _ => Prologs := by
  have agrees := composed.intact.agrees
  have movable := ready.movable
  have noElement := isA_of_isA Content.isElement_of_isDoctype isDoctype
  have prolog : Prolog (forest.isA Content.isElement) (forest.isA Content.isDoctype)
      (forest.doctype? document) (forest.children document) := composed.prologs document isDocument
  have unplaced {after : Forest} (unplaced : Unplaced doctype forest after) : after.Prologs :=
    composed.prologs.unplaced movable unplaced
  have finish {step : Edit Unit}
      (places : Ensures step forest
        (fun _ after => (∀ id, after.content? id = forest.content? id) ∧
          (∀ other, forest.isA Content.isDocument other → other ≠ document →
            after.children other = forest.children other) ∧
          Prolog (forest.isA Content.isElement) (forest.isA Content.isDoctype) (some doctype)
            (after.children document)) fun _ => Prologs) :
      Ensures (step >>= fun _ => change document (remembering doctype)) forest (fun _ => Prologs) fun _ => Prologs := by
    rw [ensures_bind]
    refine places.mono (fun _ after ends => ?_) fun _ _ prologs => prologs
    obtain ⟨content, rows, composes⟩ := ends
    have same (test : Content → Bool) (id : NodeId) : after.isA test id = forest.isA test id := by
      rw [isA, isA, content]
    refine prologs_remember ((same _ document).trans isDocument) (fun other isDocument elsewhere => ?_)
      (composes.congr (fun id _ => same _ id) fun id _ => same _ id)
    rw [same] at isDocument
    exact (composed.prologs other isDocument).later (doctype?_of_content (content other))
      (rows other isDocument elsewhere) fun child _ => by rw [content]
  rw [placeDoctype, ensures_bind, ensures_get]
  dsimp only
  split
  · rename_i old isOld
    obtain ⟨remembers, there⟩ := Option.filter_eq_some_iff.mp isOld
    have among := agrees.child old document (by simpa using there)
    have wasDoctype : forest.isA Content.isDoctype old := by
      have known := prolog.known
      rw [remembers] at known
      exact (List.mem_filter.mp (known ▸ List.mem_singleton_self old :
        old ∈ (forest.children document).filter (forest.isA Content.isDoctype))).2
    refine finish ((ensures_replaceChild agrees ready.noFragment).mono (fun _ after ends => ?_)
      fun _ _ => unplaced)
    rcases ends with ⟨rfl, -⟩ | ⟨-, ousts⟩
    · rw [movable document (agrees.parent document doctype among)] at isDocument
      cases isDocument
    · obtain ⟨front, back, split, row⟩ := ousts.row_home movable isDocument
      refine ⟨ousts.content, fun _ => ousts.row movable, ?_⟩
      have wasElement := isA_of_isA Content.isElement_of_isDoctype wasDoctype
      rw [split] at prolog
      have exchanged := prolog.instead (noElement.trans wasElement.symm)
        (isDoctype.trans wasDoctype.symm)
      rwa [if_pos isDoctype, ← row] at exchanged
  · rename_i noOld
    have composes : Prolog (forest.isA Content.isElement) (forest.isA Content.isDoctype) none
        (forest.children document) :=
      (composed.prologs document isDocument).doctype?_eq_none agrees noOld ▸ prolog
    split
    · rename_i element isRoot
      refine finish ((ensures_insertBefore agrees ready.noFragment).mono (fun _ after joins => ?_)
        fun _ _ => unplaced)
      obtain ⟨front, back, isMark, split, row⟩ := joins.row_home movable isDocument
      refine ⟨joins.content, fun _ => joins.row movable, ?_⟩
      rw [row]
      refine (split ▸ composes).insert (fun id inFront => ?_) noElement isDoctype
      -- The first element is what the doctype comes in front of.
      by_contra isElement
      obtain ⟨rest, rfl⟩ := List.head?_eq_some_iff.mp isMark
      have distinct := split ▸ agrees.nodup document
      rw [rootElement?, split, List.find?_append] at isRoot
      cases first : front.find? (forest.isA Content.isElement) with
      | none => exact isElement (by simpa using List.find?_eq_none.mp first id inFront)
      | some found =>
          simp only [first, Option.some_or, Option.some.injEq] at isRoot
          have inFront := List.mem_of_find?_eq_some first
          rw [isRoot] at inFront
          exact (List.nodup_append.mp distinct).2.2 element inFront element List.mem_cons_self rfl
    · rename_i noRoot
      refine finish ((ensures_appendChild agrees ready).mono (fun _ after joins => ?_)
        fun _ _ => unplaced)
      obtain ⟨front, back, isLast, split, row⟩ := joins.row_home movable isDocument
      obtain rfl := List.head?_eq_none_iff.mp isLast
      refine ⟨joins.content, fun _ => joins.row movable, ?_⟩
      rw [row]
      refine (split ▸ composes).insert (fun id inFront => ?_) noElement isDoctype
      rw [List.append_nil] at split
      rw [rootElement?, split] at noRoot
      simpa using List.find?_eq_none.mp noRoot id inFront

end One

end Edit

end MarkupSpec
