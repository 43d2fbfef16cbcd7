import MarkupSpec.Proofs.Forest.DocumentProlog
import MarkupSpec.Proofs.Forest.HostPlacement
import MarkupSpec.Proofs.Position.BlindValues

/-!
# Two forests that grow alike

A spec that is built in two places makes the same nodes in both, under other numbers.  A
`Pairing` says what the two builds begin with: one forest, a host in it that the first
build puts its nodes under, and a target that the second one puts its nodes at, maybe in a
forest with a few more nodes.  The forests that the builds come to later are
`Pairing.Twins`: all new nodes have the same contents and children, but for their numbers,
and the same nodes were put into the rows of the two homes.

Forests stay twins when the same node is added to both (`Twins.add`), and when it gets its
place under nodes that go together (`Twins.houses`).

Known nodes are the same in both forests all along, with what is below them, since none of
them is one of the two homes (`Known.Rests`).
-/

namespace MarkupSpec

open Forest Edit

/-! ## What stays as it is -/

namespace Forest

/-- Of the old nodes only some that are touched have other children or another content than
before. -/
structure Frames (touched : NodeId → Prop) (before after : Forest) : Prop where
  intact : Intact {} after
  size : before.size ≤ after.size
  lasting : ∀ id < before.size,
    (after.content? id).map Content.lasting = (before.content? id).map Content.lasting
  noDocument : ∀ id, before.size ≤ id → after.isA Content.isDocument id = false
  content : ∀ id < before.size, ¬ touched id → after.content? id = before.content? id
  children : ∀ id < before.size, ¬ touched id → after.children id = before.children id

namespace Frames

variable {touched touched' : NodeId → Prop} {before middle after : Forest} {home node : NodeId}

theorem refl (intact : Intact {} before) : Frames touched before before where
  intact := intact
  size := Nat.le_refl _
  lasting _ _ := rfl
  noDocument id beyond := by rw [isA, content?_eq_none beyond]; rfl
  content _ _ _ := rfl
  children _ _ _ := rfl

theorem isA_of_lt (frames : Frames touched before after) {test : Content → Bool}
    (lasts : ∀ content, test content.lasting = test content) {id : NodeId}
    (inside : id < before.size) : after.isA test id = before.isA test id :=
  isA_of_lasting (frames.lasting id inside) lasts

theorem trans (onFirst : Frames touched before middle) (onSecond : Frames touched' middle after)
    (looser : ∀ id < before.size, touched' id → touched id) : Frames touched before after where
  intact := onSecond.intact
  size := Nat.le_trans onFirst.size onSecond.size
  lasting id inside := (onSecond.lasting id (Nat.lt_of_lt_of_le inside onFirst.size)).trans
    (onFirst.lasting id inside)
  noDocument id new := by
    rcases Nat.lt_or_ge id middle.size with known | late
    · rw [onSecond.isA_of_lt Content.isDocument_lasting known]
      exact onFirst.noDocument id new
    · exact onSecond.noDocument id late
  content id inside untouched := by
    rw [onSecond.content id (Nat.lt_of_lt_of_le inside onFirst.size)
      (fun may => untouched (looser id inside may))]
    exact onFirst.content id inside untouched
  children id inside untouched := by
    rw [onSecond.children id (Nat.lt_of_lt_of_le inside onFirst.size)
      (fun may => untouched (looser id inside may))]
    exact onFirst.children id inside untouched

/-- What was made leaves alone what there was. -/
theorem of_intact (intact : Intact {} before) (made : Intact before after)
    (noDocument : ∀ id, before.size ≤ id → after.isA Content.isDocument id = false) :
    Frames touched before after where
  intact := intact.trans made
  size := made.size
  lasting id inside := by rw [made.content id inside]
  noDocument := noDocument
  content id inside _ := made.content id inside
  children id inside _ := made.children id inside

theorem of_houses {list : List NodeId} {gone : Option NodeId}
    (houses : Houses home list gone node before after) :
    Frames (fun id => id = home ∨ id = node) before after where
  intact := houses.intact
  size := Nat.le_of_eq houses.size.symm
  lasting id _ := by rw [houses.content]
  noDocument id beyond := by
    rw [isA, content?_eq_none (houses.size ▸ beyond)]
    rfl
  content id _ _ := houses.content id
  children id _ untouched := by
    rw [not_or] at untouched
    exact houses.children_of_ne untouched.1 fun _ => untouched.2

end Frames

theorem Agrees.parent?_eq_iff {forest : Forest} {id home : NodeId} (agrees : forest.Agrees) :
    forest.parent? id = some home ↔ id ∈ forest.children home :=
  ⟨agrees.child id home, agrees.parent home id⟩

theorem currentDoctype?_eq_some {forest : Forest} {document doctype : NodeId}
    (agrees : forest.Agrees) : currentDoctype? forest document = some doctype ↔
      forest.doctype? document = some doctype ∧ doctype ∈ forest.children document := by
  rw [currentDoctype?, Option.filter_eq_some_iff, beq_iff_eq, agrees.parent?_eq_iff]

/-- Which doctype a document has depends on the document and on its row only. -/
theorem currentDoctype?_congr {before after : Forest} {document : NodeId} (agrees : before.Agrees)
    (agrees' : after.Agrees) (content : after.content? document = before.content? document)
    (row : after.children document = before.children document) :
    currentDoctype? after document = currentDoctype? before document := by
  refine Option.ext fun doctype => ?_
  rw [currentDoctype?_eq_some agrees', currentDoctype?_eq_some agrees, row,
    doctype?_of_content content]

end Forest

/-! ## Known nodes -/

namespace Known

/-- Known nodes exist, and so do their children, which are known too. -/
structure Closed (known : Known) (origin : Forest) : Prop where
  inside : ∀ id, known.node id → id < origin.size
  children : ∀ id, known.node id → ∀ child ∈ origin.children id, known.node child

/-- Known nodes are as they were. -/
structure Rests (known : Known) (origin forest : Forest) : Prop where
  content : ∀ id, known.node id →
    (forest.content? id).map Content.lasting = (origin.content? id).map Content.lasting
  children : ∀ id, known.node id → origin.isA Content.isDocument id = false →
    forest.children id = origin.children id

variable {known : Known} {origin before after : Forest}

theorem Rests.refl (known : Known) (origin : Forest) : known.Rests origin origin :=
  ⟨fun _ _ => rfl, fun _ _ _ => rfl⟩

theorem Rests.frames {touched : NodeId → Prop} (rests : known.Rests origin before)
    (frames : Frames touched before after) (inside : ∀ id, known.node id → id < before.size)
    (apart : ∀ id, known.node id → touched id → before.isA Content.isDocument id) :
    known.Rests origin after where
  content id isKnown :=
    (frames.lasting id (inside id isKnown)).trans (rests.content id isKnown)
  children id isKnown noDocument := by
    rw [frames.children id (inside id isKnown) fun may => ?_]
    · exact rests.children id isKnown noDocument
    · have isDocument := apart id isKnown may
      rw [isA_of_lasting (rests.content id isKnown) Content.isDocument_lasting, noDocument]
        at isDocument
      cases isDocument

/-- A known node is described as it was. -/
theorem Rests.describe (rests : known.Rests origin after) {id : NodeId} (isKnown : known.node id) :
    after.describe id = origin.describe id :=
  describe_of_lasting (rests.content id isKnown)

end Known

/-! ## Pairings -/

/-- What two builds of the same spec begin with: a forest, in it a host that the new nodes
come under, the nodes that values may go by, and the documents that nodes are made for. -/
structure Stage where
  known : Known
  forest : Forest
  intact : Intact {} forest
  closed : known.Closed forest
  home : NodeId
  isHost : forest.IsHost home
  apart : ∀ id, known.node id → id ≠ home
  document : NodeId
  document' : NodeId
  isDocument : forest.isA Content.isDocument document
  isDocument' : forest.isA Content.isDocument document'

/-- Where the second of two builds puts its nodes, while the first one puts them under the
home. -/
structure Pairing extends Stage where
  /-- By how much the numbers of new nodes are greater in the second forest. -/
  shift : Nat
  /-- The forest that the second build goes on in. -/
  second : Forest
  grown : Intact forest second
  size : second.size = forest.size + shift
  target : Target
  /-- The host that nodes come under there. -/
  hold : NodeId
  isHost' : second.IsHost hold
  apart' : ∀ id, known.node id → id ≠ hold

namespace Pairing

variable {pairing : Pairing}

/-- The number in the second forest of a node of the first one. -/
def twin (pairing : Pairing) (id : NodeId) : NodeId :=
  if id < pairing.forest.size then id else id + pairing.shift

theorem twin_of_lt {id : NodeId} (inside : id < pairing.forest.size) : pairing.twin id = id :=
  if_pos inside

theorem twin_of_le {id : NodeId} (new : pairing.forest.size ≤ id) :
    pairing.twin id = id + pairing.shift :=
  if_neg (Nat.not_lt.mpr new)

theorem map_twin_of_lt {list : List NodeId} (inside : ∀ id ∈ list, id < pairing.forest.size) :
    list.map pairing.twin = list := by
  rw [List.map_congr_left fun id among => twin_of_lt (inside id among), List.map_id']

/-- Different nodes have different twins. -/
theorem twin_injective (pairing : Pairing) : Function.Injective pairing.twin := by
  intro id other same
  rcases Nat.lt_or_ge id pairing.forest.size with early | new <;>
    rcases Nat.lt_or_ge other pairing.forest.size with early' | new'
  · rwa [twin_of_lt early, twin_of_lt early'] at same
  · rw [twin_of_lt early, twin_of_le new'] at same
    exact absurd (same ▸ early) (Nat.not_lt.mpr (Nat.le_add_right_of_le new'))
  · rw [twin_of_le new, twin_of_lt early'] at same
    exact absurd (same ▸ early') (Nat.not_lt.mpr (Nat.le_add_right_of_le new))
  · rw [twin_of_le new, twin_of_le new'] at same
    exact Nat.add_right_cancel same

theorem intact' (pairing : Pairing) : Intact {} pairing.second := pairing.intact.trans pairing.grown

/-- The new nodes of both forests are the same, but for their numbers, and so are those
that were put in the rows of the homes. -/
structure Twins (pairing : Pairing) (before after : Forest) : Prop where
  frames : Frames (fun id => id = pairing.home ∨ id = pairing.document) pairing.forest before
  frames' : Frames (fun id => id = pairing.hold ∨ id = pairing.document') pairing.second after
  size : after.size = before.size + pairing.shift
  content : ∀ id, pairing.forest.size ≤ id →
    (after.content? (id + pairing.shift)).map Content.lasting =
      (before.content? id).map Content.lasting
  children : ∀ id, pairing.forest.size ≤ id →
    after.children (id + pairing.shift) = (before.children id).map (· + pairing.shift)
  tops : ∃ tops, (∀ id ∈ tops, pairing.forest.size ≤ id) ∧
    before.children pairing.home = pairing.forest.children pairing.home ++ tops ∧
    pairing.target.Inserts (tops.map (· + pairing.shift)) (pairing.second.children pairing.hold)
      (after.children pairing.hold)
  /-- If nodes are made for one document, its row is the same too. -/
  documents : pairing.document' = pairing.document →
    after.children pairing.document = (before.children pairing.document).map pairing.twin ∧
      currentDoctype? after pairing.document =
        (currentDoctype? before pairing.document).map pairing.twin

/-- Two nodes that go together, and that new nodes may come under: the homes, if new nodes
come to the end of their rows, or new nodes that are hosts. -/
structure Bears (pairing : Pairing) (before : Forest) (bearer bearer' : NodeId) : Prop where
  isHost : before.IsHost bearer
  goes : pairing.target.isUnder ∧ bearer = pairing.home ∧ bearer' = pairing.hold ∨
    pairing.forest.size ≤ bearer ∧ bearer' = bearer + pairing.shift

variable {before before' after after' : Forest} {bearer bearer' node : NodeId}

theorem known_lt {id : NodeId} (isKnown : pairing.known.node id) : id < pairing.forest.size :=
  pairing.closed.inside id isKnown

theorem lt_second {id : NodeId} (inside : id < pairing.forest.size) : id < pairing.second.size :=
  Nat.lt_of_lt_of_le inside pairing.grown.size

theorem isDocument_second {id : NodeId} (isDocument : pairing.forest.isA Content.isDocument id) :
    pairing.second.isA Content.isDocument id := by
  rw [isA, pairing.grown.content id (lt_size_of_isA isDocument)]
  exact isDocument

/-- If a document has kept its row, all in it is its own twin. -/
theorem documents_of_same {document : NodeId} (agrees : before.Agrees) (agrees' : after.Agrees)
    (content : after.content? document = before.content? document)
    (row : after.children document = before.children document)
    (early : ∀ id ∈ before.children document, id < pairing.forest.size) :
    after.children document = (before.children document).map pairing.twin ∧
      currentDoctype? after document = (currentDoctype? before document).map pairing.twin := by
  refine ⟨by rw [row, map_twin_of_lt early], ?_⟩
  rw [currentDoctype?_congr agrees agrees' content row]
  cases current : currentDoctype? before document with
  | none => rfl
  | some doctype =>
      rw [Option.map_some, twin_of_lt (early doctype ((currentDoctype?_eq_some agrees).mp current).2)]

/-- The builds begin with twins. -/
theorem twins_start (pairing : Pairing) : pairing.Twins pairing.forest pairing.second where
  frames := .refl pairing.intact
  frames' := .refl pairing.intact'
  size := pairing.size
  content id new := by
    rw [content?_eq_none new,
      content?_eq_none (by rw [pairing.size]; exact Nat.add_le_add_right new _)]
  children id new := by
    rw [children_eq_nil new,
      children_eq_nil (by rw [pairing.size]; exact Nat.add_le_add_right new _)]
    rfl
  tops := ⟨[], List.forall_mem_nil _, (List.append_nil _).symm, Target.inserts_nil _ _⟩
  documents _ := by
    have inside := lt_size_of_isA pairing.isDocument
    exact documents_of_same pairing.intact.agrees pairing.intact'.agrees
      (pairing.grown.content _ inside) (pairing.grown.children _ inside)
      fun _ among => pairing.intact.agrees.lt_size_of_mem among

namespace Twins

theorem isDocument (twins : pairing.Twins before after) :
    before.isA Content.isDocument pairing.document := by
  rw [twins.frames.isA_of_lt Content.isDocument_lasting (lt_size_of_isA pairing.isDocument)]
  exact pairing.isDocument

theorem isDocument' (twins : pairing.Twins before after) :
    after.isA Content.isDocument pairing.document' := by
  have isDocument := isDocument_second pairing.isDocument'
  rw [twins.frames'.isA_of_lt Content.isDocument_lasting (lt_size_of_isA isDocument)]
  exact isDocument

theorem restsBefore (twins : pairing.Twins before after) :
    pairing.known.Rests pairing.forest before := by
  refine (Known.Rests.refl _ _).frames twins.frames (fun _ => known_lt) fun id isKnown may => ?_
  rcases may with isHome | rfl
  · exact absurd isHome (pairing.apart id isKnown)
  · exact pairing.isDocument

theorem restsAfter (twins : pairing.Twins before after) :
    pairing.known.Rests pairing.forest after := by
  have rests : pairing.known.Rests pairing.forest pairing.second :=
    ⟨fun id isKnown => by rw [pairing.grown.content id (known_lt isKnown)],
      fun id isKnown _ => pairing.grown.children id (known_lt isKnown)⟩
  refine rests.frames twins.frames' (fun _ isKnown => lt_second (known_lt isKnown))
    fun id isKnown may => ?_
  rcases may with isHold | rfl
  · exact absurd isHold (pairing.apart' id isKnown)
  · exact isDocument_second pairing.isDocument'

theorem describe (twins : pairing.Twins before after) (id : NodeId)
    (isKnown : pairing.known.node id) : after.describe id = before.describe id := by
  rw [twins.restsAfter.describe isKnown, twins.restsBefore.describe isKnown]

/-- Twins are of the same kind. -/
theorem isA_twin (twins : pairing.Twins before after) {test : Content → Bool}
    (lasts : ∀ content, test content.lasting = test content) (id : NodeId) :
    after.isA test (pairing.twin id) = before.isA test id := by
  rcases Nat.lt_or_ge id pairing.forest.size with early | new
  · rw [twin_of_lt early, twins.frames.isA_of_lt lasts early,
      twins.frames'.isA_of_lt lasts (lt_second early), isA, isA, pairing.grown.content id early]
  · rw [twin_of_le new]
    exact isA_of_lasting (twins.content id new) lasts

theorem isA_new (twins : pairing.Twins before after) {test : Content → Bool}
    (lasts : ∀ content, test content.lasting = test content) {id : NodeId}
    (new : pairing.forest.size ≤ id) : after.isA test (id + pairing.shift) = before.isA test id := by
  rw [← twin_of_le new]
  exact twins.isA_twin lasts id

/-- The rows of documents stay the same when they do not change. -/
theorem documents_later (twins : pairing.Twins before after) (agrees : before'.Agrees)
    (agrees' : after'.Agrees)
    (content : before'.content? pairing.document = before.content? pairing.document)
    (content' : after'.content? pairing.document' = after.content? pairing.document')
    (row : before'.children pairing.document = before.children pairing.document)
    (row' : after'.children pairing.document' = after.children pairing.document')
    (same : pairing.document' = pairing.document) :
    after'.children pairing.document = (before'.children pairing.document).map pairing.twin ∧
      currentDoctype? after' pairing.document =
        (currentDoctype? before' pairing.document).map pairing.twin := by
  obtain ⟨rows, doctypes⟩ := twins.documents same
  rw [same] at content' row'
  rw [row, row', currentDoctype?_congr twins.frames.intact.agrees agrees content row,
    currentDoctype?_congr twins.frames'.intact.agrees agrees' content' row']
  exact ⟨rows, doctypes⟩

/-- The same node is added to both forests. -/
theorem add (twins : pairing.Twins before after) {content : Content}
    (noDocument : content.isDocument = false) (owner owner' : Option NodeId) :
    pairing.Twins (before.add { content, owner }) (after.add { content, owner := owner' }) := by
  have added {forest : Forest} (intact : Intact {} forest) (owner : Option NodeId) :
      Frames (fun _ => False) forest (forest.add { content, owner }) :=
    .of_intact intact ((Intact.refl intact.agrees).add content owner) (grows_add noDocument).noDocument
  have frames := added twins.frames.intact owner
  have frames' := added twins.frames'.intact owner'
  have inside := lt_size_of_isA twins.isDocument
  have inside' := lt_size_of_isA twins.isDocument'
  exact
    { frames := twins.frames.trans frames fun _ _ => False.elim
      frames' := twins.frames'.trans frames' fun _ _ => False.elim
      size := by rw [size_add, size_add, twins.size, Nat.add_right_comm]
      content := fun id new => by
        by_cases last : id = before.size
        · simp [content?, last, twins.size]
        · have last' : id + pairing.shift ≠ after.size := by
            rw [twins.size]
            exact fun same => last (Nat.add_right_cancel same)
          simp only [content?, node?_add, if_neg last, if_neg last']
          exact twins.content id new
      children := fun id new => by
        rw [children_add, children_add]
        exact twins.children id new
      tops := by
        rw [children_add, children_add]
        exact twins.tops
      documents := twins.documents_later frames.intact.agrees frames'.intact.agrees
        (frames.content _ inside id) (frames'.content _ inside' id)
        (frames.children _ inside id) (frames'.children _ inside' id) }

/-- What a new node brings with it is the same in both. -/
theorem bundle (twins : pairing.Twins before after) (new : pairing.forest.size ≤ node) :
    after.bundle (node + pairing.shift) = (before.bundle node).map (· + pairing.shift) := by
  unfold Forest.bundle
  rw [twins.isA_new Content.isFragment_lasting new]
  split
  · exact twins.children node new
  · rfl

theorem new_of_mem_bundle (twins : pairing.Twins before after) (new : pairing.forest.size ≤ node) :
    ∀ id ∈ before.bundle node, pairing.forest.size ≤ id := by
  intro id among
  unfold Forest.bundle at among
  split at among
  · have there := twins.frames.intact.agrees.parent node id among
    exact Nat.le_trans new (Nat.le_of_lt (twins.frames.intact.under id node (Nat.zero_le _) there).2)
  · rw [List.mem_singleton.mp among]
    exact new

section Houses

variable {list list' : List NodeId} {gone gone' : Option NodeId}

/-- Rows of new nodes stay the same where the node is not placed.  The row of the node itself
is empty then, if it is a fragment. -/
theorem children_later (twins : pairing.Twins before after)
    (houses : Houses bearer list gone node before before')
    (houses' : Houses bearer' list' gone' (node + pairing.shift) after after') {id : NodeId}
    (isNew : pairing.forest.size ≤ id) (other : id ≠ bearer)
    (other' : id + pairing.shift ≠ bearer') :
    after'.children (id + pairing.shift) = (before'.children id).map (· + pairing.shift) := by
  have sameKind := twins.isA_new Content.isFragment_lasting isNew
  by_cases emptied : before.isA Content.isFragment id ∧ id = node
  · obtain ⟨isFragment, rfl⟩ := emptied
    rw [houses.emptied isFragment, houses'.emptied (sameKind.trans isFragment)]
    rfl
  · rw [houses.children_of_ne other fun isFragment same => emptied ⟨isFragment, same⟩,
      houses'.children_of_ne other' fun isFragment same =>
        emptied ⟨sameKind.symm.trans isFragment, Nat.add_right_cancel same⟩]
    exact twins.children id isNew

/-- The same new node gets its place in both forests; what remains are the rows. -/
theorem placed (twins : pairing.Twins before after) (new : pairing.forest.size ≤ node)
    (houses : Houses bearer list gone node before before')
    (houses' : Houses bearer' list' gone' (node + pairing.shift) after after')
    (isHost : before.IsHost bearer) (isHost' : after.IsHost bearer')
    (early : bearer < pairing.forest.size → bearer = pairing.home)
    (early' : bearer' < pairing.second.size → bearer' = pairing.hold)
    (children : ∀ id, pairing.forest.size ≤ id →
      after'.children (id + pairing.shift) = (before'.children id).map (· + pairing.shift))
    (tops : ∃ tops, (∀ id ∈ tops, pairing.forest.size ≤ id) ∧
      before'.children pairing.home = pairing.forest.children pairing.home ++ tops ∧
      pairing.target.Inserts (tops.map (· + pairing.shift)) (pairing.second.children pairing.hold)
        (after'.children pairing.hold)) : pairing.Twins before' after' := by
  have isDocument := twins.isDocument
  have isDocument' := twins.isDocument'
  have apart {forest : Forest} {bearer document : NodeId} (isHost : forest.IsHost bearer)
      (isDocument : forest.isA Content.isDocument document) : document ≠ bearer := by
    rintro rfl
    rw [isHost.isDocument] at isDocument
    cases isDocument
  have noFragment {forest : Forest} {document node : NodeId}
      (isDocument : forest.isA Content.isDocument document)
      (isFragment : forest.isA Content.isFragment document) : document ≠ node := by
    rw [isDocument_of_isFragment isFragment] at isDocument
    cases isDocument
  refine
    { frames := twins.frames.trans (.of_houses houses) fun id inside may => ?_
      frames' := twins.frames'.trans (.of_houses houses') fun id inside may => ?_
      size := by rw [houses.size, houses'.size, twins.size]
      content := fun id isNew => by
        rw [houses.content, houses'.content, twins.content id isNew]
      children, tops
      documents := twins.documents_later houses.intact.agrees houses'.intact.agrees
        (houses.content _) (houses'.content _)
        (houses.children_of_ne (apart isHost isDocument) (noFragment isDocument))
        (houses'.children_of_ne (apart isHost' isDocument') (noFragment isDocument')) }
  · rcases may with rfl | rfl
    · exact .inl (early inside)
    · exact absurd inside (Nat.not_lt.mpr new)
  · rcases may with rfl | rfl
    · exact .inl (early' inside)
    · rw [pairing.size] at inside
      exact absurd inside (Nat.not_lt.mpr (Nat.add_le_add_right new _))

/-- The same new node is put in the rows of the homes. -/
theorem houses_home (twins : pairing.Twins before after) (new : pairing.forest.size ≤ node)
    (houses : Houses pairing.home (before.children pairing.home ++ before.bundle node) gone node
      before before')
    (houses' : Houses pairing.hold list' gone' (node + pairing.shift) after after')
    (inserts : ∀ tops, before.children pairing.home = pairing.forest.children pairing.home ++ tops →
      pairing.target.Inserts (tops.map (· + pairing.shift)) (pairing.second.children pairing.hold)
        (after.children pairing.hold) →
      pairing.target.Inserts ((tops ++ before.bundle node).map (· + pairing.shift))
        (pairing.second.children pairing.hold) list') : pairing.Twins before' after' := by
  have early := pairing.isHost.lt_size
  have early' := pairing.isHost'.lt_size
  have isHost := pairing.isHost.later (twins.frames.lasting _ early)
  have isHost' := pairing.isHost'.later (twins.frames'.lasting _ early')
  refine twins.placed new houses houses' isHost isHost' (fun _ => rfl) (fun _ => rfl)
    (fun id isNew => ?_) ?_
  · refine twins.children_later houses houses' isNew ?_ ?_
    · exact Nat.ne_of_gt (Nat.lt_of_lt_of_le early isNew)
    · rw [pairing.size] at early'
      exact Nat.ne_of_gt (Nat.lt_of_lt_of_le early' (Nat.add_le_add_right isNew _))
  · obtain ⟨tops, areNew, row, row'⟩ := twins.tops
    refine ⟨tops ++ before.bundle node, ?_, ?_, ?_⟩
    · rw [List.forall_mem_append]
      exact ⟨areNew, twins.new_of_mem_bundle new⟩
    · rw [houses.alters.row, row, List.append_assoc]
    · rw [houses'.alters.row]
      exact inserts tops row row'

/-- The same new node is put behind the children of new nodes that go together. -/
theorem houses_new (twins : pairing.Twins before after) (new : pairing.forest.size ≤ node)
    (isNew : pairing.forest.size ≤ bearer) (isHost : before.IsHost bearer)
    (houses : Houses bearer (before.children bearer ++ before.bundle node) gone node before before')
    (houses' : Houses (bearer + pairing.shift)
      (after.children (bearer + pairing.shift) ++ after.bundle (node + pairing.shift)) gone'
      (node + pairing.shift) after after') : pairing.Twins before' after' := by
  have early := pairing.isHost.lt_size
  have early' : pairing.hold < pairing.forest.size + pairing.shift :=
    pairing.size ▸ pairing.isHost'.lt_size
  have isHost' : after.IsHost (bearer + pairing.shift) :=
    isHost.imp (twins.isA_new Content.isElement_lasting isNew).trans
      (twins.isA_new Content.isFragment_lasting isNew).trans
  refine twins.placed new houses houses' isHost isHost'
    (fun inside => absurd inside (Nat.not_lt.mpr isNew)) (fun inside => ?_) (fun id isNew' => ?_) ?_
  · rw [pairing.size] at inside
    exact absurd inside (Nat.not_lt.mpr (Nat.add_le_add_right isNew _))
  · by_cases here : id = bearer
    · subst here
      rw [houses.alters.row, houses'.alters.row, twins.children id isNew, twins.bundle new,
        List.map_append]
    · exact twins.children_later houses houses' isNew' here fun same =>
        here (Nat.add_right_cancel same)
  · obtain ⟨tops, areNew, row, row'⟩ := twins.tops
    refine ⟨tops, areNew, ?_, ?_⟩
    · rw [houses.children_of_ne (Nat.ne_of_lt (Nat.lt_of_lt_of_le early isNew))
        fun _ => Nat.ne_of_lt (Nat.lt_of_lt_of_le early new)]
      exact row
    · rw [houses'.children_of_ne
        (Nat.ne_of_lt (Nat.lt_of_lt_of_le early' (Nat.add_le_add_right isNew _)))
        fun _ => Nat.ne_of_lt (Nat.lt_of_lt_of_le early' (Nat.add_le_add_right new _))]
      exact row'

/-- The same new node gets its place in both forests, behind the children of nodes that go
together. -/
theorem houses (twins : pairing.Twins before after) (bears : pairing.Bears before bearer bearer')
    (new : pairing.forest.size ≤ node)
    (houses : Houses bearer (before.children bearer ++ before.bundle node) gone node before before')
    (houses' : Houses bearer' (after.children bearer' ++ after.bundle (node + pairing.shift)) gone'
      (node + pairing.shift) after after') : pairing.Twins before' after' := by
  obtain ⟨isUnder, rfl, rfl⟩ | ⟨isNew, rfl⟩ := bears.goes
  · refine twins.houses_home new houses houses' fun tops row row' => ?_
    rw [Target.inserts_append isUnder] at row' ⊢
    rw [row', twins.bundle new, List.map_append, List.append_assoc]
  · exact twins.houses_new new isNew bears.isHost houses houses'

end Houses

end Twins

namespace Bears

/-- The node that goes with a host is one too. -/
theorem isHost' (bears : pairing.Bears before bearer bearer') (twins : pairing.Twins before after) :
    after.IsHost bearer' := by
  obtain ⟨-, rfl, rfl⟩ | ⟨isNew, rfl⟩ := bears.goes
  · exact pairing.isHost'.later (twins.frames'.lasting _ pairing.isHost'.lt_size)
  · exact bears.isHost.imp (twins.isA_new Content.isElement_lasting isNew).trans
      (twins.isA_new Content.isFragment_lasting isNew).trans

/-- Nodes go together as long as they are there. -/
theorem later (bears : pairing.Bears before bearer bearer')
    (same : (before'.content? bearer).map Content.lasting =
      (before.content? bearer).map Content.lasting) : pairing.Bears before' bearer bearer' where
  isHost := bears.isHost.later same
  goes := bears.goes

end Bears

end Pairing

end MarkupSpec
