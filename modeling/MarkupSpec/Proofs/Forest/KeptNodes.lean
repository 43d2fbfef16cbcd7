import Mathlib.Data.List.Find
import MarkupSpec.Proofs.Forest.NodeCreation
import MarkupSpec.Proofs.Forest.Splice

/-!
# What becomes of new nodes

The nodes that were made from a number on get their places below a home, and keep
them (`Forest.Kept`).  The one that gives its place up again is an element of a document,
when a later element comes there (`Forest.Displaced`).  Fragments are emptied as they
are attached, but for those that are pending.

With that goes a row of nodes for every node that is no document, which are among its
children in their order.
-/

namespace MarkupSpec

open Forest Edit Build

/-- Is the node one that can be inside of an element: an element itself, a text, a cdata
section, a comment or an instruction? -/
def Content.isInner (content : Content) : Bool := Content.fragment.holds content

/-- What is inside is no fragment. -/
theorem Content.isFragment_of_isInner {content : Content} (isInner : content.isInner) :
    content.isFragment = false :=
  Content.isFragment_of_holds isInner

namespace Forest

theorem isInner_of_isElement {forest : Forest} {id : NodeId}
    (isElement : forest.isA Content.isElement id) : forest.isA Content.isInner id := by
  unfold isA at isElement ⊢
  cases found : forest.content? id with
  | none => simp [found] at isElement
  | some content =>
      rw [found] at isElement
      cases content <;> first | rfl | cases isElement

/-- An element that is out of a document, which has one that was made later. -/
structure Displaced (forest : Forest) (document id : NodeId) : Prop where
  isDocument : forest.isA Content.isDocument document
  isElement : forest.isA Content.isElement id
  top : forest.parent? id = none
  later : ∃ root, forest.rootElement? document = some root ∧ id < root

/-- The nodes that were made from a number on have a place below a home or are
displaced from it, and fragments among them are empty.  Pending ones need not be so.
Rows of nodes are among the children of the nodes they belong to. -/
structure Kept (target : Target) (home start : NodeId) (pending : List NodeId)
    (row : NodeId → List NodeId) (forest : Forest) : Prop where
  placed : ∀ id, start ≤ id → forest.isA Content.isInner id → id ∉ pending →
    (∃ parent, forest.parent? id = some parent ∧ (parent = home ∨ start ≤ parent)) ∨
      target.isUnder ∧ forest.Displaced home id
  emptied : ∀ id, start ≤ id → forest.isA Content.isFragment id → id ∉ pending →
    forest.children id = []
  rows : ∀ id, forest.isA Content.isDocument id = false → (row id).Sublist (forest.children id)
  doctypes : ∀ document doctype, forest.doctype? document = some doctype →
    doctype < start ∨ forest.isA Content.isDoctype doctype

/-- A node that new ones may come under. -/
structure Bears (target : Target) (home start : NodeId) (pending : List NodeId) (forest : Forest)
    (id : NodeId) : Prop where
  inside : id < forest.size
  isHome : target.isUnder ∧ id = home ∨ start ≤ id ∧ forest.isA Content.isDocument id = false
  holder : start ≤ id → forest.isA Content.isFragment id → id ∈ pending

variable {target : Target} {home start id node holder old : NodeId} {pending pending' : List NodeId}
  {row row' : NodeId → List NodeId} {list front back : List NodeId} {gone emptied : Option NodeId}
  {before middle after forest : Forest}

/-! ## Where the element of a document is -/

theorem rootElement?_eq {document : NodeId}
    (row : after.children document = before.children document)
    (same : ∀ child ∈ before.children document,
      after.isA Content.isElement child = before.isA Content.isElement child) :
    after.rootElement? document = before.rootElement? document := by
  unfold rootElement?
  rw [row]
  exact List.find?_congr same

/-- A member of a list is found still if another one that counts for nothing takes its
place. -/
theorem find?_instead {test : NodeId → Bool} {found : NodeId}
    (first : (front ++ old :: back).find? test = some found) (other : found ≠ old)
    (fails : test node = false) : (front ++ node :: back).find? test = some found := by
  rw [List.find?_append] at first ⊢
  cases isFirst : front.find? test with
  | some early =>
      rw [isFirst] at first
      exact first
  | none =>
      rw [isFirst] at first
      rw [Option.none_or, List.find?_cons] at first ⊢
      rw [fails]
      split at first
      · exact absurd (Option.some.inj first).symm other
      · exact first

/-- What takes the place of the first member that counts is the first one now. -/
theorem find?_replaced {test : NodeId → Bool} (first : (front ++ old :: back).find? test = some old)
    (other : old ∉ front) (holds : test node) :
    (front ++ node :: back).find? test = some node := by
  rw [List.find?_append] at first ⊢
  cases isFirst : front.find? test with
  | some early =>
      rw [isFirst] at first
      obtain rfl : early = old := Option.some.inj first
      exact absurd (List.mem_of_find?_eq_some isFirst) other
  | none => simp [holds]

/-- A node comes under a home: behind its children, or in the place of the element of a
document. -/
inductive Arrives (home node : NodeId) (emptied : Option NodeId) (before after : Forest) : Prop where
  | last (alters : Alters home (before.children home ++ [node]) none emptied before after)
  | root (front : List NodeId) (old : NodeId) (back : List NodeId)
      (isDocument : before.isA Content.isDocument home)
      (isElement : before.isA Content.isElement node)
      (split : before.children home = front ++ old :: back)
      (isRoot : before.rootElement? home = some old)
      (alters : Alters home (front ++ node :: back) (some old) emptied before after)

theorem Arrives.content (arrives : Arrives home node emptied before after)
    (size : after.size = before.size) (id : NodeId) : after.content? id = before.content? id := by
  have known {list : List NodeId} {gone : Option NodeId}
      (alters : Alters home list gone emptied before after) :
      after.content? id = before.content? id := by
    rcases Nat.lt_or_ge id before.size with inside | beyond
    · exact alters.content id inside
    · rw [content?_eq_none beyond, content?_eq_none (size ▸ beyond)]
  cases arrives with
  | last alters => exact known alters
  | root _ _ _ _ _ _ _ alters => exact known alters

/-- The element of a home is the one that it had, or the one that arrived. -/
theorem Arrives.root_eq (arrives : Arrives home node emptied before after)
    (size : after.size = before.size) {root : NodeId} (isRoot : after.rootElement? home = some root) :
    before.rootElement? home = some root ∨ root = node := by
  have same (id : NodeId) : after.isA Content.isElement id = before.isA Content.isElement id := by
    rw [isA, isA, arrives.content size]
  unfold rootElement? at isRoot ⊢
  rw [List.find?_congr fun child _ => same child] at isRoot
  cases arrives with
  | last alters =>
      rw [alters.row, List.find?_append] at isRoot
      cases was : (before.children home).find? (before.isA Content.isElement) with
      | some first =>
          rw [was] at isRoot
          exact .inl isRoot
      | none =>
          rw [was] at isRoot
          exact .inr (by simpa using List.mem_of_find?_eq_some isRoot)
  | root front old back _ isElement split _ alters =>
      rw [alters.row, List.find?_append] at isRoot
      rw [split, List.find?_append]
      cases was : front.find? (before.isA Content.isElement) with
      | some first =>
          rw [was] at isRoot
          exact .inl isRoot
      | none =>
          rw [was, Option.none_or, List.find?_cons_of_pos isElement] at isRoot
          exact .inr (Option.some.inj isRoot).symm

/-- A row that is longer by nodes that came under its home. -/
def extend (row : NodeId → List NodeId) (home : NodeId) (nodes : List NodeId) :
    NodeId → List NodeId :=
  fun id => if id = home then row id ++ nodes else row id

@[simp]
theorem extend_nil (row : NodeId → List NodeId) (home : NodeId) : extend row home [] = row := by
  funext id
  simp [extend]

@[simp]
theorem extend_extend (row : NodeId → List NodeId) (home : NodeId) (nodes more : List NodeId) :
    extend (extend row home nodes) home more = extend row home (nodes ++ more) := by
  funext id
  unfold extend
  split <;> simp

theorem Bears.later (bears : Bears target home start pending before id)
    (size : after.size = before.size) (content : ∀ id, after.content? id = before.content? id) :
    Bears target home start pending after id where
  inside := size ▸ bears.inside
  isHome := by
    rw [isA, content]
    exact bears.isHome
  holder := by
    rw [isA, content]
    exact bears.holder

namespace Kept

/-- Rows may be forgotten. -/
theorem fewer (kept : Kept target home start pending row forest)
    (fewer : ∀ id, (row' id).Sublist (row id)) : Kept target home start pending row' forest where
  placed := kept.placed
  emptied := kept.emptied
  rows id noDocument := (fewer id).trans (kept.rows id noDocument)
  doctypes := kept.doctypes

/-- Nodes that are not there have no rows. -/
theorem row_eq_nil (kept : Kept target home start pending row forest) (beyond : forest.size ≤ id) :
    row id = [] := by
  have sublist := kept.rows id (by rw [isA, content?_eq_none beyond]; rfl)
  rw [children_eq_nil beyond] at sublist
  exact List.sublist_nil.mp sublist

/-- A pending node that is not inside, and empty if it is a fragment, need not be
pending. -/
theorem settle (kept : Kept target home start (node :: pending) row forest)
    (notInner : forest.isA Content.isInner node = false)
    (empty : forest.isA Content.isFragment node → forest.children node = []) :
    Kept target home start pending row forest where
  placed id new isInner other := by
    refine kept.placed id new isInner fun among => ?_
    rcases List.mem_cons.mp among with rfl | among
    · rw [notInner] at isInner
      cases isInner
    · exact other among
  emptied id new isFragment other := by
    by_cases same : id = node
    · subst same
      exact empty isFragment
    · exact kept.emptied id new isFragment fun among => by simp_all
  rows := kept.rows
  doctypes := kept.doctypes

/-- A node that was just made is pending.  All that came with it has its place. -/
theorem fresh (kept : Kept target home start pending row before) (fresh : Fresh before node after)
    (known : start ≤ before.size)
    (noDocument : ∀ id, before.size ≤ id → after.isA Content.isDocument id = false) :
    Kept target home start (node :: pending) row after where
  placed id new isInner other := by
    rw [List.mem_cons, not_or] at other
    have inside := lt_size_of_isA isInner
    rcases Nat.lt_or_ge id before.size with early | late
    · have same := fresh.intact.content id early
      rw [isA, same] at isInner
      rcases kept.placed id new isInner other.2 with ⟨parent, there, isParent⟩ | ⟨isUnder, displaced⟩
      · exact .inl ⟨parent, (fresh.intact.parent id early).trans there, isParent⟩
      · obtain ⟨isDocument, isElement, top, root, isRoot, later⟩ := displaced
        have homeInside := lt_size_of_isA isDocument
        refine .inr ⟨isUnder, ?_, ?_, (fresh.intact.parent id early).trans top, root, ?_, later⟩
        · rw [isA, fresh.intact.content home homeInside]
          exact isDocument
        · rw [isA, same]
          exact isElement
        · rw [rootElement?_eq (fresh.intact.children home homeInside) fun child among => ?_]
          · exact isRoot
          · rw [isA, isA, fresh.intact.content child (fresh.intact.source.lt_size_of_mem among)]
    · have above : node < id := by
        rcases Nat.eq_or_lt_of_le late with same | above
        · exact absurd (fresh.number.trans same).symm other.1
        · exact fresh.number ▸ above
      obtain ⟨parent, there⟩ := fresh.held id above inside
      exact .inl ⟨parent, there, .inr (Nat.le_trans known (fresh.intact.under id parent late there).1)⟩
  emptied id new isFragment other := by
    rw [List.mem_cons, not_or] at other
    rcases Nat.lt_or_ge id before.size with early | late
    · rw [isA, fresh.intact.content id early] at isFragment
      rw [fresh.intact.children id early]
      exact kept.emptied id new isFragment other.2
    · -- What came with the node is inside of another one, and so it is no fragment.
      have above : node < id := by
        rcases Nat.eq_or_lt_of_le late with same | above
        · exact absurd (fresh.number.trans same).symm other.1
        · exact fresh.number ▸ above
      obtain ⟨parent, there⟩ := fresh.held id above (lt_size_of_isA isFragment)
      rw [(fresh.intact.agrees.fits id parent there).isFragment] at isFragment
      cases isFragment
  rows id isOther := by
    rcases Nat.lt_or_ge id before.size with early | late
    · rw [isA, fresh.intact.content id early] at isOther
      rw [fresh.intact.children id early]
      exact kept.rows id isOther
    · rw [kept.row_eq_nil late]
      exact List.nil_sublist _
  doctypes document doctype remembers := by
    rcases Nat.lt_or_ge document before.size with early | late
    · rw [doctype?, fresh.intact.content document early] at remembers
      refine (kept.doctypes document doctype remembers).imp_right fun isDoctype => ?_
      rw [isA, fresh.intact.content doctype (lt_size_of_isA isDoctype)]
      exact isDoctype
    · have isOther := noDocument document late
      unfold doctype? at remembers
      split at remembers
      · rename_i there
        rw [isA, there] at isOther
        cases isOther
      · cases remembers

/-- One list changes.  What comes there comes below the home, or was there before, and
what goes was not made or is displaced. -/
theorem alters (kept : Kept target home start pending row before)
    (alters : Alters id list gone emptied before after)
    (content : ∀ id, after.content? id = before.content? id)
    (settled : ∀ member ∈ pending, member ∈ pending' ∨ member ∈ list ∧ (id = home ∨ start ≤ id))
    (inside : ∀ member ∈ list, before.isA Content.isInner member →
      before.parent? member = some id ∨ id = home ∨ start ≤ id)
    (isGone : ∀ old, gone = some old → start ≤ old → before.isA Content.isInner old →
      target.isUnder ∧ after.Displaced home old)
    (roots : target.isUnder → ∀ root, start ≤ root → before.rootElement? home = some root →
      ∃ later, after.rootElement? home = some later ∧ root ≤ later)
    (holder : start ≤ id → before.isA Content.isFragment id → id ∈ pending')
    (isEmptied : ∀ holder, emptied = some holder → holder ∈ pending')
    (rows : ∀ other, after.isA Content.isDocument other = false →
      (row' other).Sublist (after.children other)) :
    Kept target home start pending' row' after where
  placed member new isInner other := by
    rw [isA, content] at isInner
    have known := lt_size_of_isA isInner
    have there (among : member ∈ list) : after.parent? member = some id :=
      alters.agrees.parent id member (alters.row ▸ among)
    by_cases wasPending : member ∈ pending
    · rcases settled member wasPending with still | ⟨among, isHome⟩
      · exact absurd still other
      · exact .inl ⟨id, there among, isHome⟩
    rcases kept.placed member new isInner wasPending with ⟨parent, was, isParent⟩ | ⟨isUnder, displaced⟩
    · by_cases among : member ∈ list
      · refine .inl ⟨id, there among, ?_⟩
        rcases inside member among isInner with same | isHome
        · rw [was] at same
          exact Option.some.inj same ▸ isParent
        · exact isHome
      · have parent := alters.parent member known among
        split at parent
        · rename_i isOld
          exact .inr (isGone member isOld new isInner)
        · exact .inl ⟨_, parent.trans was, isParent⟩
    · obtain ⟨isDocument, isElement, top, root, isRoot, later⟩ := displaced
      by_cases among : member ∈ list
      · refine .inl ⟨id, there among, ?_⟩
        rcases inside member among isInner with same | isHome
        · rw [top] at same
          cases same
        · exact isHome
      · have parent := alters.parent member known among
        obtain ⟨last, isLast, above⟩ :=
          roots isUnder root (Nat.le_trans new (Nat.le_of_lt later)) isRoot
        refine .inr ⟨isUnder, ?_, ?_, ?_, last, isLast, Nat.lt_of_lt_of_le later above⟩
        · rw [isA, content]
          exact isDocument
        · rw [isA, content]
          exact isElement
        · rw [parent, top, ite_self]
  emptied other new isFragment notPending := by
    rw [isA, content] at isFragment
    have known := lt_size_of_isA isFragment
    have wasPending : other ∉ pending := fun among => by
      rcases settled other among with still | ⟨inList, -⟩
      · exact notPending still
      · -- What comes into a list is no fragment.
        have fits := alters.agrees.fits other id (alters.agrees.parent id other (alters.row ▸ inList))
        have noFragment := fits.isFragment
        rw [isA, content, isFragment] at noFragment
        cases noFragment
    rw [alters.children other known]
    · exact kept.emptied other new isFragment wasPending
    · rintro rfl
      exact notPending (holder new isFragment)
    · exact fun same => notPending (isEmptied other same)
  rows := rows
  doctypes document doctype remembers := by
    rw [doctype?, content] at remembers
    rw [isA, content]
    exact kept.doctypes document doctype remembers

/-- A node comes under one that bears it, behind all that came there before. -/
theorem arrives (kept : Kept target home start pending row before)
    (arrives : Arrives id node emptied before after) (agrees : before.Agrees) (early : home < start)
    (content : ∀ id, after.content? id = before.content? id)
    (settled : ∀ member ∈ pending, member ∈ pending' ∨ member = node)
    (bears : Bears target home start pending' before id)
    (isEmptied : ∀ holder, emptied = some holder →
      start ≤ holder ∧ holder ∈ pending' ∧ row holder = [])
    (last : ∀ root, before.rootElement? id = some root → root < node) :
    Kept target home start pending' (extend row id [node]) after := by
  have isElement (id : NodeId) :
      after.isA Content.isElement id = before.isA Content.isElement id := by
    rw [isA, isA, content]
  have isHome : id = home ∨ start ≤ id := bears.isHome.imp And.right And.left
  have elsewhere {list : List NodeId} {gone : Option NodeId}
      (alters : Alters id list gone emptied before after) (other : home ≠ id) :
      ∀ root, before.rootElement? home = some root → after.rootElement? home = some root := by
    intro root isRoot
    have isChild := agrees.parent home root (List.mem_of_find?_eq_some isRoot)
    rw [← isRoot]
    refine rootElement?_eq (alters.children home (agrees.fits root home isChild).homeInside other ?_)
      fun _ _ => isElement _
    exact fun same => absurd early (Nat.not_lt.mpr (isEmptied home same).1)
  have others {list : List NodeId} {gone : Option NodeId}
      (alters : Alters id list gone emptied before after) {other : NodeId} (differ : other ≠ id)
      (noDocument : after.isA Content.isDocument other = false) :
      (extend row id [node] other).Sublist (after.children other) := by
    rw [isA, content] at noDocument
    rw [extend, if_neg differ]
    by_cases same : emptied = some other
    · rw [(isEmptied other same).2.2]
      exact List.nil_sublist _
    rcases Nat.lt_or_ge other before.size with inside | beyond
    · rw [alters.children other inside differ same]
      exact kept.rows other noDocument
    · rw [kept.row_eq_nil beyond]
      exact List.nil_sublist _
  cases arrives with
  | last alters =>
      refine kept.alters alters content
        (fun member among => (settled member among).imp_right fun same =>
          ⟨by simp [same], isHome⟩)
        (fun _ _ _ => .inr isHome) (fun _ same => by cases same)
        (fun _ root _ isRoot => ⟨root, ?_, Nat.le_refl _⟩)
        bears.holder (fun holder same => (isEmptied holder same).2.1) fun other noDocument => ?_
      · by_cases other : home = id
        · subst other
          unfold rootElement? at isRoot ⊢
          rw [alters.row, List.find?_append, List.find?_congr fun child _ => isElement child, isRoot]
          rfl
        · exact elsewhere alters other root isRoot
      · by_cases differ : other = id
        · subst differ
          rw [isA, content] at noDocument
          rw [extend, if_pos rfl, alters.row]
          exact (kept.rows other noDocument).append (List.Sublist.refl _)
        · exact others alters differ noDocument
  | root front old back isDocument isNode split isRoot alters =>
      obtain ⟨isUnder, rfl⟩ : target.isUnder ∧ id = home := bears.isHome.resolve_right fun other => by
        rw [isDocument] at other
        cases other.2
      have below := last old isRoot
      have distinct := agrees.nodup id
      rw [split, List.nodup_middle, List.nodup_cons, List.mem_append, not_or] at distinct
      have isRoot' : after.rootElement? id = some node := by
        unfold rootElement? at isRoot ⊢
        rw [alters.row]
        rw [split, List.find?_congr fun child _ => (isElement child).symm] at isRoot
        exact find?_replaced isRoot distinct.1.1 ((isElement node).trans isNode)
      refine kept.alters alters content
        (fun member among => (settled member among).imp_right fun same =>
          ⟨by simp [same], isHome⟩)
        (fun _ _ _ => .inr isHome) (fun gone same new isInner => ⟨isUnder, ?_⟩)
        (fun _ root _ wasRoot => ⟨node, isRoot', ?_⟩)
        bears.holder (fun holder same => (isEmptied holder same).2.1) fun other noDocument => ?_
      · cases same
        refine ⟨by rw [isA, content]; exact isDocument, ?_, ?_, node, isRoot', below⟩
        · rw [isElement]
          exact List.find?_some isRoot
        · rw [alters.parent old (lt_size_of_isA isInner), if_pos rfl]
          simp [distinct.1, Nat.ne_of_lt below]
      · rw [isRoot] at wasRoot
        exact Nat.le_of_lt (Option.some.inj wasRoot ▸ below)
      · refine others alters ?_ noDocument
        rintro rfl
        rw [isA, content, ← isA, isDocument] at noDocument
        cases noDocument

end Kept

end Forest

namespace Edit

variable {home node holder : NodeId} {forest : Forest}

/-- A node joins the children of a home, or takes the place of the element of a
document. -/
theorem comes_attachOneUnder (agrees : forest.Agrees)
    (noFragment : forest.isA Content.isFragment node = false)
    (elsewhere : forest.parent? node ≠ some home) :
    Ensures (attachOneUnder home node) forest
      (fun _ after => Joins home node none forest after ∨
        ∃ old, forest.isA Content.isDocument home ∧ forest.isA Content.isElement node ∧
          forest.rootElement? home = some old ∧ node ≠ old ∧ Ousts home node old forest after)
      fun _ _ => True := by
  have appends : Ensures (appendChild home node) forest
      (fun _ after => Joins home node none forest after ∨
        ∃ old, forest.isA Content.isDocument home ∧ forest.isA Content.isElement node ∧
          forest.rootElement? home = some old ∧ node ≠ old ∧ Ousts home node old forest after)
      fun _ _ => True :=
    (joins_appendChild agrees noFragment).mono (fun _ _ joins => .inl joins) fun _ _ _ => trivial
  rw [attachOneUnder, ensures_bind, ensures_look]
  refine ⟨fun above there => ?_, fun _ => trivial⟩
  rw [ensures_bind, ensures_look]
  refine ⟨fun below there' => ?_, fun _ => trivial⟩
  split
  · rename_i kinds
    have isDocument : forest.isA Content.isDocument home :=
      (isA_of_node? there).trans (Bool.and_eq_true_iff.mp kinds).1
    have isElement : forest.isA Content.isElement node :=
      (isA_of_node? there').trans (Bool.and_eq_true_iff.mp kinds).2
    rw [setRoot, ensures_bind, rootOf, ensures_bind, ensures_checkDocument]
    refine ⟨fun _ => ?_, fun _ => trivial⟩
    rw [ensures_bind, ensures_get, ensures_pure]
    split
    · exact appends
    · rename_i old isRoot
      have among : old ∈ forest.children home := List.mem_of_find?_eq_some isRoot
      have differ : node ≠ old := by
        rintro rfl
        exact elsewhere (agrees.parent home node among)
      rw [if_neg differ.symm]
      exact (ousts_replaceChild agrees noFragment among differ).mono
        (fun _ _ ousts => .inr ⟨old, isDocument, isElement, isRoot, differ, ousts⟩)
        fun _ _ _ => trivial
  · exact appends

/-- A node without a parent comes under a home. -/
theorem arrives_one (agrees : forest.Agrees)
    (noFragment : forest.isA Content.isFragment node = false)
    (top : forest.parent? node = none) :
    Ensures (attachOneUnder home node) forest
      (fun _ after => Arrives home node none forest after) fun _ _ => True := by
  refine (comes_attachOneUnder agrees noFragment (by simp [top])).mono
    (fun _ after comes => ?_) fun _ _ _ => trivial
  rcases comes with joins | ⟨old, isDocument, isElement, isRoot, differ, ousts⟩
  · exact .last ((joins.gains agrees top (List.append_nil _).symm rfl).alters agrees joins.fits top)
  · obtain ⟨front, back, split⟩ := List.append_of_mem (List.mem_of_find?_eq_some isRoot)
    exact .root front old back isDocument isElement split isRoot
      ((ousts.swaps agrees top split).alters agrees ousts.fits top differ)

/-- The first child of a fragment comes under another home. -/
theorem arrives_first {rest : List NodeId} (intact : Intact {} forest)
    (isFragment : forest.isA Content.isFragment holder)
    (held : forest.children holder = node :: rest) (differ : holder ≠ home) :
    Ensures (attachOneUnder home node) forest
      (fun _ after => Arrives home node (some holder) forest after ∧ after.children holder = rest)
      fun _ _ => True := by
  have agrees := intact.agrees
  have there := agrees.parent holder node (by simp [held])
  refine (comes_attachOneUnder agrees (agrees.fits node holder there).isFragment ?_).mono
    (fun _ after comes => ?_) fun _ _ _ => trivial
  · rw [there]
    exact fun same => differ (Option.some.inj same)
  rcases comes with joins | ⟨old, isDocument, isElement, isRoot, -, ousts⟩
  · obtain ⟨alters, held'⟩ :=
      joins.alters agrees held differ (List.append_nil (forest.children home)).symm
    exact ⟨.last alters, held'⟩
  · obtain ⟨front, back, split⟩ := List.append_of_mem (List.mem_of_find?_eq_some isRoot)
    obtain ⟨alters, held', -⟩ := ousts.alters agrees held differ split
      (isDocument_of_isFragment isFragment) (intact.linked holder (Nat.zero_le _))
      (intact.linked home (Nat.zero_le _))
    exact ⟨.root front old back isDocument isElement split isRoot alters, held'⟩

variable {target : Target} {start bearer : NodeId} {pending : List NodeId}
  {row : NodeId → List NodeId}

/-- The children of a pending fragment come under a node that bears them, one by one. -/
theorem kept_attachMembers (early : home < start) (isPending : holder ∈ pending)
    (new : start ≤ holder) (below : bearer < holder) :
    ∀ (members : List NodeId) {row : NodeId → List NodeId} {forest : Forest}, Intact {} forest →
      Kept target home start pending row forest →
      Bears target home start pending forest bearer → forest.isA Content.isFragment holder →
      row holder = [] → forest.children holder = members → members.Pairwise (· < ·) →
      (∀ root, forest.rootElement? bearer = some root → ∀ member ∈ members, root < member) →
      Ensures (members.forM (attachOneUnder bearer)) forest
        (fun _ after => Kept target home start pending (extend row bearer members) after ∧
          after.isA Content.isFragment holder ∧ after.children holder = [])
        fun _ _ => True
  | [], row, forest, _, kept, _, isFragment, _, held, _, _ => by
      rw [extend_nil]
      exact ⟨kept, isFragment, held⟩
  | member :: rest, row, forest, intact, kept, bears, isFragment, noRow, held, rising, last => by
      rw [List.pairwise_cons] at rising
      have differ : holder ≠ bearer := (Nat.ne_of_lt below).symm
      obtain ⟨-, ready⟩ := intact.ready_of_fragment (Nat.zero_le _) below isFragment
        (show member ∈ forest.children holder by simp [held])
      show Ensures (attachOneUnder bearer member >>= fun _ => rest.forM (attachOneUnder bearer))
        forest _ _
      rw [ensures_bind]
      refine ((arrives_first intact isFragment held differ).and
        (tends_attachOneUnder intact (Nat.zero_le _) ready)).mono (fun _ middle ends => ?_)
        fun _ _ _ => trivial
      obtain ⟨⟨arrives, held'⟩, tends⟩ := ends
      have content := arrives.content tends.size
      have kept' := kept.arrives arrives intact.agrees early content (fun _ among => .inl among)
        bears (fun other same => by
          cases same
          exact ⟨new, isPending, noRow⟩) fun root isRoot => last root isRoot member (by simp)
      have noRow' : extend row bearer [member] holder = [] := by
        rw [extend, if_neg differ, noRow]
      refine (kept_attachMembers early isPending new below rest tends.intact kept'
        (bears.later tends.size content) (by rw [isA, content]; exact isFragment) noRow' held'
        rising.2 fun root isRoot other among => ?_).mono (fun _ after ends => ?_) fun _ _ _ => trivial
      · rcases arrives.root_eq tends.size isRoot with was | rfl
        · exact last root was other (List.mem_cons_of_mem _ among)
        · exact rising.1 other among
      · rw [extend_extend, List.singleton_append] at ends
        exact ends

end Edit

/-- The nodes that get a place with a node: itself, or its children if it is a fragment. -/
def Forest.bundle (forest : Forest) (node : NodeId) : List NodeId :=
  if forest.isA Content.isFragment node then forest.children node else [node]

section Attach

variable {target : Target} {home start bearer node : NodeId} {pending : List NodeId}
  {row : NodeId → List NodeId} {before : Forest} {world : World}

theorem Forest.Bears.fresh (bears : Bears target home start pending before bearer)
    (fresh : Fresh before node world.forest) :
    Bears target home start pending world.forest bearer where
  inside := Nat.lt_of_lt_of_le bears.inside fresh.intact.size
  isHome := by
    rw [isA, fresh.intact.content bearer bears.inside]
    exact bears.isHome
  holder := by
    rw [isA, fresh.intact.content bearer bears.inside]
    exact bears.holder

/-- A node that was just made gets its place under a node that bears it. -/
theorem kept_attach (early : home < start) (intact : Intact {} before)
    (kept : Kept target home start pending row before)
    (bears : Bears target home start pending before bearer) (known : start ≤ before.size)
    (fresh : Fresh before node world.forest)
    (rising : (world.forest.children node).Pairwise (· < ·))
    (noDocument : ∀ id, before.size ≤ id → world.forest.isA Content.isDocument id = false) :
    Ensures (attach (.under bearer) node) world
      (fun _ after => Kept target home start pending
        (extend row bearer (world.forest.bundle node)) after.forest)
      fun _ _ => True := by
  have intact' := intact.trans fresh.intact
  have kept' := kept.fresh fresh known noDocument
  have bears' := bears.fresh fresh
  have below : bearer < node := fresh.number ▸ bears.inside
  have last (root : NodeId) (isRoot : world.forest.rootElement? bearer = some root) : root < node := by
    have isChild := List.mem_of_find?_eq_some isRoot
    rw [fresh.intact.children bearer bears.inside] at isChild
    rw [fresh.number]
    exact intact.agrees.lt_size_of_mem isChild
  refine ensures_attach (fun _ later _ same => ?_) fun _ _ _ => trivial
  show Ensures (edit (attachUnder bearer node)) later _ _
  rw [ensures_edit, same, attachUnder, MarkupSpec.ensures_bind, ensures_discard, ensures_look]
  refine ⟨fun _ _ => ?_, fun _ => trivial⟩
  rw [MarkupSpec.ensures_bind, ensures_look]
  refine ⟨fun found there => ?_, fun _ => trivial⟩
  have kind : world.forest.isA Content.isFragment node = found.content.isFragment := isA_of_node? there
  rw [← kind, ← children_of_node? there, bundle]
  split
  · rename_i isFragment
    have new : start ≤ node := fresh.number ▸ known
    refine (kept_attachMembers early List.mem_cons_self new below _ intact' kept'
      ⟨bears'.inside, bears'.isHome, fun new isFragment =>
        List.mem_cons_of_mem _ (bears'.holder new isFragment)⟩ isFragment
      (kept.row_eq_nil (Nat.le_of_eq fresh.number.symm)) rfl rising
      fun root isRoot member among => ?_).mono (fun _ after ends => ?_) fun _ _ _ => trivial
    · have ready := intact'.ready_of_fragment (Nat.zero_le _) below isFragment among
      exact Nat.lt_trans (last root isRoot) ready.1
    · obtain ⟨kept, isFragment, empty⟩ := ends
      refine kept.settle ?_ fun _ => empty
      by_contra isInner
      rw [Bool.not_eq_false] at isInner
      unfold isA at isInner isFragment
      cases content : after.content? node with
      | none => simp [content] at isFragment
      | some content' =>
          rw [content] at isInner isFragment
          rw [Option.any_some, Content.isFragment_of_isInner isInner] at isFragment
          cases isFragment
  · rename_i other
    have noFragment : world.forest.isA Content.isFragment node = false := by simpa using other
    refine ((arrives_one intact'.agrees noFragment fresh.top).and
      (tends_attachOneUnder intact' (Nat.zero_le _)
        ⟨fresh.inside, below, fresh.movable, noFragment⟩)).mono (fun _ after ends => ?_)
      fun _ _ _ => trivial
    obtain ⟨arrives, tends⟩ := ends
    refine kept'.arrives arrives intact'.agrees early (arrives.content tends.size)
      (fun member among => ?_) bears' (fun _ same => by cases same) last
    exact (List.mem_cons.mp among).symm

end Attach

end MarkupSpec
