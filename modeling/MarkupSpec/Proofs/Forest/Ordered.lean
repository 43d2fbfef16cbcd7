import MarkupSpec.Proofs.Forest.HostPlacement

/-!
# Forests in order

A forest is in order if parents and children agree, the children of every node are a row, and a
node without a parent is linked to nothing (`Forest.Ordered`).  A forest that is woven throughout is
in order, but being in order says nothing about the numbers of nodes, so any node may come under any
other one.

A node comes to a home by joining the children or by taking the place of one of them
(`Forest.Comes`).  That keeps a forest in order if the node leaves no gap behind
(`Ordered.comes`), and so does a whole run of nodes that come one after the other
(`Forest.ComeAll`, `Ordered.comeAll`).
-/

namespace MarkupSpec

open Edit

namespace Forest

/-- Parents and children agree, and siblings are linked as the lists of children say. -/
structure Ordered (forest : Forest) : Prop where
  agrees : forest.Agrees
  linked : ∀ home, forest.Linked home
  loose : ∀ id, forest.parent? id = none → forest.next? id = none ∧ forest.previous? id = none

/-- A node gets a place in a home, from wherever it was. -/
def Comes (home node : NodeId) (before after : Forest) : Prop :=
  (∃ mark, Joins home node mark before after) ∨ ∃ old, node ≠ old ∧ Ousts home node old before after

/-- Nodes get places in a home one after the other. -/
inductive ComeAll (home : NodeId) : List NodeId → Forest → Forest → Prop
  | nil {forest} : ComeAll home [] forest forest
  | cons {node rest before middle after} : Comes home node before middle →
      ComeAll home rest middle after → ComeAll home (node :: rest) before after

variable {before middle after forest : Forest} {home node old id : NodeId}
  {front back nodes : List NodeId}

theorem Intact.ordered (intact : Intact {} forest) : forest.Ordered where
  agrees := intact.agrees
  linked home := intact.linked home (Nat.zero_le home)
  loose id := intact.loose id (Nat.zero_le id)

/-! ## One node comes or goes -/

namespace Ordered

/-- What is done to one row and to nodes that get into it or out of it keeps the order of all the
rest. -/
theorem rewoven (ordered : before.Ordered) (moved : NodeId → Prop) (agrees : after.Agrees)
    (size : after.size = before.size)
    (children : ∀ id, id ≠ home → after.children id = before.children id)
    (parent : ∀ id, ¬ moved id → after.parent? id = before.parent? id)
    (links : ∀ id < before.size, ¬ moved id → before.parent? id ≠ some home →
      after.next? id = before.next? id ∧ after.previous? id = before.previous? id)
    (row : after.Linked home)
    (settled : ∀ id, moved id → after.parent? id = some home ∨
      after.parent? id = none ∧ after.next? id = none ∧ after.previous? id = none) :
    after.Ordered where
  agrees := agrees
  linked other := by
    by_cases isHome : other = home
    · exact isHome ▸ row
    intro front id back split
    have there := agrees.parent other id (by simp [split])
    have notMoved : ¬ moved id := fun isMoved => by
      rcases settled id isMoved with isHome' | ⟨top, -⟩
      · rw [isHome'] at there
        exact isHome (Option.some.inj there).symm
      · rw [top] at there
        cases there
    have was : before.parent? id = some other := (parent id notMoved).symm.trans there
    obtain ⟨next, previous⟩ := links id (lt_size_of_parent? was) notMoved fun same =>
      isHome (Option.some.inj (was.symm.trans same))
    rw [next, previous]
    exact ordered.linked other front id back (children other isHome ▸ split)
  loose id top := by
    by_cases isMoved : moved id
    · rcases settled id isMoved with isHome | ⟨-, loose⟩
      · rw [top] at isHome
        cases isHome
      · exact loose
    · have was := (parent id isMoved).symm.trans top
      rcases Nat.lt_or_ge id before.size with known | beyond
      · obtain ⟨next, previous⟩ := links id known isMoved (by simp [was])
        rw [next, previous]
        exact ordered.loose id was
      · rw [← size] at beyond
        exact ⟨next?_eq_none beyond, previous?_eq_none beyond⟩

theorem gains (ordered : before.Ordered) (fits : before.Fits home node)
    (top : before.parent? node = none) (gains : Gains home node front back before after) :
    after.Ordered := by
  obtain ⟨-, loose⟩ := ordered.loose node top
  refine ordered.rewoven (· = node) (ordered.agrees.gains top fits gains) gains.size
    (fun id elsewhere => ?_) (fun id differ => ?_)
    (fun id _ differ elsewhere => gains.links_other ordered.agrees loose differ elsewhere)
    ((ordered.linked home).gains ordered.agrees top loose gains) fun id isNode => .inl ?_
  · rw [gains.children, if_neg elsewhere]
  · rw [gains.parent, if_neg differ]
  · rw [gains.parent, if_pos isNode]

theorem loses (ordered : before.Ordered) (loses : Loses home node front back before after)
    (closes : Closes node before after) : after.Ordered := by
  have linked := ordered.linked home
  refine ordered.rewoven (· = node) (ordered.agrees.loses loses) loses.size
    (fun id elsewhere => ?_) (fun id differ => ?_)
    (fun id known differ elsewhere =>
      loses.links_other ordered.agrees linked closes known differ elsewhere)
    (linked.loses ordered.agrees loses closes) fun id isNode => .inr ?_
  · rw [loses.children, if_neg elsewhere]
  · rw [loses.parent, if_neg differ]
  · subst isNode
    exact ⟨by rw [loses.parent, if_pos rfl], loses.loose⟩

theorem swaps (ordered : before.Ordered) (fits : before.Fits home node)
    (top : before.parent? node = none) (differ : node ≠ old)
    (swaps : Swaps home node old front back before after) : after.Ordered := by
  have agrees := ordered.agrees
  have linked := ordered.linked home
  have apart := swaps.apart agrees linked top
  have there : before.parent? old = some home := agrees.parent home old (by simp [swaps.split])
  have known : old < before.size := lt_size_of_parent? there
  refine ordered.rewoven (fun id => id = node ∨ id = old) (agrees.swaps top fits differ swaps)
    swaps.size (fun id elsewhere => ?_) (fun id neither => ?_)
    (fun id known neither elsewhere =>
      swaps.links_other agrees linked top known (fun isNew => neither (.inl isNew)) elsewhere)
    (linked.swaps agrees top differ fits.lt_size swaps) fun id either => ?_
  · rw [swaps.children, if_neg elsewhere]
  · rw [not_or] at neither
    rw [swaps.parent, if_neg neither.2, if_neg neither.1]
  · rcases either with rfl | rfl
    · exact .inl (by rw [swaps.parent, if_neg differ, if_pos rfl])
    · refine .inr ⟨by rw [swaps.parent, if_pos rfl], ?_, ?_⟩
      · rw [swaps.next apart id known, if_pos rfl]
      · rw [swaps.previous apart id known, if_pos rfl]

/-! ## One node is moved -/

theorem detached (ordered : before.Ordered) (movable : before.Movable node)
    (detached : Detached node before after) : after.Ordered := by
  rcases detached with ⟨-, rfl⟩ | ⟨home, front, back, there, loses⟩
  · exact ordered
  · exact ordered.loses loses (loses.closes (movable home there))

/-- A node that leaves no gap may come to any home that may hold it. -/
theorem comes (ordered : before.Ordered) (movable : before.Movable node)
    (comes : Comes home node before after) : after.Ordered := by
  rcases comes with ⟨mark, middle, front, back, fits, detached, -, gains⟩ |
    ⟨old, differ, middle, front, back, fits, detached, swaps⟩
  all_goals
    have ordered' := ordered.detached movable detached
    have fits' : middle.Fits home node := Agrees.fits_of_content detached.content fits
    have top := (ordered.agrees.detached detached).2
  · exact ordered'.gains fits' top gains
  · exact ordered'.swaps fits' top differ swaps

end Ordered

namespace Comes

theorem content (comes : Comes home node before after) (id : NodeId) :
    after.content? id = before.content? id := by
  rcases comes with ⟨mark, joins⟩ | ⟨old, -, ousts⟩
  · exact joins.content id
  · exact ousts.content id

theorem size (comes : Comes home node before after) : after.size = before.size := by
  rcases comes with ⟨mark, joins⟩ | ⟨old, -, middle, front, back, -, detached, swaps⟩
  · exact joins.size
  · rw [swaps.size, detached.size]

theorem agrees (comes : Comes home node before after) (agrees : before.Agrees) : after.Agrees := by
  rcases comes with ⟨mark, joins⟩ | ⟨old, differ, ousts⟩
  · exact agrees.joins joins
  · exact agrees.ousts differ ousts

/-- No other node gets another parent, although one may lose it. -/
theorem parent (comes : Comes home node before after) (differ : id ≠ node) :
    after.parent? id = before.parent? id ∨ after.parent? id = none := by
  rcases comes with ⟨mark, joins⟩ | ⟨old, -, middle, front, back, -, detached, swaps⟩
  · exact .inl (by rw [joins.parent, if_neg differ])
  · rw [swaps.parent, if_neg differ, detached.parent differ]
    split
    · exact .inr rfl
    · exact .inl rfl

/-- Another node leaves no gap still. -/
theorem movable (comes : Comes home node before after) (differ : id ≠ node)
    (movable : before.Movable id) : after.Movable id := by
  intro other there
  rcases comes.parent differ with same | gone
  · rw [isA, comes.content]
    exact movable other (same ▸ there)
  · rw [gone] at there
    cases there

end Comes

/-! ## Many nodes are moved -/

namespace ComeAll

theorem content (all : ComeAll home nodes before after) (id : NodeId) :
    after.content? id = before.content? id := by
  induction all with
  | nil => rfl
  | cons comes _ ih => rw [ih, comes.content]

theorem size (all : ComeAll home nodes before after) : after.size = before.size := by
  induction all with
  | nil => rfl
  | cons comes _ ih => rw [ih, comes.size]

end ComeAll

/-- Nodes that leave no gaps may come to a home one after the other. -/
theorem Ordered.comeAll (all : ComeAll home nodes before after) :
    before.Ordered → nodes.Nodup → (∀ node ∈ nodes, before.Movable node) → after.Ordered := by
  induction all with
  | nil => exact fun ordered _ _ => ordered
  | cons comes _ ih =>
      intro ordered distinct movable
      rw [List.nodup_cons] at distinct
      obtain ⟨here, later⟩ := List.forall_mem_cons.mp movable
      refine ih (ordered.comes here comes) distinct.2 fun other among => ?_
      exact comes.movable (fun same => distinct.1 (same ▸ among)) (later other among)

/-- The children of a fragment leave no gaps. -/
theorem movable_of_isFragment (agrees : forest.Agrees)
    (isFragment : forest.isA Content.isFragment node) (among : id ∈ forest.children node) :
    forest.Movable id := by
  intro home there
  rw [agrees.parent node id among] at there
  cases there
  exact isDocument_of_isFragment isFragment

end Forest

end MarkupSpec
