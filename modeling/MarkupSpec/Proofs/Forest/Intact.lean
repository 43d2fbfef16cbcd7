import MarkupSpec.Proofs.Forest.ChildLists

/-!
# Woven forests

Nodes that a build adds to a forest are woven into one another: each is below
its parent in number, linked to its neighbours in the list of that parent, and
to nothing if it has no parent (`Forest.Intact`).  The nodes that were there before
stay as they are as long as only new nodes come under new nodes.

Whatever puts one node under another keeps this, if the child has the higher
number and leaves a gap that is closed (`Forest.Movable`).  That is so since nodes
are made before others are put under them, and since what is moved at all comes out of
a fragment.

With nothing there before all the nodes of a forest are new, so that the whole of it
is woven.
-/

namespace MarkupSpec

open Edit

namespace Forest

/-- The nodes of the origin are as they were, and all the others are woven into one
another. -/
structure Intact (origin forest : Forest) : Prop where
  source : origin.Agrees
  agrees : forest.Agrees
  size : origin.size ≤ forest.size
  content : ∀ id < origin.size, forest.content? id = origin.content? id
  parent : ∀ id < origin.size, forest.parent? id = origin.parent? id
  children : ∀ id < origin.size, forest.children id = origin.children id
  next : ∀ id < origin.size, forest.next? id = origin.next? id
  previous : ∀ id < origin.size, forest.previous? id = origin.previous? id
  under : ∀ id home, origin.size ≤ id → forest.parent? id = some home →
    origin.size ≤ home ∧ home < id
  linked : ∀ home, origin.size ≤ home → forest.Linked home
  loose : ∀ id, origin.size ≤ id → forest.parent? id = none →
    forest.next? id = none ∧ forest.previous? id = none

/-- If the node leaves its place, the gap is closed. -/
def Movable (forest : Forest) (id : NodeId) : Prop :=
  ∀ home, forest.parent? id = some home → forest.isA Content.isDocument home = false

variable {origin before middle after forest : Forest} {home child node new old : NodeId}
  {front back : List NodeId} {mark : Option NodeId}

theorem next?_eq_none (beyond : forest.size ≤ node) : forest.next? node = none := by
  rw [next?, node?_eq_none beyond, Option.bind_none]

theorem previous?_eq_none (beyond : forest.size ≤ node) : forest.previous? node = none := by
  rw [previous?, node?_eq_none beyond, Option.bind_none]

namespace Intact

theorem refl (agrees : forest.Agrees) : Intact forest forest where
  source := agrees
  agrees := agrees
  size := Nat.le_refl _
  content _ _ := rfl
  parent _ _ := rfl
  children _ _ := rfl
  next _ _ := rfl
  previous _ _ := rfl
  under id home beyond there := by
    rw [parent?_eq_none beyond] at there
    cases there
  linked home beyond front id back split := by simp [children_eq_nil beyond] at split
  loose _ beyond _ := ⟨next?_eq_none beyond, previous?_eq_none beyond⟩

/-- The parents of old nodes are old ones. -/
theorem new_of_parent (intact : Intact origin forest) (there : forest.parent? child = some home)
    (inHome : origin.size ≤ home) : origin.size ≤ child := by
  by_contra known
  rw [intact.parent child (Nat.lt_of_not_le known)] at there
  exact absurd (intact.source.fits child home there).homeInside (Nat.not_lt.mpr inHome)

theorem trans (onFirst : Intact origin middle) (onSecond : Intact middle after) :
    Intact origin after := by
  have early {id : NodeId} (known : id < origin.size) : id < middle.size :=
    Nat.lt_of_lt_of_le known onFirst.size
  refine
    { source := onFirst.source, agrees := onSecond.agrees
      size := Nat.le_trans onFirst.size onSecond.size
      content := fun id known => (onSecond.content id (early known)).trans (onFirst.content id known)
      parent := fun id known => (onSecond.parent id (early known)).trans (onFirst.parent id known)
      children := fun id known =>
        (onSecond.children id (early known)).trans (onFirst.children id known)
      next := fun id known => (onSecond.next id (early known)).trans (onFirst.next id known)
      previous := fun id known =>
        (onSecond.previous id (early known)).trans (onFirst.previous id known)
      under := fun id home new there => ?_, linked := fun home new => ?_
      loose := fun id new top => ?_ }
  · rcases Nat.lt_or_ge id middle.size with known | late
    · exact onFirst.under id home new (onSecond.parent id known ▸ there)
    · obtain ⟨homeLate, lower⟩ := onSecond.under id home late there
      exact ⟨Nat.le_trans onFirst.size homeLate, lower⟩
  · rcases Nat.lt_or_ge home middle.size with known | late
    · intro front id back split
      rw [onSecond.children home known] at split
      have inside := onFirst.agrees.lt_size_of_mem (by simp [split] : id ∈ middle.children home)
      rw [onSecond.next id inside, onSecond.previous id inside]
      exact onFirst.linked home new front id back split
    · exact onSecond.linked home late
  · rcases Nat.lt_or_ge id middle.size with known | late
    · rw [onSecond.next id known, onSecond.previous id known]
      exact onFirst.loose id new (onSecond.parent id known ▸ top)
    · exact onSecond.loose id late top

/-- What is done to one row and to nodes that get into it or out of it keeps all the
rest. -/
theorem rewoven (intact : Intact origin before) (moved : NodeId → Prop)
    (inHome : origin.size ≤ home) (agrees : after.Agrees) (size : after.size = before.size)
    (content : ∀ id, after.content? id = before.content? id)
    (children : ∀ id, id ≠ home → after.children id = before.children id)
    (parent : ∀ id, ¬ moved id → after.parent? id = before.parent? id)
    (links : ∀ id < before.size, ¬ moved id → before.parent? id ≠ some home →
      after.next? id = before.next? id ∧ after.previous? id = before.previous? id)
    (row : after.Linked home)
    (settled : ∀ id, moved id → origin.size ≤ id ∧
      (after.parent? id = some home ∧ home < id ∨
        after.parent? id = none ∧ after.next? id = none ∧ after.previous? id = none)) :
    Intact origin after := by
  have untouched {id : NodeId} (known : id < origin.size) :
      ¬ moved id ∧ before.parent? id ≠ some home :=
    ⟨fun isMoved => absurd known (Nat.not_lt.mpr (settled id isMoved).1),
      fun there => absurd known (Nat.not_lt.mpr (intact.new_of_parent there inHome))⟩
  have early {id : NodeId} (known : id < origin.size) : id < before.size :=
    Nat.lt_of_lt_of_le known intact.size
  refine
    { source := intact.source, agrees, size := size ▸ intact.size
      content := fun id known => (content id).trans (intact.content id known)
      parent := fun id known => (parent id (untouched known).1).trans (intact.parent id known)
      children := fun id known =>
        (children id (Nat.ne_of_lt (Nat.lt_of_lt_of_le known inHome))).trans
          (intact.children id known)
      next := fun id known => ?_, previous := fun id known => ?_
      under := fun id other new there => ?_, linked := fun other new => ?_
      loose := fun id new top => ?_ }
  · rw [(links id (early known) (untouched known).1 (untouched known).2).1, intact.next id known]
  · rw [(links id (early known) (untouched known).1 (untouched known).2).2,
      intact.previous id known]
  · by_cases isMoved : moved id
    · rcases (settled id isMoved).2 with ⟨isHome, lower⟩ | ⟨top, -⟩
      · rw [isHome] at there
        cases there
        exact ⟨inHome, lower⟩
      · rw [top] at there
        cases there
    · exact intact.under id other new (parent id isMoved ▸ there)
  · by_cases isHome : other = home
    · exact isHome ▸ row
    · intro front id back split
      have there := agrees.parent other id (by simp [split])
      have notMoved : ¬ moved id := fun isMoved => by
        rcases (settled id isMoved).2 with ⟨isHome', -⟩ | ⟨top, -⟩
        · rw [isHome'] at there
          exact isHome (Option.some.inj there).symm
        · rw [top] at there
          cases there
      have known := size ▸ agrees.lt_size_of_mem (by simp [split] : id ∈ after.children other)
      obtain ⟨next, previous⟩ := links id known notMoved fun same =>
        isHome (Option.some.inj (((parent id notMoved).symm.trans there).symm.trans same))
      rw [next, previous]
      exact intact.linked other new front id back (children other isHome ▸ split)
  · by_cases isMoved : moved id
    · rcases (settled id isMoved).2 with ⟨isHome, -⟩ | ⟨-, loose⟩
      · rw [top] at isHome
        cases isHome
      · exact loose
    · have top := (parent id isMoved).symm.trans top
      rcases Nat.lt_or_ge id before.size with known | beyond
      · obtain ⟨next, previous⟩ := links id known isMoved (by simp [top])
        rw [next, previous]
        exact intact.loose id new top
      · rw [← size] at beyond
        exact ⟨next?_eq_none beyond, previous?_eq_none beyond⟩

/-! ## One node comes or goes -/

theorem gains (intact : Intact origin before) (inHome : origin.size ≤ home) (lower : home < node)
    (fits : before.Fits home node) (top : before.parent? node = none)
    (gains : Gains home node front back before after) : Intact origin after := by
  have new : origin.size ≤ node := Nat.le_trans inHome (Nat.le_of_lt lower)
  obtain ⟨-, loose⟩ := intact.loose node new top
  refine intact.rewoven (· = node) inHome (intact.agrees.gains top fits gains) gains.size
    gains.content (fun id elsewhere => ?_) (fun id differ => ?_)
    (fun id _ differ elsewhere => gains.links_other intact.agrees loose differ elsewhere)
    ((intact.linked home inHome).gains intact.agrees top loose gains) fun id isNode => ?_
  · rw [gains.children, if_neg elsewhere]
  · rw [gains.parent, if_neg differ]
  · subst isNode
    exact ⟨new, .inl ⟨by rw [gains.parent, if_pos rfl], lower⟩⟩

theorem loses (intact : Intact origin before) (inHome : origin.size ≤ home)
    (loses : Loses home node front back before after) (closes : Closes node before after) :
    Intact origin after := by
  have linked := intact.linked home inHome
  have there : before.parent? node = some home :=
    intact.agrees.parent home node (by simp [loses.split])
  refine intact.rewoven (· = node) inHome (intact.agrees.loses loses) loses.size loses.content
    (fun id elsewhere => ?_) (fun id differ => ?_)
    (fun id known differ elsewhere =>
      loses.links_other intact.agrees linked closes known differ elsewhere)
    (linked.loses intact.agrees loses closes) fun id isNode => ?_
  · rw [loses.children, if_neg elsewhere]
  · rw [loses.parent, if_neg differ]
  · subst isNode
    exact ⟨intact.new_of_parent there inHome, .inr ⟨by rw [loses.parent, if_pos rfl], loses.loose⟩⟩

theorem swaps (intact : Intact origin before) (inHome : origin.size ≤ home) (lower : home < new)
    (fits : before.Fits home new) (top : before.parent? new = none) (differ : new ≠ old)
    (swaps : Swaps home new old front back before after) : Intact origin after := by
  have agrees := intact.agrees
  have linked := intact.linked home inHome
  have there : before.parent? old = some home := agrees.parent home old (by simp [swaps.split])
  have apart := swaps.apart agrees linked top
  have known : old < before.size := lt_size_of_parent? there
  refine intact.rewoven (fun id => id = new ∨ id = old) inHome
    (agrees.swaps top fits differ swaps) swaps.size swaps.content
    (fun id elsewhere => ?_) (fun id neither => ?_)
    (fun id known neither elsewhere =>
      swaps.links_other agrees linked top known (fun isNew => neither (.inl isNew)) elsewhere)
    (linked.swaps agrees top differ fits.lt_size swaps) fun id either => ?_
  · rw [swaps.children, if_neg elsewhere]
  · rw [not_or] at neither
    rw [swaps.parent, if_neg neither.2, if_neg neither.1]
  · rcases either with rfl | rfl
    · refine ⟨Nat.le_trans inHome (Nat.le_of_lt lower), .inl ⟨?_, lower⟩⟩
      rw [swaps.parent, if_neg differ, if_pos rfl]
    · refine ⟨intact.new_of_parent there inHome, .inr ⟨?_, ?_, ?_⟩⟩
      · rw [swaps.parent, if_pos rfl]
      · rw [swaps.next apart id known, if_pos rfl]
      · rw [swaps.previous apart id known, if_pos rfl]

/-- A new node is woven in loosely. -/
theorem add (intact : Intact origin before) (content : Content) (owner : Option NodeId) :
    Intact origin (before.add { content, owner }) := by
  refine intact.trans ?_
  have same {id : NodeId} (known : id < before.size) :
      (before.add { content, owner }).node? id = before.node? id := by
    rw [node?_add, if_neg (Nat.ne_of_lt known)]
  have last {id : NodeId} (beyond : before.size ≤ id) :
      (before.add { content, owner }).node? id = some { content, owner } ∨
        (before.add { content, owner }).node? id = none := by
    rw [node?_add]
    split
    · exact .inl rfl
    · exact .inr (node?_eq_none beyond)
  refine
    { source := intact.agrees, agrees := intact.agrees.add content owner, size := by simp
      content := fun id known => by rw [content?, content?, same known]
      parent := fun id known => by rw [parent?, parent?, same known]
      children := fun id known => children_add ..
      next := fun id known => by rw [next?, next?, same known]
      previous := fun id known => by rw [previous?, previous?, same known]
      under := fun id home beyond there => ?_, linked := fun home beyond front id back split => ?_
      loose := fun id beyond _ => ?_ }
  · rcases last beyond with found | missing
    · simp [parent?, found] at there
    · simp [parent?, missing] at there
  · rw [children_add, children_eq_nil beyond] at split
    simp at split
  · rcases last beyond with found | missing
    · simp [next?, previous?, found]
    · simp [next?, previous?, missing]

/-- What does not last of a new node may change. -/
theorem update {step : Node → Node} (intact : Intact origin before) (new : origin.size ≤ node)
    (lasting : ∀ found, (step found).content.lasting = found.content.lasting)
    (links : ∀ found, step found = { found with content := (step found).content }) :
    Intact origin (before.update node step) := by
  have parent (found : Node) : (step found).parent = found.parent := by rw [links]
  have children (found : Node) : (step found).children = found.children := by rw [links]
  have next (found : Node) : (step found).next = found.next := by rw [links]
  have previous (found : Node) : (step found).previous = found.previous := by rw [links]
  refine
    { source := intact.source
      agrees := keepsAgreement_change lasting parent children before intact.agrees
      size := by rw [size_update]; exact intact.size
      content := fun id known => ?_
      parent := fun id known => by rw [parent?_update parent, intact.parent id known]
      children := fun id known => by rw [children_update children, intact.children id known]
      next := fun id known => by rw [next?_update next, intact.next id known]
      previous := fun id known => by rw [previous?_update previous, intact.previous id known]
      under := fun id home new there => ?_, linked := fun home new front id back split => ?_
      loose := fun id new top => ?_ }
  · have differ : node ≠ id := fun same => absurd known (Nat.not_lt.mpr (same ▸ new))
    rw [content?, node?_update, if_neg differ, ← content?, intact.content id known]
  · rw [parent?_update parent] at there
    exact intact.under id home new there
  · rw [children_update children] at split
    rw [next?_update next, previous?_update previous]
    exact intact.linked home new front id back split
  · rw [parent?_update parent] at top
    rw [next?_update next, previous?_update previous]
    exact intact.loose id new top

/-! ## One node is moved -/

theorem detached (intact : Intact origin before) (new : origin.size ≤ node)
    (movable : before.Movable node) (detached : Detached node before after) :
    Intact origin after := by
  rcases detached with ⟨-, rfl⟩ | ⟨home, front, back, there, loses⟩
  · exact intact
  · exact intact.loses (intact.under node home new there).1 loses (loses.closes (movable home there))

theorem unplaced (intact : Intact origin before) (new : origin.size ≤ node)
    (movable : before.Movable node) (unplaced : Unplaced node before after) :
    Intact origin after := by
  rcases unplaced with rfl | detached
  · exact intact
  · exact intact.detached new movable detached

theorem joins (intact : Intact origin before) (inHome : origin.size ≤ home) (lower : home < node)
    (movable : before.Movable node) (joins : Joins home node mark before after) :
    Intact origin after := by
  obtain ⟨middle, front, back, fits, detached, -, gains⟩ := joins
  have new : origin.size ≤ node := Nat.le_trans inHome (Nat.le_of_lt lower)
  exact (intact.detached new movable detached).gains inHome lower
    (Agrees.fits_of_content detached.content fits) (intact.agrees.detached detached).2 gains

theorem ousts (intact : Intact origin before) (inHome : origin.size ≤ home) (lower : home < new)
    (movable : before.Movable new) (differ : new ≠ old) (ousts : Ousts home new old before after) :
    Intact origin after := by
  obtain ⟨middle, front, back, fits, detached, swaps⟩ := ousts
  have isNew : origin.size ≤ new := Nat.le_trans inHome (Nat.le_of_lt lower)
  exact (intact.detached isNew movable detached).swaps inHome lower
    (Agrees.fits_of_content detached.content fits) (intact.agrees.detached detached).2 differ swaps

end Intact

end Forest

end MarkupSpec
