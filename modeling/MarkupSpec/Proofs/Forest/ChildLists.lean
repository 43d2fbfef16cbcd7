import MarkupSpec.Proofs.Forest.SiblingLinks

/-!
# What happens to one list

What happens to the nodes that were there before is that one of them gets another
list of children, that one of them may lose its place, and that one of them may be
emptied (`Forest.Alters`).  Below a node that is no document new children come
behind the old ones, and nothing else is touched, not even a link
(`Forest.Appends`).
-/

namespace MarkupSpec.Forest

/-- One node has another list of children, one may have lost its place, and one may
have been emptied.  All the others that were there before are as they were. -/
structure Alters (home : NodeId) (list : List NodeId) (gone emptied : Option NodeId)
    (before after : Forest) : Prop where
  size : before.size ≤ after.size
  agrees : after.Agrees
  content : ∀ id < before.size, after.content? id = before.content? id
  row : after.children home = list
  children : ∀ id < before.size, id ≠ home → emptied ≠ some id →
    after.children id = before.children id
  parent : ∀ id < before.size, id ∉ list →
    after.parent? id = if gone = some id then none else before.parent? id

/-- New nodes come behind the children of a node, and of the others not even a link
changes. -/
structure Appends (home : NodeId) (nodes : List NodeId) (before after : Forest) : Prop extends
    Alters home (before.children home ++ nodes) none none before after where
  new : ∀ id ∈ nodes, before.size ≤ id
  next : ∀ id < before.size, before.parent? id ≠ some home → after.next? id = before.next? id
  previous : ∀ id < before.size, before.parent? id ≠ some home →
    after.previous? id = before.previous? id
  linked : before.Linked home → after.Linked home

variable {before middle after : Forest} {home other node old new : NodeId}
  {nodes more list list' front back : List NodeId} {gone emptied : Option NodeId}

/-- No node has one for a parent that is not there. -/
theorem Agrees.parent_ne (agrees : before.Agrees) (beyond : before.size ≤ node) (id : NodeId) :
    before.parent? id ≠ some node := by
  intro there
  exact absurd (agrees.fits id node there).homeInside (Nat.not_lt.mpr beyond)

/-! ## One list changes -/

namespace Alters

theorem refl (agrees : before.Agrees) (row : before.children home = list) :
    Alters home list none emptied before before where
  size := Nat.le_refl _
  agrees := agrees
  content _ _ := rfl
  row := row
  children _ _ _ _ := rfl
  parent _ _ _ := rfl

/-- What happens to a list twice happens to it. -/
theorem trans (onFirst : Alters home list gone emptied before middle)
    (onSecond : Alters home list' none emptied middle after) (kept : list ⊆ list') :
    Alters home list' gone emptied before after where
  size := Nat.le_trans onFirst.size onSecond.size
  agrees := onSecond.agrees
  content id known :=
    (onSecond.content id (Nat.lt_of_lt_of_le known onFirst.size)).trans (onFirst.content id known)
  row := onSecond.row
  children id known elsewhere notEmptied :=
    (onSecond.children id (Nat.lt_of_lt_of_le known onFirst.size) elsewhere notEmptied).trans
      (onFirst.children id known elsewhere notEmptied)
  parent id known other := by
    rw [onSecond.parent id (Nat.lt_of_lt_of_le known onFirst.size) other, if_neg (Option.some_ne_none _).symm]
    exact onFirst.parent id known fun among => other (kept among)

/-- What is emptied does not matter if it was not there before. -/
theorem of_new (alters : Alters home list gone emptied before after)
    (new : ∀ id, emptied = some id → before.size ≤ id) : Alters home list gone none before after where
  size := alters.size
  agrees := alters.agrees
  content := alters.content
  row := alters.row
  children id known elsewhere _ :=
    alters.children id known elsewhere fun same => absurd known (Nat.not_lt.mpr (new id same))
  parent := alters.parent

/-- What is done below a node that was not there before does not show. -/
theorem below (alters : Alters home list gone emptied before middle) (agrees : before.Agrees)
    (inside : home < before.size) (new : before.size ≤ node)
    (inner : Appends node more middle after) : Alters home list gone emptied before after where
  size := Nat.le_trans alters.size inner.size
  agrees := inner.agrees
  content id known :=
    (inner.content id (Nat.lt_of_lt_of_le known alters.size)).trans (alters.content id known)
  row := by
    have elsewhere : home ≠ node := Nat.ne_of_lt (Nat.lt_of_lt_of_le inside new)
    rw [inner.children home (Nat.lt_of_lt_of_le inside alters.size) elsewhere (Option.some_ne_none _).symm]
    exact alters.row
  children id known elsewhere notEmptied := by
    have notNode : id ≠ node := Nat.ne_of_lt (Nat.lt_of_lt_of_le known new)
    rw [inner.children id (Nat.lt_of_lt_of_le known alters.size) notNode (Option.some_ne_none _).symm]
    exact alters.children id known elsewhere notEmptied
  parent id known other := by
    have known' := Nat.lt_of_lt_of_le known alters.size
    have same := alters.parent id known other
    rw [inner.parent id known', if_neg (Option.some_ne_none _).symm]
    · exact same
    · intro among
      rcases List.mem_append.mp among with there | added
      · -- It would be a child of a node that was not there.
        rw [alters.agrees.parent node id there] at same
        split at same
        · cases same
        · exact agrees.parent_ne new id same.symm
      · exact absurd known' (Nat.not_lt.mpr (inner.new id added))

end Alters

/-! ## New children come behind the old ones -/

namespace Appends

theorem parent_eq (appends : Appends home nodes before after) (agrees : before.Agrees) {id : NodeId}
    (inside : id < before.size) : after.parent? id = before.parent? id := by
  by_cases among : id ∈ before.children home ++ nodes
  · have there := appends.agrees.parent home id (appends.row ▸ among)
    rcases List.mem_append.mp among with early | late
    · rw [there, agrees.parent home id early]
    · exact absurd inside (Nat.not_lt.mpr (appends.new id late))
  · rw [appends.parent id inside among, if_neg (Option.some_ne_none _).symm]

theorem refl (agrees : before.Agrees) (home : NodeId) : Appends home [] before before where
  size := Nat.le_refl _
  agrees := agrees
  content _ _ := rfl
  row := (List.append_nil _).symm
  children _ _ _ _ := rfl
  parent _ _ _ := rfl
  new _ none := absurd none List.not_mem_nil
  next _ _ _ := rfl
  previous _ _ _ := rfl
  linked linked := linked

theorem trans (onFirst : Appends home nodes before middle)
    (onSecond : Appends home more middle after) (agrees : before.Agrees) :
    Appends home (nodes ++ more) before after where
  toAlters := by
    have later := onSecond.toAlters
    rw [onFirst.row, List.append_assoc] at later
    exact onFirst.toAlters.trans later (by simp)
  new id among := by
    rcases List.mem_append.mp among with early | late
    · exact onFirst.new id early
    · exact Nat.le_trans onFirst.size (onSecond.new id late)
  next id known notHome := by
    have notHome' := (onFirst.parent_eq agrees known).symm ▸ notHome
    rw [onSecond.next id (Nat.lt_of_lt_of_le known onFirst.size) notHome',
      onFirst.next id known notHome]
  previous id known notHome := by
    have notHome' := (onFirst.parent_eq agrees known).symm ▸ notHome
    rw [onSecond.previous id (Nat.lt_of_lt_of_le known onFirst.size) notHome',
      onFirst.previous id known notHome]
  linked linked := onSecond.linked (onFirst.linked linked)

/-- Of nodes that have other parents than the home the row stays as it is. -/
theorem linked_other (appends : Appends home nodes before after) (agrees : before.Agrees)
    (inside : other < before.size) (differ : other ≠ home) (linked : before.Linked other) :
    after.Linked other := by
  refine linked.elsewhere agrees (appends.children other inside differ (Option.some_ne_none _).symm) fun id there => ?_
  have known := lt_size_of_parent? there
  have notHome : before.parent? id ≠ some home := by
    rw [there]
    exact fun same => differ (Option.some.inj same)
  exact ⟨appends.next id known notHome, appends.previous id known notHome⟩

/-- What is done below a node that was not there before does not show, and touches no
link. -/
theorem below (appends : Appends home nodes before middle) (agrees : before.Agrees)
    (inside : home < before.size) (new : before.size ≤ node)
    (inner : Appends node more middle after) : Appends home nodes before after := by
  have notNode {id : NodeId} (known : id < before.size) : middle.parent? id ≠ some node := by
    rw [appends.parent_eq agrees known]
    exact agrees.parent_ne new id
  refine
    { toAlters := appends.toAlters.below agrees inside new inner
      new := appends.new, next := fun id known notHome => ?_
      previous := fun id known notHome => ?_, linked := fun linked => ?_ }
  · rw [inner.next id (Nat.lt_of_lt_of_le known appends.size) (notNode known)]
    exact appends.next id known notHome
  · rw [inner.previous id (Nat.lt_of_lt_of_le known appends.size) (notNode known)]
    exact appends.previous id known notHome
  · exact inner.linked_other appends.agrees (Nat.lt_of_lt_of_le inside appends.size)
      (Nat.ne_of_lt (Nat.lt_of_lt_of_le inside new)) (appends.linked linked)

/-- What happens to a list after nodes were added elsewhere happens to it. -/
theorem alters (appends : Appends other nodes before middle) (agrees : before.Agrees)
    (new : before.size ≤ other) (alters : Alters home list gone emptied middle after) :
    Alters home list gone emptied before after where
  size := Nat.le_trans appends.size alters.size
  agrees := alters.agrees
  content id known :=
    (alters.content id (Nat.lt_of_lt_of_le known appends.size)).trans (appends.content id known)
  row := alters.row
  children id known elsewhere notEmptied := by
    have notOther : id ≠ other := Nat.ne_of_lt (Nat.lt_of_lt_of_le known new)
    rw [alters.children id (Nat.lt_of_lt_of_le known appends.size) elsewhere notEmptied]
    exact appends.children id known notOther (Option.some_ne_none _).symm
  parent id known outside := by
    rw [alters.parent id (Nat.lt_of_lt_of_le known appends.size) outside,
      appends.parent_eq agrees known]

end Appends

/-! ## Adding a node -/

theorem children_add (forest : Forest) (content : Content) (owner : Option NodeId) (id : NodeId) :
    (forest.add { content, owner }).children id = forest.children id := by
  by_cases last : id = forest.size
  · simp [children, last, node?_eq_none (Nat.le_refl forest.size)]
  · simp [children, last]

/-- A node that is added has no place and touches nothing. -/
theorem Appends.add (agrees : before.Agrees) (home : NodeId) (content : Content)
    (owner : Option NodeId) : Appends home [] before (before.add { content, owner }) := by
  have same {id : NodeId} (known : id < before.size) :
      (before.add { content, owner }).node? id = before.node? id := by
    rw [node?_add, if_neg (Nat.ne_of_lt known)]
  refine
    { size := by simp, agrees := agrees.add content owner
      content := fun id known => ?_, row := ?_, children := fun id _ _ _ => ?_
      parent := fun id known _ => ?_, new := fun _ none => absurd none List.not_mem_nil
      next := fun id known _ => ?_, previous := fun id known _ => ?_
      linked := fun linked front id back split => ?_ }
  · rw [content?, content?, same known]
  · rw [children_add, List.append_nil]
  · rw [children_add]
  · rw [parent?, parent?, same known, if_neg (Option.some_ne_none _).symm]
  · rw [next?, next?, same known]
  · rw [previous?, previous?, same known]
  · rw [children_add] at split
    have known : id < before.size :=
      agrees.lt_size_of_mem (by simp [split] : id ∈ before.children home)
    rw [next?, previous?, same known]
    exact linked front id back split

/-! ## Placing a node that has no place -/

theorem Gains.alters (gains : Gains home node front back before after) (agrees : before.Agrees)
    (fits : before.Fits home node) (top : before.parent? node = none) :
    Alters home (front ++ node :: back) none none before after where
  size := Nat.le_of_eq gains.size.symm
  agrees := agrees.gains top fits gains
  content id _ := gains.content id
  row := by rw [gains.children, if_pos rfl]
  children id _ elsewhere _ := by rw [gains.children, if_neg elsewhere]
  parent id _ outside := by
    have differ : id ≠ node := fun same => outside (by simp [same])
    rw [gains.parent, if_neg differ, if_neg (Option.some_ne_none _).symm]

theorem Swaps.alters (swaps : Swaps home new old front back before after) (agrees : before.Agrees)
    (fits : before.Fits home new) (top : before.parent? new = none) (differ : new ≠ old) :
    Alters home (front ++ new :: back) (some old) none before after where
  size := Nat.le_of_eq swaps.size.symm
  agrees := agrees.swaps top fits differ swaps
  content id _ := swaps.content id
  row := by rw [swaps.children, if_pos rfl]
  children id _ elsewhere _ := by rw [swaps.children, if_neg elsewhere]
  parent id _ outside := by
    have notNew : id ≠ new := fun same => outside (by simp [same])
    rw [swaps.parent, if_neg notNew]
    simp [eq_comm]

/-- A node that comes into the list of a home may have left a holder for it. -/
theorem Loses.alters (loses : Loses other node front back before middle)
    (alters : Alters home list gone none middle after) (among : node ∈ list) :
    Alters home list gone (some other) before after where
  size := loses.size ▸ alters.size
  agrees := alters.agrees
  content id known := (alters.content id (loses.size ▸ known)).trans (loses.content id)
  row := alters.row
  children id known elsewhere notOther := by
    rw [alters.children id (loses.size ▸ known) elsewhere (Option.some_ne_none _).symm, loses.children,
      if_neg fun same => notOther (by rw [same])]
  parent id known outside := by
    have differ : id ≠ node := fun same => outside (same ▸ among)
    rw [alters.parent id (loses.size ▸ known) outside, loses.parent, if_neg differ]

/-- A new node comes behind the children of a home. -/
theorem Appends.gains (appends : Appends home nodes before middle) (agrees : before.Agrees)
    (new : before.size ≤ node) (fits : middle.Fits home node) (top : middle.parent? node = none)
    (loose : middle.previous? node = none)
    (gains : Gains home node (middle.children home) [] middle after) :
    Appends home (nodes ++ [node]) before after := by
  have others {id : NodeId} (known : id < before.size) (notHome : before.parent? id ≠ some home) :
      id ≠ node ∧ (middle.children home).getLast? ≠ some id := by
    refine ⟨Nat.ne_of_lt (Nat.lt_of_lt_of_le known new), fun last => notHome ?_⟩
    rw [← appends.parent_eq agrees known]
    exact appends.agrees.parent home id (List.mem_of_getLast? last)
  refine
    { toAlters := ?_, new := fun id among => ?_, next := fun id known notHome => ?_
      previous := fun id known notHome => ?_
      linked := fun linked => (appends.linked linked).gains appends.agrees top loose gains }
  · have later := gains.alters appends.agrees fits top
    rw [appends.row, List.append_assoc] at later
    exact appends.toAlters.trans later (by simp)
  · rcases List.mem_append.mp among with early | isNode
    · exact appends.new id early
    · rw [List.mem_singleton.mp isNode]
      exact new
  · obtain ⟨notNode, notLast⟩ := others known notHome
    rw [gains.next, if_neg notNode, if_neg notLast, appends.next id known notHome]
  · obtain ⟨notNode, -⟩ := others known notHome
    rw [gains.previous loose, if_neg notNode, List.head?_nil, if_neg (Option.some_ne_none _).symm,
      appends.previous id known notHome]

end MarkupSpec.Forest
