import MarkupSpec.Proofs.Forest.Ordered

/-!
# One node moves

A node that is attached leaves the row that it is in and comes into the row of a home, where the
target says (`Forest.Relocates`).  Both may be one row, and the node may be a neighbour of the
reference already.  All the others stay in their order.

There is one exception.  Behind a node means in front of the next one, and that is looked up before
the node leaves its place.  So a node that follows the reference already is to come in front of
itself: it leaves its place and then is refused a new one (`attach_moves`).
-/

namespace MarkupSpec

open Forest Edit Build

/-- The target is behind a node, and right there the node is already. -/
def Target.Precedes (target : Target) (forest : Forest) (node : NodeId) : Prop :=
  target.mode = .after ∧ forest.next? target.reference = some node

namespace Forest

variable {before middle after forest : Forest} {home node old id : NodeId} {mark : Option NodeId}
  {target : Target}

/-- The node has left its place and is in the row of the home where the target says. -/
structure Relocates (target : Target) (home node : NodeId) (before after : Forest) : Prop where
  ordered : after.Ordered
  size : after.size = before.size
  content : ∀ id, after.content? id = before.content? id
  row : after.children home = target.splice [node] ((before.children home).erase node)
  children : ∀ id, id ≠ home → after.children id = (before.children id).erase node
  parent : ∀ id, after.parent? id =
    if id = node then some home
    else if target.gone [node] = some id then none else before.parent? id

/-- The node is in no row any more. -/
structure Withdrawn (node : NodeId) (before after : Forest) : Prop where
  ordered : after.Ordered
  size : after.size = before.size
  content : ∀ id, after.content? id = before.content? id
  children : ∀ id, after.children id = (before.children id).erase node
  parent : ∀ id, after.parent? id = if id = node then none else before.parent? id

/-! ## Rows without a node -/

/-- A node that has no parent is in no row. -/
theorem Agrees.not_mem_children (agrees : forest.Agrees) (top : forest.parent? node = none)
    (home : NodeId) : node ∉ forest.children home := by
  intro among
  rw [agrees.parent home node among] at top
  cases top

theorem Detached.children (detached : Detached node before after) (agrees : before.Agrees)
    (id : NodeId) : after.children id = (before.children id).erase node := by
  rcases detached with ⟨top, rfl⟩ | ⟨home, front, back, there, loses⟩
  · exact (List.erase_of_not_mem (agrees.not_mem_children top id)).symm
  · rw [loses.children]
    split
    · rename_i isHome
      have distinct := agrees.nodup home
      rw [loses.split] at distinct
      rw [isHome, loses.split, erase_around distinct]
    · rename_i elsewhere
      refine (List.erase_of_not_mem fun among => elsewhere ?_).symm
      rw [agrees.parent id node among] at there
      exact Option.some.inj there

theorem withdrawn_of_detached (ordered : before.Ordered) (movable : before.Movable node)
    (detached : Detached node before after) : Withdrawn node before after where
  ordered := ordered.detached movable detached
  size := detached.size
  content := detached.content
  children := detached.children ordered.agrees
  parent id := by
    split
    · rename_i same
      rw [same]
      exact (ordered.agrees.detached detached).2
    · rename_i differ
      exact detached.parent differ

/-! ## Rows with a node -/

/-- Where a node joins the children of a home, the others stay in their order. -/
theorem Joins.relocates (joins : Joins home node mark before after) (ordered : before.Ordered)
    (movable : before.Movable node) (stays : target.mode ≠ .replacing)
    (splits : ∀ front back, (before.children home).erase node = front ++ back →
      back.head? = mark → target.splice [node] (front ++ back) = front ++ node :: back) :
    Relocates target home node before after := by
  have ordered' := ordered.comes movable (.inl ⟨mark, joins⟩)
  have parent := joins.parent
  obtain ⟨middle, front, back, -, detached, isMark, gains⟩ := id joins
  have without := detached.children ordered.agrees
  have split := (without home).symm.trans gains.split
  exact
    { ordered := ordered'
      size := joins.size
      content := joins.content
      row := by rw [gains.children, if_pos rfl, split, splits front back split isMark]
      children := fun id elsewhere => by rw [gains.children, if_neg elsewhere, without]
      parent := fun id => by simp [parent, Target.gone, stays] }

/-- Where a node takes the place of another one, the others stay in their order. -/
theorem Ousts.relocates (ousts : Ousts home node target.reference before after)
    (ordered : before.Ordered) (movable : before.Movable node) (differ : node ≠ target.reference)
    (isReplacing : target.mode = .replacing) : Relocates target home node before after := by
  have ordered' := ordered.comes movable (.inr ⟨_, differ, ousts⟩)
  obtain ⟨middle, front, back, -, detached, swaps⟩ := id ousts
  have without := detached.children ordered.agrees
  have split := (without home).symm.trans swaps.split
  have distinct := (ordered.agrees.nodup home).erase node
  rw [split] at distinct
  exact
    { ordered := ordered'
      size := swaps.size.trans detached.size
      content := ousts.content
      row := by
        rw [swaps.children, if_pos rfl, split,
          Target.splice_replacing distinct isReplacing (List.cons_ne_nil _ _)]
        simp
      children := fun id elsewhere => by rw [swaps.children, if_neg elsewhere, without]
      parent := fun id => by
        have isGone : target.gone [node] = some target.reference := by
          simp [Target.gone, isReplacing]
        rw [swaps.parent, isGone]
        by_cases isOld : id = target.reference
        · rw [if_pos isOld, if_neg fun same => differ (same.symm.trans isOld),
            if_pos (congrArg some isOld.symm)]
        · rw [if_neg isOld, if_neg fun same => isOld (Option.some.inj same).symm]
          split
          · rfl
          · rename_i other
            exact detached.parent other }

/-- What is behind the reference does not change when another node leaves than the next one. -/
theorem Linked.split_erase (linked : forest.Linked home) (among : old ∈ forest.children home)
    (differ : node ≠ old)
    (notNext : forest.next? old ≠ some node) :
    ∃ front back, (forest.children home).erase node = front ++ old :: back ∧
      back.head? = forest.next? old := by
  obtain ⟨front, back, split⟩ := List.append_of_mem among
  obtain ⟨next, -⟩ := linked front old back split
  rw [next] at notNext ⊢
  rw [split, List.erase_append]
  split
  · exact ⟨front.erase node, back, rfl, rfl⟩
  · rw [List.erase_cons_tail (by simpa using differ.symm)]
    refine ⟨front, back.erase node, rfl, ?_⟩
    cases back with
    | nil => rfl
    | cons first rest =>
        have notFirst : first ≠ node := fun same => notNext (congrArg some same)
        rw [List.erase_cons_tail (by simpa using notFirst)]
        rfl

/-- A host takes any one node that may be inside of hosts. -/
theorem IsHost.takes_inner (isHost : forest.IsHost home)
    (isInner : forest.isA Content.isInner node) : forest.Takes home [node] :=
  ⟨isHost.isDocument, List.forall_mem_singleton.mpr (isHost.fits isInner)⟩

end Forest

/-! ## Placing -/

namespace Edit

variable {forest : Forest} {home node : NodeId} {target : Target}

/-- A node does not come in front of itself, but it has left its place by then. -/
theorem refused_insertOne (agrees : forest.Agrees) (fits : forest.Fits home node) :
    Ensures (insertOne home node (some node)) forest (fun _ _ => False)
      fun cause after => cause = .notAChild ∧ Detached node forest after := by
  show Ensures (checkKind home node >>= _) forest _ _
  rw [ensures_bind]
  refine ensures_checkKind.mono (fun _ after checked => ?_) fun _ _ failed => absurd fits failed.2
  obtain ⟨same, -⟩ := checked
  obtain rfl := same.symm
  rw [ensures_bind]
  refine (ensures_detach agrees).mono (fun _ middle detached => ?_) fun _ _ failed =>
    absurd (node?_isSome_iff.mpr fits.lt_size) (by simp [failed.2])
  obtain ⟨agrees', top⟩ := agrees.detached detached
  have homeInside := fits.homeInside
  rw [← detached.size] at homeInside
  show Ensures (look home >>= _) middle _ _
  rw [ensures_bind, ensures_look]
  refine ⟨fun above there => ?_, fun none =>
    absurd (node?_isSome_iff.mpr homeInside) (by simp [none])⟩
  rw [← children_of_node? there, if_neg (agrees'.not_mem_children top home)]
  exact ⟨rfl, detached⟩

section Place

variable (ordered : forest.Ordered) (isInner : forest.isA Content.isInner node)
  (movable : forest.Movable node) (isHost : forest.IsHost home)

include ordered isInner movable isHost

theorem relocates_attachUnder :
    Ensures (attachUnder home node) forest
      (fun _ after => Relocates (.under home) home node forest after) fun _ _ => False := by
  refine (joins_attachUnder ordered.agrees isHost.isDocument (isHost.fits isInner).isFragment).mono
    (fun _ after joins => ?_) fun _ _ refused => refused (isHost.takes_inner isInner)
  refine joins.relocates ordered movable (by simp [Target.under]) fun front back _ isEnd => ?_
  rw [List.head?_eq_none_iff.mp isEnd]
  simp [Target.splice, Target.under]

variable {reference : NodeId} (there : forest.parent? reference = some home)
  (differ : node ≠ reference)

include there differ

theorem relocates_before :
    Ensures (insertBeforeSibling node reference) forest
      (fun _ after => Relocates { mode := .before, reference } home node forest after)
      fun _ _ => False := by
  have fits := isHost.fits isInner
  have among := ordered.agrees.child reference home there
  rw [insertBeforeSibling, ensures_parentOf_child there]
  refine (joins_insertBefore ordered.agrees fits.isFragment fun other same => ?_).mono
    (fun _ after joins => ?_) fun _ _ refused => refused (isHost.takes_inner isInner)
  · cases same
    exact ⟨among, differ.symm⟩
  · refine joins.relocates ordered movable (by simp) fun front back split isMark => ?_
    obtain ⟨rest, rfl⟩ := List.head?_eq_some_iff.mp isMark
    have distinct := (ordered.agrees.nodup home).erase node
    rw [split] at distinct
    rw [Target.splice_before distinct rfl]
    simp

theorem relocates_replacing :
    Ensures (replaceSibling reference node) forest
      (fun _ after => Relocates { mode := .replacing, reference } home node forest after)
      fun _ _ => False := by
  have fits := isHost.fits isInner
  have among := ordered.agrees.child reference home there
  obtain ⟨found, isFound⟩ := node?_of_lt fits.lt_size
  rw [replaceSibling, ensures_bind_look isFound, fits.isFragment_of_node? isFound,
    if_neg Bool.false_ne_true, ensures_parentOf_child there]
  refine (ousts_replaceChild ordered.agrees fits.isFragment among differ).mono
    (fun _ after ousts => ?_) fun _ _ refused => refused (isHost.takes_inner isInner)
  exact ousts.relocates ordered movable differ rfl

/-- Behind a node another one finds its place, unless it is right there already. -/
theorem relocates_after :
    Ensures (insertAfterSibling node reference) forest
      (fun _ after => forest.next? reference ≠ some node ∧
        Relocates { mode := .after, reference } home node forest after)
      fun cause after => forest.next? reference = some node ∧ cause = .notAChild ∧
        Withdrawn node forest after := by
  have agrees := ordered.agrees
  have fits := isHost.fits isInner
  have among := agrees.child reference home there
  obtain ⟨found, isFound⟩ := node?_of_lt (agrees.lt_size_of_mem among)
  rw [insertAfterSibling, ensures_parentOf_child there, ensures_bind_look isFound,
    ← next?_of_node? isFound]
  by_cases isNext : forest.next? reference = some node
  · obtain ⟨below, isBelow⟩ := node?_of_lt fits.lt_size
    rw [isNext, insertBefore, ensures_bind_look isBelow, fits.isFragment_of_node? isBelow,
      if_neg Bool.false_ne_true]
    refine (refused_insertOne agrees fits).mono (fun _ _ impossible => impossible.elim)
      fun cause after refused => ?_
    obtain ⟨isCause, detached⟩ := refused
    exact ⟨rfl, isCause, withdrawn_of_detached ordered movable detached⟩
  · obtain ⟨ahead, behind, split, isMark⟩ :=
      (ordered.linked home).split_erase among differ isNext
    have distinct := (agrees.nodup home).erase node
    rw [split] at distinct
    refine (joins_insertBefore agrees fits.isFragment fun other same => ?_).mono
      (fun _ after joins => ⟨isNext, ?_⟩) fun _ _ refused =>
        (refused (isHost.takes_inner isInner)).elim
    · have inside : other ∈ (forest.children home).erase node := by
        rw [split]
        simp [List.mem_of_head? (isMark.trans same)]
      exact ⟨List.mem_of_mem_erase inside, fun isNode => isNext (isNode ▸ same)⟩
    · refine joins.relocates ordered movable (by simp) fun front back split' isMark' => ?_
      obtain ⟨rfl, rfl⟩ : ahead ++ [reference] = front ∧ behind = back :=
        cut_unique distinct (by simp) (split.symm.trans split') (isMark.trans isMark'.symm)
      rw [← split', split, Target.splice_after distinct rfl]
      simp

end Place

/-- A node that may leave its place finds the one that the target says, unless it is right behind
the reference already and should be there. -/
theorem relocates_place (ordered : forest.Ordered) (isHome : target.home? forest = some home)
    (isHost : forest.IsHost home) (isInner : forest.isA Content.isInner node)
    (movable : forest.Movable node) (differ : node ≠ target.reference) :
    Ensures (place target node) forest
      (fun _ after => ¬ target.Precedes forest node ∧ Relocates target home node forest after)
      fun cause after => target.Precedes forest node ∧ cause = .notAChild ∧
        Withdrawn node forest after := by
  obtain ⟨mode, reference⟩ := target
  cases mode with
  | under =>
      cases isHome
      exact (relocates_attachUnder ordered isInner movable isHost).mono
        (fun _ _ moved => ⟨nofun, moved⟩) fun _ _ impossible => impossible.elim
  | before =>
      exact (relocates_before ordered isInner movable isHost isHome differ).mono
        (fun _ _ moved => ⟨nofun, moved⟩) fun _ _ impossible => impossible.elim
  | after =>
      exact (relocates_after ordered isInner movable isHost isHome differ).mono
        (fun _ _ moved => ⟨fun precedes => moved.1 precedes.2, moved.2⟩)
        fun _ _ refused => ⟨⟨rfl, refused.1⟩, refused.2⟩
  | replacing =>
      exact (relocates_replacing ordered isInner movable isHost isHome differ).mono
        (fun _ _ moved => ⟨nofun, moved⟩) fun _ _ impossible => impossible.elim

end Edit

/-! ## Attaching -/

/-- A node that is attached moves.  It leaves the row that it is in and comes into the row of its
home where the target says, and all the others stay in their order.  Only if it follows the
reference already and should come behind that, it is taken out and nothing else happens. -/
theorem attach_moves {target : Target} {world : World} {home node : NodeId}
    (ordered : world.forest.Ordered) (isHome : target.home? world.forest = some home)
    (isHost : world.forest.IsHost home) (isInner : world.forest.isA Content.isInner node)
    (movable : world.forest.Movable node) (differ : node ≠ target.reference) :
    Ensures (attach target node) world
      (fun _ after => ¬ target.Precedes world.forest node ∧ world.SameValues after ∧
        Relocates target home node world.forest after.forest)
      fun cause after => target.Precedes world.forest node ∧ world.SameValues after ∧
        cause = .edit .notAChild ∧ Withdrawn node world.forest after.forest := by
  refine ensures_attach_at isHome fun later same values => ?_
  rw [ensures_edit, same]
  refine (relocates_place ordered isHome isHost isInner movable differ).mono
    (fun _ after moved => ?_) fun cause after refused => ?_
  · exact ⟨moved.1, values.edited after, moved.2⟩
  · exact ⟨refused.1, values.edited after, congrArg Failure.edit refused.2.1, refused.2.2⟩

end MarkupSpec
