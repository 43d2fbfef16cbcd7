import Mathlib.Data.List.Nodup
import MarkupSpec.Proofs.Forest.EditFootprint

/-!
# Parents and children agree

A node is in the list of children of another one exactly when that one is its
parent and may hold it, and in no list twice (`Forest.Agrees`).  Every edit keeps
this, also when it fails.

What an edit does to the lists is one of three things.  A node without a parent
is put between two parts of a list (`Forest.Gains`), a node is taken out of a list
(`Forest.Loses`), or a node gets the place of another one (`Forest.Swaps`).
-/

namespace MarkupSpec

open Edit

namespace Forest

/-- One node may hold the other by the kinds of both. -/
def Fits (forest : Forest) (home child : NodeId) : Prop :=
  ∃ above below, forest.content? home = some above ∧ forest.content? child = some below ∧
    above.holds below = true

/-- Parents and children agree, and their kinds fit. -/
structure Agrees (forest : Forest) : Prop where
  fits : ∀ child home, forest.parent? child = some home → forest.Fits home child
  parent : ∀ home, ∀ child ∈ forest.children home, forest.parent? child = some home
  child : ∀ child home, forest.parent? child = some home → child ∈ forest.children home
  nodup : ∀ home, (forest.children home).Nodup

section Fits

variable {before after forest : Forest} {home child : NodeId}

theorem Fits.lt_size (fits : forest.Fits home child) : child < forest.size := by
  obtain ⟨above, below, -, there, -⟩ := fits
  rcases Nat.lt_or_ge child forest.size with inside | beyond
  · exact inside
  · rw [content?_eq_none beyond] at there
    cases there

theorem Fits.homeInside (fits : forest.Fits home child) : home < forest.size := by
  obtain ⟨above, below, there, -⟩ := fits
  rcases Nat.lt_or_ge home forest.size with inside | beyond
  · exact inside
  · rw [content?_eq_none beyond] at there
    cases there

theorem Fits.isParent_of_node? {node : Node} (fits : forest.Fits home child)
    (there : forest.node? home = some node) : node.content.isParent = true := by
  obtain ⟨above, below, isAbove, -, holds⟩ := fits
  rw [content?_of_node? there] at isAbove
  cases isAbove
  exact Content.isParent_of_holds holds

theorem Fits.isFragment (fits : forest.Fits home child) :
    forest.isA Content.isFragment child = false := by
  obtain ⟨above, below, -, there, holds⟩ := fits
  rw [isA, there]
  exact Content.isFragment_of_holds holds

theorem Fits.isFragment_of_node? {node : Node} (fits : forest.Fits home child)
    (there : forest.node? child = some node) : node.content.isFragment = false :=
  (isA_of_node? there).symm.trans fits.isFragment

theorem Fits.isDocument (fits : forest.Fits home child) :
    forest.isA Content.isDocument child = false := by
  obtain ⟨above, below, -, there, holds⟩ := fits
  rw [isA, there]
  exact Content.isDocument_of_holds holds

/-- Whether kinds fit depends on what lasts of the contents. -/
theorem Fits.of_lasting (fits : before.Fits home child)
    (same : ∀ id, (after.content? id).map Content.lasting =
      (before.content? id).map Content.lasting) : after.Fits home child := by
  obtain ⟨above, below, there, there', holds⟩ := fits
  have sameAbove := same home
  have sameBelow := same child
  rw [there] at sameAbove
  rw [there'] at sameBelow
  obtain ⟨above', here, isAbove⟩ := Option.map_eq_some_iff.mp sameAbove
  obtain ⟨below', here', isBelow⟩ := Option.map_eq_some_iff.mp sameBelow
  refine ⟨above', below', here, here', ?_⟩
  rw [← Content.holds_lasting, isAbove, isBelow, Content.holds_lasting]
  exact holds

end Fits

/-- The next sibling that a node is linked to. -/
def next? (forest : Forest) (id : NodeId) : Option NodeId := (forest.node? id).bind Node.next

/-- The previous sibling that a node is linked to. -/
def previous? (forest : Forest) (id : NodeId) : Option NodeId :=
  (forest.node? id).bind Node.previous

/-! ## Readings after a change -/

section Readings

variable {forest : Forest} {changed id : NodeId} {change : Node → Node}

theorem children_update_self (relist : List NodeId → List NodeId) (inside : id < forest.size)
    (set : ∀ node, (change node).children = relist node.children) :
    (forest.update id change).children id = relist (forest.children id) := by
  have there := node?_isSome_iff.mpr inside
  obtain ⟨node, found⟩ := Option.isSome_iff_exists.mp there
  simp [children, found, set]

theorem parent?_update_of_lt {parent : Option NodeId} (inside : id < forest.size)
    (set : ∀ node, (change node).parent = parent) :
    (forest.update id change).parent? id = parent := by
  obtain ⟨node, found⟩ := Option.isSome_iff_exists.mp (node?_isSome_iff.mpr inside)
  simp [parent?, found, set]

theorem next?_update (kept : ∀ node, (change node).next = node.next) :
    (forest.update changed change).next? id = forest.next? id := by
  simp only [next?, node?_update]
  split
  · cases forest.node? id with
    | none => rfl
    | some node => simp [kept]
  · rfl

theorem previous?_update (kept : ∀ node, (change node).previous = node.previous) :
    (forest.update changed change).previous? id = forest.previous? id := by
  simp only [previous?, node?_update]
  split
  · cases forest.node? id with
    | none => rfl
    | some node => simp [kept]
  · rfl

theorem next?_update_set {next : Option NodeId} (inside : id = changed → id < forest.size)
    (set : ∀ node, (change node).next = next) :
    (forest.update changed change).next? id = if id = changed then next else forest.next? id := by
  by_cases here : id = changed
  · obtain ⟨node, found⟩ := Option.isSome_iff_exists.mp (node?_isSome_iff.mpr (inside here))
    subst here
    simp [next?, found, set]
  · simp [next?, here, Ne.symm here]

theorem previous?_update_set {previous : Option NodeId} (inside : id = changed → id < forest.size)
    (set : ∀ node, (change node).previous = previous) :
    (forest.update changed change).previous? id =
      if id = changed then previous else forest.previous? id := by
  by_cases here : id = changed
  · obtain ⟨node, found⟩ := Option.isSome_iff_exists.mp (node?_isSome_iff.mpr (inside here))
    subst here
    simp [previous?, found, set]
  · simp [previous?, here, Ne.symm here]

theorem next?_of_node? {node : Node} (there : forest.node? id = some node) :
    forest.next? id = node.next := by
  simp [next?, there]

theorem previous?_of_node? {node : Node} (there : forest.node? id = some node) :
    forest.previous? id = node.previous := by
  simp [previous?, there]

end Readings

/-! ## What an edit does to the lists -/

/-- A child is put between two parts of the list of a home. -/
structure Gains (home child : NodeId) (front back : List NodeId) (before after : Forest) :
    Prop where
  size : after.size = before.size
  content : ∀ id, after.content? id = before.content? id
  split : before.children home = front ++ back
  children : ∀ id, after.children id =
    if id = home then front ++ child :: back else before.children id
  parent : ∀ id, after.parent? id = if id = child then some home else before.parent? id
  next : ∀ id, after.next? id =
    if id = child then back.head?
    else if front.getLast? = some id then some child else before.next? id
  previous : before.previous? child = none → ∀ id, after.previous? id =
    if id = child then front.getLast?
    else if back.head? = some id then some child else before.previous? id

/-- A child is taken out of the list of a home.  The gap is closed unless the home
is a document. -/
structure Loses (home child : NodeId) (front back : List NodeId) (before after : Forest) :
    Prop where
  size : after.size = before.size
  content : ∀ id, after.content? id = before.content? id
  split : before.children home = front ++ child :: back
  children : ∀ id, after.children id = if id = home then front ++ back else before.children id
  parent : ∀ id, after.parent? id = if id = child then none else before.parent? id
  loose : after.next? child = none ∧ after.previous? child = none
  next : before.isA Content.isDocument home = false → ∀ id < before.size, after.next? id =
    if id = child then none
    else if before.previous? child = some id then before.next? child else before.next? id
  previous : before.isA Content.isDocument home = false → ∀ id < before.size, after.previous? id =
    if id = child then none
    else if before.next? child = some id then before.previous? child else before.previous? id

/-- A node gets the place of a child of a home, and its neighbours if these are
others. -/
structure Swaps (home new old : NodeId) (front back : List NodeId) (before after : Forest) :
    Prop where
  size : after.size = before.size
  content : ∀ id, after.content? id = before.content? id
  split : before.children home = front ++ old :: back
  children : ∀ id, after.children id =
    if id = home then front ++ new :: back else before.children id
  parent : ∀ id, after.parent? id =
    if id = old then none else if id = new then some home else before.parent? id
  next : (∀ id, before.previous? old = some id ∨ before.next? old = some id →
      id ≠ new ∧ id ≠ old) →
    ∀ id < before.size, after.next? id =
      if id = old then none
      else if id = new then before.next? old
      else if before.previous? old = some id then some new else before.next? id
  previous : (∀ id, before.previous? old = some id ∨ before.next? old = some id →
      id ≠ new ∧ id ≠ old) →
    ∀ id < before.size, after.previous? id =
      if id = old then none
      else if id = new then before.previous? old
      else if before.next? old = some id then some new else before.previous? id

/-- A node has no place any more. -/
def Detached (child : NodeId) (before after : Forest) : Prop :=
  before.parent? child = none ∧ after = before ∨
    ∃ home front back, before.parent? child = some home ∧ Loses home child front back before after

namespace Agrees

variable {before after : Forest} {home child new old : NodeId} {front back : List NodeId}

theorem fits_of_content (same : ∀ id, after.content? id = before.content? id)
    (fits : before.Fits home child) : after.Fits home child :=
  fits.of_lasting fun id => by rw [same]

theorem lt_size_of_mem (agrees : before.Agrees) (among : child ∈ before.children home) :
    child < before.size :=
  lt_size_of_parent? (agrees.parent home child among)

/-- A new node has no place yet. -/
theorem add (agrees : before.Agrees) (content : Content) (owner : Option NodeId) :
    (before.add { content, owner }).Agrees := by
  have sameParent (id : NodeId) :
      (before.add { content, owner }).parent? id = before.parent? id := by
    by_cases last : id = before.size
    · simp [parent?, last, node?_eq_none (Nat.le_refl before.size)]
    · simp [parent?, last]
  have sameChildren (id : NodeId) :
      (before.add { content, owner }).children id = before.children id := by
    by_cases last : id = before.size
    · simp [children, last, node?_eq_none (Nat.le_refl before.size)]
    · simp [children, last]
  have sameContent {id : NodeId} {content' : Content} (there : before.content? id = some content') :
      (before.add { content, owner }).content? id = some content' := by
    have differ : id ≠ before.size := by
      rintro rfl
      rw [content?_eq_none (Nat.le_refl _)] at there
      cases there
    simpa [content?, differ] using there
  refine
    { fits := fun child home there => ?_, parent := fun home child among => ?_
      child := fun child home there => ?_, nodup := fun home => ?_ }
  · rw [sameParent] at there
    obtain ⟨above, below, isAbove, isBelow, holds⟩ := agrees.fits child home there
    exact ⟨above, below, sameContent isAbove, sameContent isBelow, holds⟩
  · rw [sameChildren] at among
    rw [sameParent]
    exact agrees.parent home child among
  · rw [sameParent] at there
    rw [sameChildren]
    exact agrees.child child home there
  · rw [sameChildren]
    exact agrees.nodup home

theorem gains (agrees : before.Agrees) (detached : before.parent? child = none)
    (fits : before.Fits home child) (gains : Gains home child front back before after) : after.Agrees := by
  have nowhere (other : NodeId) : child ∉ before.children other := by
    intro among
    have there := agrees.parent other child among
    rw [detached] at there
    cases there
  refine
    { fits := fun id other there => fits_of_content gains.content ?_
      parent := fun other id among => ?_, child := fun id other there => ?_
      nodup := fun other => ?_ }
  · rw [gains.parent] at there
    split at there
    · rename_i isChild
      cases there
      exact isChild ▸ fits
    · exact agrees.fits id other there
  · rw [gains.parent]
    rw [gains.children] at among
    by_cases isChild : id = child
    · rw [if_pos isChild]
      split at among
      · rename_i isHome
        rw [isHome]
      · exact absurd (isChild ▸ among) (nowhere other)
    · rw [if_neg isChild]
      split at among
      · rename_i isHome
        subst isHome
        refine agrees.parent _ id ?_
        rw [gains.split]
        simpa [isChild] using among
      · exact agrees.parent other id among
  · rw [gains.parent] at there
    rw [gains.children]
    split at there
    · rename_i isChild
      cases there
      simp [isChild]
    · have among := agrees.child id other there
      split
      · rename_i isHome
        subst isHome
        rw [gains.split] at among
        rcases List.mem_append.mp among with inFront | inBack
        · exact List.mem_append_left _ inFront
        · exact List.mem_append_right _ (List.mem_cons_of_mem _ inBack)
      · exact among
  · rw [gains.children]
    split
    · have distinct := agrees.nodup home
      have fresh := nowhere home
      rw [gains.split] at distinct fresh
      rw [List.nodup_middle, List.nodup_cons]
      exact ⟨fresh, distinct⟩
    · exact agrees.nodup other

theorem loses (agrees : before.Agrees) (loses : Loses home child front back before after) :
    after.Agrees := by
  have distinct := agrees.nodup home
  rw [loses.split, List.nodup_middle, List.nodup_cons] at distinct
  have was : before.parent? child = some home := agrees.parent home child (by simp [loses.split])
  refine
    { fits := fun id other there => fits_of_content loses.content ?_
      parent := fun other id among => ?_, child := fun id other there => ?_
      nodup := fun other => ?_ }
  · rw [loses.parent] at there
    split at there
    · cases there
    · exact agrees.fits id other there
  · rw [loses.parent]
    rw [loses.children] at among
    split at among
    · rename_i isHome
      have differ : id ≠ child := by
        rintro rfl
        exact distinct.1 among
      rw [if_neg differ, isHome]
      refine agrees.parent home id ?_
      rw [loses.split]
      rcases List.mem_append.mp among with inFront | inBack
      · exact List.mem_append_left _ inFront
      · exact List.mem_append_right _ (List.mem_cons_of_mem _ inBack)
    · rename_i otherHome
      have there := agrees.parent other id among
      have differ : id ≠ child := by
        rintro rfl
        rw [was] at there
        exact otherHome (Option.some.inj there).symm
      rw [if_neg differ]
      exact there
  · rw [loses.parent] at there
    split at there
    · cases there
    · rename_i differ
      have among := agrees.child id other there
      rw [loses.children]
      split
      · rename_i isHome
        subst isHome
        rw [loses.split] at among
        simpa [differ] using among
      · exact among
  · rw [loses.children]
    split
    · exact distinct.2
    · exact agrees.nodup other

theorem swaps (agrees : before.Agrees) (detached : before.parent? new = none)
    (fits : before.Fits home new) (differ : new ≠ old) (swaps : Swaps home new old front back before after) :
    after.Agrees := by
  have nowhere (other : NodeId) : new ∉ before.children other := by
    intro among
    have there := agrees.parent other new among
    rw [detached] at there
    cases there
  have distinct := agrees.nodup home
  have fresh := nowhere home
  rw [swaps.split, List.nodup_middle, List.nodup_cons] at distinct
  have was : before.parent? old = some home := agrees.parent home old (by simp [swaps.split])
  rw [swaps.split] at fresh
  refine
    { fits := fun id other there => fits_of_content swaps.content ?_
      parent := fun other id among => ?_, child := fun id other there => ?_
      nodup := fun other => ?_ }
  · rw [swaps.parent] at there
    split at there
    · cases there
    · split at there
      · rename_i isNew
        cases there
        exact isNew ▸ fits
      · exact agrees.fits id other there
  · rw [swaps.parent]
    rw [swaps.children] at among
    split at among
    · rename_i isHome
      subst isHome
      by_cases isNew : id = new
      · rw [if_neg (isNew ▸ differ), if_pos isNew]
      · have kept : id ∈ front ++ back := by simpa [isNew] using among
        have notOld : id ≠ old := by
          rintro rfl
          exact distinct.1 kept
        rw [if_neg notOld, if_neg isNew]
        refine agrees.parent _ id ?_
        rw [swaps.split]
        rcases List.mem_append.mp kept with inFront | inBack
        · exact List.mem_append_left _ inFront
        · exact List.mem_append_right _ (List.mem_cons_of_mem _ inBack)
    · rename_i otherHome
      have there := agrees.parent other id among
      have notOld : id ≠ old := by
        rintro rfl
        rw [was] at there
        exact otherHome (Option.some.inj there).symm
      have notNew : id ≠ new := by
        rintro rfl
        exact nowhere other among
      rw [if_neg notOld, if_neg notNew]
      exact there
  · rw [swaps.parent] at there
    rw [swaps.children]
    split at there
    · cases there
    · rename_i notOld
      split at there
      · rename_i isNew
        cases there
        simp [isNew]
      · have among := agrees.child id other there
        split
        · rename_i isHome
          subst isHome
          rw [swaps.split] at among
          have kept : id ∈ front ∨ id ∈ back := by simpa [notOld] using among
          rcases kept with inFront | inBack
          · exact List.mem_append_left _ inFront
          · exact List.mem_append_right _ (List.mem_cons_of_mem _ inBack)
        · exact among
  · rw [swaps.children]
    split
    · rw [List.nodup_middle, List.nodup_cons]
      refine ⟨fun among => fresh ?_, distinct.2⟩
      rcases List.mem_append.mp among with inFront | inBack
      · exact List.mem_append_left _ inFront
      · exact List.mem_append_right _ (List.mem_cons_of_mem _ inBack)
    · exact agrees.nodup other

/-- Where a child stands in the list of its home. -/
theorem split_of_mem (agrees : before.Agrees) (among : child ∈ before.children home) :
    ∃ front back, before.children home = front ++ child :: back ∧ child ∉ front ∧
      child ∉ back := by
  obtain ⟨front, back, split, other⟩ := List.eq_append_cons_of_mem among
  have distinct := agrees.nodup home
  rw [split, List.nodup_middle, List.nodup_cons] at distinct
  exact ⟨front, back, split, other, fun later => distinct.1 (List.mem_append_right _ later)⟩

theorem detached (agrees : before.Agrees) (detached : Detached child before after) :
    after.Agrees ∧ after.parent? child = none := by
  rcases detached with ⟨top, rfl⟩ | ⟨home, front, back, -, loses⟩
  · exact ⟨agrees, top⟩
  · refine ⟨agrees.loses loses, ?_⟩
    rw [loses.parent, if_pos rfl]

end Agrees

/-- Contents, parents and children stay the same. -/
structure SameShape (before after : Forest) : Prop where
  size : after.size = before.size
  content : ∀ id, after.content? id = before.content? id
  parent : ∀ id, after.parent? id = before.parent? id
  children : ∀ id, after.children id = before.children id

theorem sameShape : Follows SameShape where
  refl _ := ⟨rfl, fun _ => rfl, fun _ => rfl, fun _ => rfl⟩
  trans onFirst onSecond :=
    { size := onSecond.size.trans onFirst.size
      content := fun id => (onSecond.content id).trans (onFirst.content id)
      parent := fun id => (onSecond.parent id).trans (onFirst.parent id)
      children := fun id => (onSecond.children id).trans (onFirst.children id) }

end Forest

open Forest

namespace Edit

variable {forest : Forest} {home child : NodeId}

/-- A change of neighbours keeps the shape. -/
theorem sameShape_update {id : NodeId} {step : Node → Node}
    (content : ∀ node, (step node).content = node.content)
    (parent : ∀ node, (step node).parent = node.parent)
    (children : ∀ node, (step node).children = node.children) :
    SameShape forest (forest.update id step) where
  size := size_update ..
  content _ := content?_update content
  parent _ := parent?_update parent
  children _ := children_update children

/-- Linking one node to another sets one link. -/
theorem ensures_onSome_setNext (id next : Option NodeId) :
    Ensures (onSome id (setNext · next)) forest
      (fun _ after => SameShape forest after ∧
        (∀ other < forest.size, after.next? other =
          if id = some other then next else forest.next? other) ∧
        ∀ other, after.previous? other = forest.previous? other)
      fun _ _ => False := by
  cases id with
  | none => exact ⟨sameShape.refl forest, fun _ _ => rfl, fun _ => rfl⟩
  | some id =>
      rw [onSome, setNext, change, ensures_modify]
      refine ⟨sameShape_update (fun _ => rfl) (fun _ => rfl) fun _ => rfl,
        fun other inside => ?_, fun other => previous?_update fun _ => rfl⟩
      rw [next?_update_set (fun _ => inside) fun _ => by rfl]
      simp [eq_comm]

theorem ensures_onSome_setPrevious (id previous : Option NodeId) :
    Ensures (onSome id (setPrevious · previous)) forest
      (fun _ after => SameShape forest after ∧
        (∀ other < forest.size, after.previous? other =
          if id = some other then previous else forest.previous? other) ∧
        ∀ other, after.next? other = forest.next? other)
      fun _ _ => False := by
  cases id with
  | none => exact ⟨sameShape.refl forest, fun _ _ => rfl, fun _ => rfl⟩
  | some id =>
      rw [onSome, setPrevious, change, ensures_modify]
      refine ⟨sameShape_update (fun _ => rfl) (fun _ => rfl) fun _ => rfl,
        fun other inside => ?_, fun other => next?_update fun _ => rfl⟩
      rw [previous?_update_set (fun _ => inside) fun _ => by rfl]
      simp [eq_comm]

/-- Closing a gap links the neighbours of a node to each other. -/
theorem ensures_closeGap :
    Ensures (closeGap child) forest
      (fun _ after => SameShape forest after ∧
        (∀ id < forest.size, after.next? id =
          if forest.previous? child = some id then forest.next? child else forest.next? id) ∧
        ∀ id < forest.size, after.previous? id =
          if forest.next? child = some id then forest.previous? child else forest.previous? id)
      fun _ after => after = forest ∧ forest.node? child = none := by
  rw [closeGap, ensures_bind, ensures_look]
  refine ⟨fun node there => ?_, fun missing => ⟨rfl, missing⟩⟩
  rw [ensures_bind, next?_of_node? there, previous?_of_node? there]
  refine (ensures_onSome_setPrevious node.next node.previous).mono (fun _ middle ends => ?_)
    fun _ _ impossible => impossible.elim
  obtain ⟨shape, previous, next⟩ := ends
  refine (ensures_onSome_setNext node.previous node.next).mono (fun _ after ends => ?_)
    fun _ _ impossible => impossible.elim
  obtain ⟨shape', next', previous'⟩ := ends
  refine ⟨sameShape.trans shape shape', fun id inside => ?_, fun id inside => ?_⟩
  · rw [next' id (shape.size ▸ inside), next]
  · rw [previous', previous id inside]

theorem ensures_unlink {front back : List NodeId}
    (split : forest.children home = front ++ child :: back) (other : child ∉ front)
    (inside : child < forest.size) (homeInside : home < forest.size) :
    Ensures (unlink home child) forest
      (fun _ after => after.size = forest.size ∧ (∀ id, after.content? id = forest.content? id) ∧
        (∀ id, after.children id = if id = home then front ++ back else forest.children id) ∧
        (∀ id, after.parent? id = if id = child then none else forest.parent? id) ∧
        (∀ id, after.next? id = if id = child then none else forest.next? id) ∧
        ∀ id, after.previous? id = if id = child then none else forest.previous? id)
      fun _ _ => False := by
  rw [unlink, ensures_bind, change, ensures_modify, change, ensures_modify]
  have inside' : child < (forest.update home fun node =>
      { node with children := node.children.erase child }).size := by
    rw [size_update]
    exact inside
  refine ⟨by simp, fun id => ?_, fun id => ?_, fun id => ?_, fun id => ?_, fun id => ?_⟩
  · rw [content?_update fun _ => by rfl, content?_update fun _ => by rfl]
  · rw [children_update fun _ => by rfl]
    by_cases here : id = home
    · subst here
      rw [children_update_self (·.erase child) homeInside fun _ => by rfl, split,
        List.erase_append_right _ other, List.erase_cons_head, if_pos rfl]
    · rw [children_update_ne (Ne.symm here), if_neg here]
  · by_cases here : id = child
    · subst here
      rw [parent?_update_of_lt inside' fun _ => by rfl, if_pos rfl]
    · rw [parent?_update_ne (Ne.symm here), parent?_update fun _ => by rfl, if_neg here]
  · rw [next?_update_set (fun same => same ▸ inside') fun _ => by rfl, next?_update fun _ => by rfl]
  · rw [previous?_update_set (fun same => same ▸ inside') fun _ => by rfl,
      previous?_update fun _ => by rfl]

/-! ## Taking nodes out -/

theorem ensures_removeClosing (agrees : forest.Agrees) :
    Ensures (removeClosing home child) forest
      (fun _ after => ∃ front back, Loses home child front back forest after)
      fun _ after => after = forest ∧ child ∉ forest.children home := by
  rw [removeClosing, ensures_bind, ensures_look]
  refine ⟨fun node there => ?_, fun missing => ⟨rfl, by simp [Forest.children, missing]⟩⟩
  have homeInside := node?_isSome_iff.mp (Option.isSome_iff_exists.mpr ⟨node, there⟩)
  rw [← children_of_node? there]
  split
  · rename_i among
    have inside := agrees.lt_size_of_mem among
    obtain ⟨front, back, split, other, -⟩ := agrees.split_of_mem among
    rw [ensures_bind]
    refine ensures_closeGap.mono (fun _ middle closed => ?_) fun _ _ failed =>
      absurd (node?_isSome_iff.mpr inside) (by simp [failed.2])
    obtain ⟨shape, next, previous⟩ := closed
    have split' : middle.children home = front ++ child :: back := by rw [shape.children, split]
    refine (ensures_unlink split' other (shape.size ▸ inside) (shape.size ▸ homeInside)).mono
      (fun _ after unlinked => ?_) fun _ _ impossible => impossible.elim
    obtain ⟨size, content, children, parent, next', previous'⟩ := unlinked
    exact ⟨front, back,
      { size := size.trans shape.size
        content := fun id => (content id).trans (shape.content id)
        split
        children := fun id => by rw [children, shape.children]
        parent := fun id => by rw [parent, shape.parent]
        loose := ⟨by rw [next', if_pos rfl], by rw [previous', if_pos rfl]⟩
        next := fun _ id inside => by rw [next', next id inside]
        previous := fun _ id inside => by rw [previous', previous id inside] }⟩
  · rename_i notAmong
    exact ⟨rfl, notAmong⟩

theorem ensures_release (agrees : forest.Agrees) :
    Ensures (release home child) forest
      (fun _ after => ∃ front back, Loses home child front back forest after)
      fun _ after => after = forest ∧ child ∉ forest.children home := by
  rw [release, ensures_bind, ensures_look]
  refine ⟨fun node there => ?_, fun missing => ⟨rfl, by simp [Forest.children, missing]⟩⟩
  have homeInside := node?_isSome_iff.mp (Option.isSome_iff_exists.mpr ⟨node, there⟩)
  rw [← children_of_node? there]
  split
  · rename_i isDocument
    split
    · rename_i among
      have inside := agrees.lt_size_of_mem among
      obtain ⟨front, back, split, other, -⟩ := agrees.split_of_mem among
      have closes : forest.isA Content.isDocument home = true := by
        rw [isA_of_node? there]
        exact isDocument
      refine (ensures_unlink split other inside homeInside).mono (fun _ after unlinked => ?_)
        fun _ _ impossible => impossible.elim
      obtain ⟨size, content, children, parent, next, previous⟩ := unlinked
      exact ⟨front, back,
        { size, content, split, children, parent
          loose := ⟨by rw [next, if_pos rfl], by rw [previous, if_pos rfl]⟩
          next := fun other => absurd closes (by simp [other])
          previous := fun other => absurd closes (by simp [other]) }⟩
    · rename_i notAmong
      exact ⟨rfl, notAmong⟩
  · exact ensures_removeClosing agrees

theorem ensures_detach (agrees : forest.Agrees) :
    Ensures (detach child) forest (fun _ after => Detached child forest after)
      fun _ after => after = forest ∧ forest.node? child = none := by
  rw [detach, ensures_bind, ensures_look]
  refine ⟨fun node there => ?_, fun missing => ⟨rfl, missing⟩⟩
  cases parented : node.parent with
  | none => exact .inl ⟨(parent?_of_node? there).trans parented, rfl⟩
  | some home =>
      have was : forest.parent? child = some home := (parent?_of_node? there).trans parented
      refine (ensures_release agrees).mono (fun _ after lost => ?_) fun _ _ failed =>
        absurd (agrees.child child home was) failed.2
      obtain ⟨front, back, loses⟩ := lost
      exact .inr ⟨home, front, back, was, loses⟩

/-! ## Putting nodes in -/

theorem ensures_linkLast (agrees : forest.Agrees) (inside : child < forest.size) :
    Ensures (linkLast home child) forest
      (fun _ after => Gains home child (forest.children home) [] forest after)
      fun _ after => after = forest ∧ forest.node? home = none := by
  rw [linkLast, ensures_bind, ensures_look]
  refine ⟨fun node there => ?_, fun missing => ⟨rfl, missing⟩⟩
  have homeInside := node?_isSome_iff.mp (Option.isSome_iff_exists.mpr ⟨node, there⟩)
  rw [← children_of_node? there, ensures_bind]
  have links : Ensures (onSome (forest.children home).getLast? fun last => do
      setPrevious child (some last)
      setNext last (some child)) forest
      (fun _ after => SameShape forest after ∧
        (∀ id < forest.size, after.next? id =
          if (forest.children home).getLast? = some id then some child else forest.next? id) ∧
        (forest.previous? child = none → ∀ id < forest.size, after.previous? id =
          if id = child then (forest.children home).getLast? else forest.previous? id))
      fun _ _ => False := by
    cases isLast : (forest.children home).getLast? with
    | none =>
        refine ⟨sameShape.refl forest, fun _ _ => by simp, fun none id _ => ?_⟩
        split
        · rename_i isChild
          rw [isChild, none]
        · rfl
    | some last =>
        rw [onSome, ensures_bind, setPrevious, change, ensures_modify, setNext, change,
          ensures_modify]
        refine ⟨sameShape.trans
            (sameShape_update (fun _ => by rfl) (fun _ => by rfl) fun _ => by rfl)
            (sameShape_update (fun _ => by rfl) (fun _ => by rfl) fun _ => by rfl),
          fun id inside => ?_, fun _ id inside => ?_⟩
        · rw [next?_update_set (fun _ => by simpa using inside) fun _ => by rfl,
            next?_update fun _ => by rfl]
          simp [eq_comm]
        · rw [previous?_update fun _ => by rfl,
            previous?_update_set (fun _ => inside) fun _ => by rfl]
  refine links.mono (fun _ linked ends => ?_) fun _ _ impossible => impossible.elim
  obtain ⟨shape, next, previous⟩ := ends
  rw [ensures_bind, change, ensures_modify, change, ensures_modify]
  have inside' : child < (linked.update home fun node =>
      { node with children := node.children ++ [child] }).size := by
    rw [size_update, shape.size]
    exact inside
  refine
    { size := by simp [shape.size], content := fun id => ?_, split := by simp
      children := fun id => ?_, parent := fun id => ?_, next := fun id => ?_
      previous := fun loose id => ?_ }
  · rw [content?_update fun _ => by rfl, content?_update fun _ => by rfl, shape.content]
  · rw [children_update fun _ => by rfl]
    by_cases here : id = home
    · subst here
      rw [children_update_self (· ++ [child]) (shape.size ▸ homeInside)
        fun _ => by rfl, shape.children, if_pos rfl]
    · rw [children_update_ne (Ne.symm here), shape.children, if_neg here]
  · by_cases here : id = child
    · subst here
      rw [parent?_update_of_lt inside' fun _ => by rfl, if_pos rfl]
    · rw [parent?_update_ne (Ne.symm here), parent?_update fun _ => by rfl, shape.parent,
        if_neg here]
  · rw [next?_update_set (fun same => same ▸ inside') fun _ => by rfl,
      next?_update fun _ => by rfl]
    split
    · rfl
    · rcases Nat.lt_or_ge id forest.size with known | beyond
      · rw [next id known]
      · have notLast : (forest.children home).getLast? ≠ some id := fun last =>
          absurd (agrees.lt_size_of_mem (List.mem_of_getLast? last)) (Nat.not_lt.mpr beyond)
        rw [if_neg notLast, next?, next?, node?_eq_none beyond, node?_eq_none (shape.size ▸ beyond)]
  · rw [previous?_update fun _ => by rfl, previous?_update fun _ => by rfl]
    rcases Nat.lt_or_ge id forest.size with known | beyond
    · rw [previous loose id known]
      simp
    · have differ : id ≠ child := fun same => absurd (same ▸ inside) (Nat.not_lt.mpr beyond)
      rw [if_neg differ, previous?, previous?, node?_eq_none beyond,
        node?_eq_none (shape.size ▸ beyond)]
      simp

theorem placeBefore_append {new mark : NodeId} {front back : List NodeId} (other : mark ∉ front) :
    placeBefore new mark (front ++ mark :: back) = front ++ new :: mark :: back := by
  induction front with
  | nil => simp [placeBefore]
  | cons id rest ih =>
      have differ : id ≠ mark := fun same => other (by simp [same])
      simp only [List.cons_append, placeBefore, if_neg differ]
      rw [ih fun among => other (List.mem_cons_of_mem _ among)]

theorem placeInstead_append {new mark : NodeId} {front back : List NodeId} (other : mark ∉ front) :
    placeInstead new mark (front ++ mark :: back) = front ++ new :: back := by
  induction front with
  | nil => simp [placeInstead]
  | cons id rest ih =>
      have differ : id ≠ mark := fun same => other (by simp [same])
      simp only [List.cons_append, placeInstead, if_neg differ]
      rw [ih fun among => other (List.mem_cons_of_mem _ among)]

theorem inFrontOf?_append {mark : NodeId} {back : List NodeId} :
    ∀ {front : List NodeId}, mark ∉ front → inFrontOf? mark (front ++ mark :: back) = front.getLast?
  | [], _ => by
      cases back with
      | nil => rfl
      | cons => simp [inFrontOf?]
  | [id], other => by
      have differ : id ≠ mark := fun same => other (by simp [same])
      simp [inFrontOf?, differ]
  | id :: second :: rest, other => by
      have differ : id ≠ mark := fun same => other (by simp [same])
      have differ' : second ≠ mark := fun same => other (by simp [same])
      have later : mark ∉ second :: rest := fun among => other (List.mem_cons_of_mem _ among)
      have same : inFrontOf? mark (second :: (rest ++ mark :: back)) = (second :: rest).getLast? :=
        inFrontOf?_append later
      simp only [List.cons_append]
      rw [inFrontOf?, if_neg differ, if_neg differ', same, List.getLast?_cons_cons]

theorem ensures_linkBefore {mark : NodeId} {front back : List NodeId} (agrees : forest.Agrees)
    (inside : child < forest.size) (fresh : child ∉ forest.children home)
    (split : forest.children home = front ++ mark :: back) (other : mark ∉ front) :
    Ensures (linkBefore home child mark) forest
      (fun _ after => Gains home child front (mark :: back) forest after)
      fun _ _ => False := by
  have notMark : child ≠ mark := by
    rintro rfl
    exact fresh (by simp [split])
  have notLast : front.getLast? ≠ some child := fun last =>
    fresh (by simp [split, List.mem_of_getLast? last])
  rw [linkBefore, ensures_bind, ensures_look]
  refine ⟨fun node there => ?_, fun missing => by simp [Forest.children, missing] at split⟩
  have homeInside := node?_isSome_iff.mp (Option.isSome_iff_exists.mpr ⟨node, there⟩)
  rw [← children_of_node? there, split]
  dsimp only
  rw [placeBefore_append other, inFrontOf?_append other, ensures_bind, change, ensures_modify,
    ensures_bind]
  refine (ensures_onSome_setNext (some child) (some mark)).mono (fun _ first ends => ?_)
    fun _ _ impossible => impossible.elim
  obtain ⟨shape₁, next₁, previous₁⟩ := ends
  rw [ensures_bind]
  refine (ensures_onSome_setPrevious (some mark) (some child)).mono (fun _ second ends => ?_)
    fun _ _ impossible => impossible.elim
  obtain ⟨shape₂, previous₂, next₂⟩ := ends
  rw [ensures_bind]
  refine (ensures_onSome_setNext front.getLast? (some child)).mono (fun _ third ends => ?_)
    fun _ _ impossible => impossible.elim
  obtain ⟨shape₃, next₃, previous₃⟩ := ends
  rw [ensures_bind]
  refine (ensures_onSome_setPrevious (some child) front.getLast?).mono (fun _ linked ends => ?_)
    fun _ _ impossible => impossible.elim
  obtain ⟨shape₄, previous₄, next₄⟩ := ends
  rw [change, ensures_modify]
  have shape := sameShape.trans (sameShape.trans (sameShape.trans shape₁ shape₂) shape₃) shape₄
  have size : linked.size = forest.size := by rw [shape.size, size_update]
  have bound {id : NodeId} (known : id < forest.size) :
      id < (forest.update home
        ({ · with children := front ++ child :: mark :: back })).size := by
    rw [size_update]
    exact known
  refine
    { size := by rw [size_update, size]
      content := fun id => ?_, split, children := fun id => ?_, parent := fun id => ?_
      next := fun id => ?_, previous := fun _ id => ?_ }
  · rw [content?_update fun _ => by rfl, shape.content, content?_update fun _ => by rfl]
  · rw [children_update fun _ => by rfl, shape.children]
    by_cases here : id = home
    · subst here
      rw [children_update_self (fun _ => front ++ child :: mark :: back) homeInside
        fun _ => by rfl, if_pos rfl]
    · rw [children_update_ne (Ne.symm here), if_neg here]
  · by_cases here : id = child
    · subst here
      rw [parent?_update_of_lt (size ▸ inside) fun _ => by rfl, if_pos rfl]
    · rw [parent?_update_ne (Ne.symm here), shape.parent, parent?_update fun _ => by rfl,
        if_neg here]
  · rw [next?_update fun _ => by rfl]
    rcases Nat.lt_or_ge id forest.size with known | beyond
    · rw [next₄, next₃ id (by rw [shape₂.size, shape₁.size]; exact bound known), next₂,
        next₁ id (bound known), next?_update fun _ => by rfl]
      by_cases here : id = child
      · subst here
        simp [notLast]
      · simp [here, Ne.symm here]
    · have notChild : id ≠ child := fun same => absurd (same ▸ inside) (Nat.not_lt.mpr beyond)
      have notFront : front.getLast? ≠ some id := fun last => by
        have among : id ∈ forest.children home := by simp [split, List.mem_of_getLast? last]
        exact absurd (agrees.lt_size_of_mem among) (Nat.not_lt.mpr beyond)
      rw [if_neg notChild, if_neg notFront, next?, next?, node?_eq_none beyond,
        node?_eq_none (size ▸ beyond)]
  · rw [previous?_update fun _ => by rfl]
    rcases Nat.lt_or_ge id forest.size with known | beyond
    · rw [previous₄ id (by rw [shape₃.size, shape₂.size, shape₁.size]; exact bound known),
        previous₃, previous₂ id (by rw [shape₁.size]; exact bound known), previous₁,
        previous?_update fun _ => by rfl]
      simp [eq_comm]
    · have notChild : id ≠ child := fun same => absurd (same ▸ inside) (Nat.not_lt.mpr beyond)
      have notNext : (mark :: back).head? ≠ some id := by
        rintro ⟨⟩
        have among : mark ∈ forest.children home := by simp [split]
        exact absurd (agrees.lt_size_of_mem among) (Nat.not_lt.mpr beyond)
      rw [if_neg notChild, if_neg notNext, previous?, previous?, node?_eq_none beyond,
        node?_eq_none (size ▸ beyond)]

theorem ensures_linkInstead {new old : NodeId} {front back : List NodeId} (differ : new ≠ old)
    (newInside : new < forest.size) (oldInside : old < forest.size)
    (homeInside : home < forest.size) (split : forest.children home = front ++ old :: back)
    (other : old ∉ front) :
    Ensures (linkInstead home new old) forest
      (fun _ after => Swaps home new old front back forest after)
      fun _ _ => False := by
  have missing {id : NodeId} {after : Forest} (inside : id < after.size)
      (none : after.node? id = none) : False := by
    have isSome := node?_isSome_iff.mpr inside
    rw [none] at isSome
    cases isSome
  rw [linkInstead, ensures_bind, ensures_look]
  refine ⟨fun gone there => ?_, missing oldInside⟩
  rw [← next?_of_node? there, ← previous?_of_node? there, ensures_bind, change, ensures_modify,
    ensures_bind, change, ensures_modify, ensures_bind, change, ensures_modify]
  let listed := forest.update home fun node =>
    { node with children := placeInstead new old node.children }
  let placed := listed.update new ({ · with
    parent := some home, next := forest.next? old, previous := forest.previous? old })
  let cut := placed.update old ({ · with parent := none, next := none, previous := none })
  have listedInside {id : NodeId} (inside : id < forest.size) : id < listed.size := by
    simpa [listed] using inside
  have placedInside {id : NodeId} (inside : id < forest.size) : id < placed.size := by
    simpa [placed, listed] using inside
  have cutInside {id : NodeId} (inside : id < forest.size) : id < cut.size := by
    simpa [cut, placed, listed] using inside
  have nextCut {id : NodeId} : cut.next? id =
      if id = old then none else if id = new then forest.next? old else forest.next? id := by
    rw [next?_update_set (fun same => placedInside (same ▸ oldInside)) fun _ => by rfl,
      next?_update_set (fun same => listedInside (same ▸ newInside)) fun _ => by rfl,
      next?_update fun _ => by rfl]
    rfl
  have previousCut {id : NodeId} : cut.previous? id =
      if id = old then none else if id = new then forest.previous? old else forest.previous? id := by
    rw [previous?_update_set (fun same => placedInside (same ▸ oldInside)) fun _ => by rfl,
      previous?_update_set (fun same => listedInside (same ▸ newInside)) fun _ => by rfl,
      previous?_update fun _ => by rfl]
    rfl
  show Ensures (look new >>= _) cut _ _
  rw [ensures_bind, ensures_look]
  refine ⟨fun seen seenThere => ?_, missing (cutInside newInside)⟩
  have seenPrevious : seen.previous = forest.previous? old := by
    rw [← previous?_of_node? seenThere, previousCut, if_neg differ, if_pos rfl]
  rw [ensures_bind, seenPrevious]
  refine (ensures_onSome_setNext (forest.previous? old) (some new)).mono (fun _ first ends => ?_)
    fun _ _ impossible => impossible
  obtain ⟨shape₁, next₁, previous₁⟩ := ends
  have firstInside {id : NodeId} (inside : id < forest.size) : id < first.size := by
    rw [shape₁.size]
    exact cutInside inside
  rw [ensures_bind, ensures_look]
  refine ⟨fun again againThere => ?_, missing (firstInside newInside)⟩
  refine (ensures_onSome_setPrevious again.next (some new)).mono (fun _ after ends => ?_)
    fun _ _ impossible => impossible
  obtain ⟨shape₂, previous₂, next₂⟩ := ends
  have shape := sameShape.trans shape₁ shape₂
  refine
    { size := by rw [shape.size]; simp [cut, placed, listed]
      content := fun id => ?_, split, children := fun id => ?_, parent := fun id => ?_
      next := fun apart id inside => ?_, previous := fun apart id inside => ?_ }
  · rw [shape.content, content?_update fun _ => by rfl, content?_update fun _ => by rfl,
      content?_update fun _ => by rfl]
  · rw [shape.children, children_update fun _ => by rfl, children_update fun _ => by rfl]
    by_cases here : id = home
    · subst here
      rw [children_update_self (placeInstead new old) homeInside fun _ => by rfl, split,
        placeInstead_append other, if_pos rfl]
    · rw [children_update_ne (Ne.symm here), if_neg here]
  · rw [shape.parent]
    by_cases isOld : id = old
    · subst isOld
      rw [parent?_update_of_lt (placedInside oldInside) fun _ => by rfl, if_pos rfl]
    · rw [parent?_update_ne (Ne.symm isOld), if_neg isOld]
      by_cases isNew : id = new
      · subst isNew
        rw [parent?_update_of_lt (listedInside newInside) fun _ => by rfl, if_pos rfl]
      · rw [parent?_update_ne (Ne.symm isNew), parent?_update fun _ => by rfl, if_neg isNew]
  · rw [next₂, next₁ id (cutInside inside), nextCut]
    by_cases before : forest.previous? old = some id
    · obtain ⟨notNew, notOld⟩ := apart id (.inl before)
      rw [if_pos before, if_neg notOld, if_neg notNew, if_pos before]
    · simp [before]
  · have againNext : again.next = forest.next? old := by
      rw [← next?_of_node? againThere, next₁ new (cutInside newInside), nextCut, if_neg differ,
        if_pos rfl, if_neg fun before => (apart new (.inl before)).1 rfl]
    rw [previous₂ id (firstInside inside), previous₁, previousCut, againNext]
    by_cases behind : forest.next? old = some id
    · obtain ⟨notNew, notOld⟩ := apart id (.inr behind)
      rw [if_pos behind, if_neg notOld, if_neg notNew, if_pos behind]
    · simp [behind]

end Edit

end MarkupSpec
