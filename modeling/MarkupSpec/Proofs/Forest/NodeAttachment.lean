import MarkupSpec.Proofs.Forest.Growth
import MarkupSpec.Proofs.Forest.ParentAgreement

/-!
# Attaching one node

Attaching a node takes it out of its old place and then puts it into the list of
its new parent, at the end or in front of a mark (`Forest.Joins`), or into the
place of another node (`Forest.Ousts`).  An edit that fails has left everything
as it was, or has left the node without a place.

So parents and children agree after every edit, however it ends.
-/

namespace MarkupSpec

namespace Forest

/-- A child joins the list of a home in front of a mark, or at the end. -/
def Joins (home child : NodeId) (mark : Option NodeId) (before after : Forest) : Prop :=
  ∃ middle front back, before.Fits home child ∧ Detached child before middle ∧
    back.head? = mark ∧ Gains home child front back middle after

/-- A node takes the place of a child of a home. -/
def Ousts (home new old : NodeId) (before after : Forest) : Prop :=
  ∃ middle front back, before.Fits home new ∧ Detached new before middle ∧
    Swaps home new old front back middle after

/-- Nothing has changed, unless a child has lost its place. -/
def Unplaced (child : NodeId) (before after : Forest) : Prop :=
  after = before ∨ Detached child before after

theorem Detached.size {child : NodeId} {before after : Forest} (detached : Detached child before after) :
    after.size = before.size := by
  rcases detached with ⟨-, rfl⟩ | ⟨home, front, back, -, loses⟩
  · rfl
  · exact loses.size

theorem Detached.content {child : NodeId} {before after : Forest}
    (detached : Detached child before after) (id : NodeId) :
    after.content? id = before.content? id := by
  rcases detached with ⟨-, rfl⟩ | ⟨home, front, back, -, loses⟩
  · rfl
  · exact loses.content id

theorem Detached.mem_children {child home other : NodeId} {before after : Forest}
    (detached : Detached child before after) (differ : other ≠ child)
    (among : other ∈ before.children home) : other ∈ after.children home := by
  rcases detached with ⟨-, rfl⟩ | ⟨old, front, back, -, loses⟩
  · exact among
  · rw [loses.children]
    split
    · rename_i isHome
      rw [isHome, loses.split] at among
      simpa [differ] using among
    · exact among

section Joins

variable {home child new old id : NodeId} {mark : Option NodeId} {before after : Forest}

theorem Detached.parent (detached : Detached child before after) (differ : id ≠ child) :
    after.parent? id = before.parent? id := by
  rcases detached with ⟨-, rfl⟩ | ⟨home, front, back, -, loses⟩
  · rfl
  · rw [loses.parent, if_neg differ]

theorem Joins.fits (joins : Joins home child mark before after) : before.Fits home child := by
  obtain ⟨middle, front, back, fits, -⟩ := joins
  exact fits

theorem Joins.size (joins : Joins home child mark before after) : after.size = before.size := by
  obtain ⟨middle, front, back, -, detached, -, gains⟩ := joins
  rw [gains.size, detached.size]

theorem Joins.content (joins : Joins home child mark before after) (id : NodeId) :
    after.content? id = before.content? id := by
  obtain ⟨middle, front, back, -, detached, -, gains⟩ := joins
  rw [gains.content, detached.content]

theorem Joins.parent (joins : Joins home child mark before after) (id : NodeId) :
    after.parent? id = if id = child then some home else before.parent? id := by
  obtain ⟨middle, front, back, -, detached, -, gains⟩ := joins
  rw [gains.parent]
  split
  · rfl
  · rename_i differ
    exact detached.parent differ

theorem Ousts.fits (ousts : Ousts home new old before after) : before.Fits home new := by
  obtain ⟨middle, front, back, fits, -⟩ := ousts
  exact fits

theorem Ousts.content (ousts : Ousts home new old before after) (id : NodeId) :
    after.content? id = before.content? id := by
  obtain ⟨middle, front, back, -, detached, swaps⟩ := ousts
  rw [swaps.content, detached.content]

end Joins

namespace Agrees

variable {before after : Forest} {home child new old : NodeId} {mark : Option NodeId}

theorem joins (agrees : before.Agrees) (joins : Joins home child mark before after) :
    after.Agrees := by
  obtain ⟨middle, front, back, fits, detached, -, gains⟩ := joins
  obtain ⟨agrees', top⟩ := agrees.detached detached
  exact agrees'.gains top (fits_of_content detached.content fits) gains

theorem ousts (agrees : before.Agrees) (differ : new ≠ old) (ousts : Ousts home new old before after) :
    after.Agrees := by
  obtain ⟨middle, front, back, fits, detached, swaps⟩ := ousts
  obtain ⟨agrees', top⟩ := agrees.detached detached
  exact agrees'.swaps top (fits_of_content detached.content fits) differ swaps

theorem unplaced (agrees : before.Agrees) (unplaced : Unplaced child before after) :
    after.Agrees := by
  rcases unplaced with rfl | detached
  · exact agrees
  · exact (agrees.detached detached).1

end Agrees

end Forest

open Forest

namespace Edit

variable {forest : Forest} {home child new old : NodeId}

/-- What is checked before a node is attached. -/
theorem ensures_checkKind :
    Ensures (checkKind home child) forest
      (fun _ after => after = forest ∧ forest.Fits home child)
      fun _ after => after = forest ∧ ¬ forest.Fits home child := by
  rw [checkKind, ensures_bind, ensures_look]
  refine ⟨fun above there => ?_, fun missing => ⟨rfl, fun fits => ?_⟩⟩
  · rw [ensures_bind, ensures_look]
    refine ⟨fun below there' => ?_, fun missing => ⟨rfl, fun fits => ?_⟩⟩
    · have known := content?_of_node? there
      have known' := content?_of_node? there'
      split
      · rename_i holds
        exact ⟨rfl, above.content, below.content, known, known', holds⟩
      · rename_i refused
        refine ⟨rfl, fun ⟨_, _, isAbove, isBelow, holds⟩ => refused ?_⟩
        rw [known] at isAbove
        rw [known'] at isBelow
        cases isAbove
        cases isBelow
        exact holds
    · obtain ⟨_, _, -, there', -⟩ := fits
      simp [content?, missing] at there'
  · obtain ⟨_, _, there, -⟩ := fits
    simp [content?, missing] at there

theorem ensures_checkRoot :
    Ensures (checkRoot home child) forest (fun _ after => after = forest)
      fun _ after => after = forest ∧ forest.isA Content.isDocument home ∧
        forest.isA Content.isElement child := by
  rw [checkRoot, ensures_bind, ensures_get]
  split
  · rename_i refused
    exact ⟨rfl, Bool.and_eq_true_iff.mp (Bool.and_eq_true_iff.mp refused).1⟩
  · rfl

/-- Appending a node that fits fails only under a document. -/
theorem ensures_appendOne (agrees : forest.Agrees) :
    Ensures (appendOne home child) forest (fun _ after => Joins home child none forest after)
      fun _ after => Unplaced child forest after ∧
        (forest.Fits home child →
          forest.isA Content.isDocument home ∧ forest.isA Content.isElement child) := by
  rw [appendOne, ensures_bind]
  refine ensures_checkKind.mono (fun _ after checked => ?_) fun _ _ failed =>
    ⟨.inl failed.1, fun fits => absurd fits failed.2⟩
  obtain ⟨same, fits⟩ := checked
  obtain rfl := same.symm
  have inside := fits.lt_size
  rw [ensures_bind]
  refine (ensures_detach agrees).mono (fun _ middle detached => ?_) fun _ _ failed =>
    absurd (node?_isSome_iff.mpr inside) (by simp [failed.2])
  obtain ⟨agrees', -⟩ := agrees.detached detached
  rw [ensures_bind]
  refine ensures_checkRoot.mono (fun _ _ same => ?_) fun _ _ failed => ?_
  · subst same
    refine (ensures_linkLast agrees' (detached.size ▸ inside)).mono (fun _ after gains => ?_)
      fun _ _ failed => ?_
    · exact ⟨_, _, [], fits, detached, rfl, gains⟩
    · have there := fits.homeInside
      rw [← detached.size] at there
      exact absurd (node?_isSome_iff.mpr there) (by simp [failed.2])
  · obtain ⟨same, isDocument, isElement⟩ := failed
    rw [isA, detached.content] at isDocument isElement
    exact ⟨.inr (same ▸ detached), fun _ => ⟨isDocument, isElement⟩⟩

/-- Inserting a node that fits fails only under a document or if the mark is no
other child. -/
theorem ensures_insertOne (agrees : forest.Agrees) (mark : Option NodeId) :
    Ensures (insertOne home child mark) forest (fun _ after => Joins home child mark forest after)
      fun _ after => Unplaced child forest after ∧
        (forest.Fits home child →
          forest.isA Content.isDocument home ∧ forest.isA Content.isElement child ∨
          ∃ other, mark = some other ∧ (other ∈ forest.children home → other = child)) := by
  show Ensures (checkKind home child >>= _) forest _ _
  rw [ensures_bind]
  refine ensures_checkKind.mono (fun _ after checked => ?_) fun _ _ failed =>
    ⟨.inl failed.1, fun fits => absurd fits failed.2⟩
  obtain ⟨same, fits⟩ := checked
  obtain rfl := same.symm
  have inside := fits.lt_size
  rw [ensures_bind]
  refine (ensures_detach agrees).mono (fun _ middle detached => ?_) fun _ _ failed =>
    absurd (node?_isSome_iff.mpr inside) (by simp [failed.2])
  obtain ⟨agrees', top⟩ := agrees.detached detached
  have gone {after : Forest} (unplaced : Unplaced child middle after) : Unplaced child forest after := by
    rcases unplaced with rfl | ⟨-, rfl⟩ | ⟨home, front, back, was, loses⟩
    · exact .inr detached
    · exact .inr detached
    · rw [top] at was
      cases was
  cases mark with
  | none =>
      show Ensures (appendChild home child) middle _ _
      have fits' : middle.Fits home child := Agrees.fits_of_content detached.content fits
      have missing {id : NodeId} (inside : id < middle.size) (none : middle.node? id = none) :
          False := by
        have there := node?_isSome_iff.mpr inside
        simp [none] at there
      rw [appendChild, ensures_bind, ensures_look]
      refine ⟨fun above' there => ?_, fun none => (missing fits'.homeInside none).elim⟩
      rw [fits'.isParent_of_node? there, if_neg (by simp), ensures_bind, ensures_look]
      refine ⟨fun below' there' => ?_, fun none => (missing fits'.lt_size none).elim⟩
      -- What is held is no fragment, so it is appended itself.
      have noFragment := fits'.isFragment
      rw [isA, content?_of_node? there', Option.any_some] at noFragment
      rw [noFragment, Bool.false_and]
      refine (ensures_appendOne agrees').mono (fun _ after joins => ?_) fun _ _ failed => ?_
      · obtain ⟨last, front, back, -, detached', isEnd, gains⟩ := joins
        rcases detached' with ⟨-, rfl⟩ | ⟨other, -, -, was, -⟩
        · exact ⟨_, front, back, fits, detached, isEnd, gains⟩
        · rw [top] at was
          cases was
      · have isElement := failed.2 fits'
        rw [isA, isA, detached.content, detached.content] at isElement
        exact ⟨gone failed.1, fun _ => .inl isElement⟩
  | some mark =>
      show Ensures (look home >>= _) middle _ _
      have there := fits.homeInside
      rw [← detached.size] at there
      rw [ensures_bind, ensures_look]
      refine ⟨fun above' there' => ?_, fun none =>
        absurd (node?_isSome_iff.mpr there) (by simp [none])⟩
      rw [← children_of_node? there']
      split
      · rename_i among
        obtain ⟨front, back, split, other, -⟩ := agrees'.split_of_mem among
        have fresh : child ∉ middle.children home := fun among => by
          rw [agrees'.parent home child among] at top
          cases top
        refine (ensures_linkBefore agrees' (detached.size ▸ inside) fresh split other).mono
          (fun _ after gains => ?_) fun _ _ impossible => impossible.elim
        exact ⟨middle, front, mark :: back, fits, detached, rfl, gains⟩
      · rename_i notAmong
        refine ⟨.inr detached, fun _ => .inr ⟨mark, rfl, fun among => ?_⟩⟩
        by_contra differ
        exact notAmong (detached.mem_children differ among)

/-- Putting a node that fits in the place of another fails only if that is no
child. -/
theorem ensures_replaceOne (agrees : forest.Agrees) :
    Ensures (replaceOne home new old) forest
      (fun _ after => new = old ∧ after = forest ∨ new ≠ old ∧ Ousts home new old forest after)
      fun _ after => Unplaced new forest after ∧
        (forest.Fits home new → old ∉ forest.children home) := by
  rw [replaceOne, ensures_bind]
  refine ensures_checkKind.mono (fun _ after checked => ?_) fun _ _ failed =>
    ⟨.inl failed.1, fun fits => absurd fits failed.2⟩
  obtain ⟨same, fits⟩ := checked
  obtain rfl := same.symm
  have inside := fits.lt_size
  split
  · rename_i same
    exact .inl ⟨same, rfl⟩
  · rename_i differ
    rw [ensures_bind]
    refine (ensures_detach agrees).mono (fun _ middle detached => ?_) fun _ _ failed =>
      absurd (node?_isSome_iff.mpr inside) (by simp [failed.2])
    obtain ⟨agrees', -⟩ := agrees.detached detached
    have homeInside := fits.homeInside
    rw [← detached.size] at homeInside
    rw [ensures_bind, ensures_look]
    refine ⟨fun above' there' => ?_, fun none =>
      absurd (node?_isSome_iff.mpr homeInside) (by simp [none])⟩
    rw [← children_of_node? there']
    split
    · rename_i among
      obtain ⟨front, back, split, other, -⟩ := agrees'.split_of_mem among
      refine (ensures_linkInstead differ (detached.size ▸ inside) (agrees'.lt_size_of_mem among)
        homeInside split other).mono (fun _ after swaps => ?_) fun _ _ impossible => impossible.elim
      exact .inr ⟨differ, middle, front, back, fits, detached, swaps⟩
    · rename_i notAmong
      exact ⟨.inr detached, fun _ among => notAmong (detached.mem_children (Ne.symm differ) among)⟩

/-! ## Every edit keeps the agreement -/

/-- Parents and children agree after the step if they did before. -/
abbrev KeepsAgreement {α : Type} (step : Edit α) : Prop :=
  Keeps (fun before after : Forest => before.Agrees → after.Agrees) step

theorem agreement : Follows fun before after : Forest => before.Agrees → after.Agrees where
  refl _ agrees := agrees
  trans onFirst onSecond agrees := onSecond (onFirst agrees)

section Keeps

variable {α : Type}

/-- A step that is described for forests where parents and children agree. -/
theorem KeepsAgreement.of_ensures {step : Edit α} {done : Forest → Forest → Prop}
    {failed : Forest → Forest → Prop}
    (ensured : ∀ forest : Forest, forest.Agrees →
      Ensures step forest (fun _ => done forest) fun _ => failed forest)
    (onDone : ∀ before after, before.Agrees → done before after → after.Agrees)
    (onFailed : ∀ before after, before.Agrees → failed before after → after.Agrees) :
    KeepsAgreement step := by
  intro forest
  refine ensures_assuming.mpr fun agrees => ?_
  exact (ensured forest agrees).mono (fun _ after => onDone forest after agrees)
    fun _ after => onFailed forest after agrees

theorem keepsAgreement_look (id : NodeId) : KeepsAgreement (look id) := by
  intro forest
  rw [ensures_look]
  exact ⟨fun _ _ agrees => agrees, fun _ agrees => agrees⟩

theorem keepsAgreement_appendOne (home child : NodeId) : KeepsAgreement (appendOne home child) :=
  .of_ensures (fun _ agrees => ensures_appendOne agrees) (fun _ _ agrees => agrees.joins)
    fun _ _ agrees failed => agrees.unplaced failed.1

theorem keepsAgreement_insertOne (home child : NodeId) (mark : Option NodeId) :
    KeepsAgreement (insertOne home child mark) :=
  .of_ensures (fun _ agrees => ensures_insertOne agrees mark) (fun _ _ agrees => agrees.joins)
    fun _ _ agrees failed => agrees.unplaced failed.1

theorem keepsAgreement_replaceOne (home new old : NodeId) :
    KeepsAgreement (replaceOne home new old) := by
  refine .of_ensures (fun _ agrees => ensures_replaceOne agrees) (fun before after agrees ends => ?_)
    fun _ _ agrees failed => agrees.unplaced failed.1
  rcases ends with ⟨-, rfl⟩ | ⟨differ, ousts⟩
  · exact agrees
  · exact agrees.ousts differ ousts

theorem keepsAgreement_release (home child : NodeId) : KeepsAgreement (release home child) := by
  refine .of_ensures (fun _ agrees => ensures_release agrees) (fun before after agrees lost => ?_)
    fun before after agrees failed => ?_
  · obtain ⟨front, back, loses⟩ := lost
    exact agrees.loses loses
  · rw [failed.1]
    exact agrees

theorem keepsAgreement_removeClosing (home child : NodeId) :
    KeepsAgreement (removeClosing home child) := by
  refine .of_ensures (fun _ agrees => ensures_removeClosing agrees)
    (fun before after agrees lost => ?_) fun before after agrees failed => ?_
  · obtain ⟨front, back, loses⟩ := lost
    exact agrees.loses loses
  · rw [failed.1]
    exact agrees

theorem keepsAgreement_appendChild (home child : NodeId) :
    KeepsAgreement (appendChild home child) := by
  refine .bind agreement (keepsAgreement_look home) fun above => ?_
  split
  · unfold refuseChildren
    split
    · exact .throw agreement _
    · exact .throw agreement _
  · refine .bind agreement (keepsAgreement_look child) fun below => ?_
    split
    · exact .forM agreement fun member _ => keepsAgreement_appendOne home member
    · exact keepsAgreement_appendOne home child

theorem keepsAgreement_insertBefore (home child : NodeId) (mark : Option NodeId) :
    KeepsAgreement (insertBefore home child mark) := by
  refine .bind agreement (keepsAgreement_look child) fun below => ?_
  split
  · exact .forM agreement fun member _ => keepsAgreement_insertOne home member mark
  · exact keepsAgreement_insertOne home child mark

theorem keepsAgreement_replaceChild (home new old : NodeId) :
    KeepsAgreement (replaceChild home new old) := by
  refine .bind agreement (keepsAgreement_look new) fun below => ?_
  split
  · exact .bind agreement (keepsAgreement_look old) fun _ =>
      .bind agreement (keepsAgreement_release home old) fun _ =>
        keepsAgreement_insertBefore home new _
  · exact keepsAgreement_replaceOne home new old

theorem keepsAgreement_parentOf (id : NodeId) : KeepsAgreement (parentOf id) := by
  intro forest
  rw [ensures_parentOf]
  exact ⟨fun _ _ agrees => agrees, fun _ agrees => agrees⟩

theorem keepsAgreement_insertAfterSibling (node sibling : NodeId) :
    KeepsAgreement (insertAfterSibling node sibling) :=
  .bind agreement (keepsAgreement_parentOf sibling) fun home =>
    .bind agreement (keepsAgreement_look sibling) fun _ => keepsAgreement_insertBefore home node _

theorem keepsAgreement_insertChain :
    ∀ (members : List NodeId) (previous : NodeId), KeepsAgreement (insertChain previous members)
  | [], _ => .pure agreement _
  | member :: rest, previous =>
      .bind agreement (keepsAgreement_insertAfterSibling member previous) fun _ =>
        keepsAgreement_insertChain rest member

/-- What does not last does not matter for the agreement. -/
theorem keepsAgreement_change {id : NodeId} {step : Node → Node}
    (content : ∀ node, (step node).content.lasting = node.content.lasting)
    (parent : ∀ node, (step node).parent = node.parent)
    (children : ∀ node, (step node).children = node.children) : KeepsAgreement (change id step) :=
  Keeps.modify fun forest agrees =>
    { fits := fun child home there => by
        rw [parent?_update parent] at there
        exact (agrees.fits child home there).of_lasting fun other =>
          content?_update_lasting content
      parent := fun home child among => by
        rw [children_update children] at among
        rw [parent?_update parent]
        exact agrees.parent home child among
      child := fun child home there => by
        rw [parent?_update parent] at there
        rw [children_update children]
        exact agrees.child child home there
      nodup := fun home => by
        rw [children_update children]
        exact agrees.nodup home }

theorem keepsAgreement_remove (node : NodeId) : KeepsAgreement (remove node) := by
  rw [remove_eq]
  exact .bind agreement (keepsAgreement_parentOf node) fun home =>
    .bind agreement (keepsAgreement_removeClosing home node) fun _ =>
      keepsAgreement_change (lasting_forgetting node) (forgetting_parent node)
        (forgetting_children node)

theorem keepsAgreement_replaceSibling (sibling node : NodeId) :
    KeepsAgreement (replaceSibling sibling node) := by
  refine .bind agreement (keepsAgreement_look node) fun below => ?_
  split
  · split
    · exact keepsAgreement_remove sibling
    · exact .bind agreement (keepsAgreement_parentOf sibling) fun home =>
        .bind agreement (keepsAgreement_replaceChild home _ sibling) fun _ =>
          keepsAgreement_insertChain _ _
  · exact .bind agreement (keepsAgreement_parentOf sibling) fun home =>
      keepsAgreement_replaceChild home node sibling

theorem keepsAgreement_checkDocument (document : NodeId) :
    KeepsAgreement (checkDocument document) := by
  intro forest
  rw [ensures_checkDocument]
  exact ⟨fun _ agrees => agrees, fun _ agrees => agrees⟩

theorem keepsAgreement_setRoot (document element : NodeId) :
    KeepsAgreement (setRoot document element) := by
  refine .bind agreement (.bind agreement (keepsAgreement_checkDocument document) fun _ =>
    .bind agreement (.get agreement) fun _ => .pure agreement _) fun root => ?_
  cases root with
  | none => exact keepsAgreement_appendChild document element
  | some old =>
      dsimp only
      split
      · exact .pure agreement _
      · exact keepsAgreement_replaceChild document element old

theorem keepsAgreement_attachOneUnder (home node : NodeId) :
    KeepsAgreement (attachOneUnder home node) := by
  refine .bind agreement (keepsAgreement_look home) fun above =>
    .bind agreement (keepsAgreement_look node) fun below => ?_
  split
  · exact keepsAgreement_setRoot home node
  · exact keepsAgreement_appendChild home node

theorem keepsAgreement_attachUnder (home node : NodeId) :
    KeepsAgreement (attachUnder home node) := by
  refine .bind agreement (.discard (keepsAgreement_look home)) fun _ =>
    .bind agreement (keepsAgreement_look node) fun below => ?_
  split
  · exact .forM agreement fun member _ => keepsAgreement_attachOneUnder home member
  · exact keepsAgreement_attachOneUnder home node

theorem keepsAgreement_place (target : Target) (node : NodeId) :
    KeepsAgreement (place target node) := by
  obtain ⟨mode, reference⟩ := target
  cases mode with
  | under => exact keepsAgreement_attachUnder reference node
  | before =>
      exact .bind agreement (keepsAgreement_parentOf reference) fun home =>
        keepsAgreement_insertBefore home node _
  | after => exact keepsAgreement_insertAfterSibling node reference
  | replacing => exact keepsAgreement_replaceSibling reference node

theorem keepsAgreement_placeDoctype (document doctype : NodeId) :
    KeepsAgreement (placeDoctype document doctype) := by
  have remembers : KeepsAgreement (change document (remembering doctype)) :=
    keepsAgreement_change (lasting_remembering doctype) (remembering_parent doctype)
      (remembering_children doctype)
  refine .bind agreement (.get agreement) fun forest => ?_
  dsimp only
  split
  · exact .bind agreement (keepsAgreement_replaceChild document doctype _) fun _ => remembers
  · split
    · exact .bind agreement (keepsAgreement_insertBefore document doctype _) fun _ => remembers
    · exact .bind agreement (keepsAgreement_appendChild document doctype) fun _ => remembers

end Keeps

end Edit

end MarkupSpec
