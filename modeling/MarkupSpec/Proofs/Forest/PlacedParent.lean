import MarkupSpec.Proofs.Forest.EditFootprint

/-!
# Where a placed node lands

A node that is no fragment and that was placed at a target has the home of the
target as its parent (`lands_place`).  This is said of success only: a step that
fails may leave its node without a parent.
-/

namespace MarkupSpec

open Forest

/-- The second forest has the nodes of the first, and the same of them are
fragments. -/
def Forest.SameKinds (before after : Forest) : Prop :=
  after.size = before.size ∧
    ∀ id, after.isA Content.isFragment id = before.isA Content.isFragment id

namespace Edit

variable {α : Type} {home child : NodeId}

/-- A step that only moves nodes keeps their kinds. -/
theorem ShiftsOnly.sameKinds {step : Edit α}
    (shifts : ShiftsOnly (fun _ => True) (fun _ => True) (fun _ => True) step) :
    Keeps SameKinds step := by
  have loaded (forest : Forest) : Loaded (fun _ => True) (fun _ => True) forest :=
    { children := fun _ _ _ _ _ => trivial, parent := fun _ _ _ _ => trivial }
  intro forest
  exact (shifts forest).mono
    (fun _ _ shifted => ⟨(shifted (loaded forest)).size, (shifted (loaded forest)).isFragment⟩)
    fun _ _ shifted => ⟨(shifted (loaded forest)).size, (shifted (loaded forest)).isFragment⟩

/-- If the step succeeds, the child has the home as its parent. -/
def Lands (home child : NodeId) (step : Edit Unit) : Prop :=
  ∀ forest : Forest, child < forest.size → forest.isA Content.isFragment child = false →
    Ensures step forest (fun _ after => after.parent? child = some home) fun _ _ => True

/-- The step leaves the parent of the child alone. -/
abbrev KeepsParent (child : NodeId) (step : Edit Unit) : Prop :=
  Keeps (fun before after => after.parent? child = before.parent? child) step

theorem keepsParent : Follows fun before after : Forest =>
    after.parent? child = before.parent? child where
  refl _ := rfl
  trans onFirst onSecond := onSecond.trans onFirst

theorem Lands.after {first : Edit α} {next : α → Edit Unit} (kept : Keeps SameKinds first)
    (lands : ∀ result, Lands home child (next result)) : Lands home child (first >>= next) := by
  intro forest inside noFragment
  rw [ensures_bind]
  refine (kept forest).mono (fun result after same => ?_) fun _ _ _ => trivial
  refine lands result after ?_ ?_
  · rw [same.1]
    exact inside
  · rw [same.2]
    exact noFragment

theorem Lands.before {first : Edit Unit} {next : Unit → Edit Unit} (lands : Lands home child first)
    (kept : ∀ result, KeepsParent child (next result)) : Lands home child (first >>= next) := by
  intro forest inside noFragment
  rw [ensures_bind]
  refine (lands forest inside noFragment).mono (fun result after there => ?_) fun _ _ _ => trivial
  exact (kept result after).mono (fun _ _ same => same.trans there) fun _ _ _ => trivial

theorem Lands.throw (cause : EditError) : Lands home child (throw cause : Edit Unit) :=
  fun _ _ _ => trivial

theorem lands_change {step : Node → Node} (set : ∀ node, (step node).parent = some home) :
    Lands home child (change child step) := by
  intro forest inside _
  show (forest.update child step).parent? child = some home
  have there := node?_isSome_iff.mpr inside
  rw [parent?, node?_update, if_pos rfl]
  cases found : forest.node? child with
  | none => simp [found] at there
  | some node => exact set node

theorem keepsParent_change {id : NodeId} {step : Node → Node}
    (kept : ∀ node, (step node).parent = node.parent) : KeepsParent child (change id step) :=
  Keeps.modify fun _ => parent?_update kept

theorem keepsParent_change_ne {id : NodeId} {step : Node → Node} (differ : id ≠ child) :
    KeepsParent child (change id step) :=
  Keeps.modify fun _ => parent?_update_ne differ

theorem keepsParent_setNext (id : NodeId) (next : Option NodeId) :
    KeepsParent child (setNext id next) :=
  keepsParent_change fun _ => rfl

theorem keepsParent_setPrevious (id : NodeId) (previous : Option NodeId) :
    KeepsParent child (setPrevious id previous) :=
  keepsParent_change fun _ => rfl

theorem keepsParent_onSome {step : NodeId → Edit Unit} (each : ∀ id, KeepsParent child (step id))
    (id : Option NodeId) : KeepsParent child (onSome id step) := by
  cases id with
  | none => exact .pure keepsParent _
  | some id => exact each id

/-- What is seen of the child that lands is no fragment. -/
theorem Lands.look_child {next : Node → Edit Unit}
    (lands : ∀ node, node.content.isFragment = false → Lands home child (next node)) :
    Lands home child (look child >>= next) := by
  intro forest inside noFragment
  rw [ensures_bind, ensures_look]
  refine ⟨fun node there => ?_, fun _ => trivial⟩
  rw [isA_of_node? there] at noFragment
  exact lands node noFragment forest inside (by rwa [isA_of_node? there])

theorem lands_linkLast : Lands home child (linkLast home child) := by
  refine .after (shiftsOnly_look home).sameKinds fun node => .after (ShiftsOnly.sameKinds ?_)
    fun _ => .after (ShiftsOnly.sameKinds ?_) fun _ => lands_change fun _ => rfl
  · exact shiftsOnly_onSome (fun last => .bind (shiftsOnly_setPrevious _ _) fun _ =>
      shiftsOnly_setNext _ _) _
  · exact .change fun forest => moves_relist trivial (fun _ => rfl) (fun _ => rfl)
      fun _ _ _ _ => .inr trivial

theorem lands_appendOne : Lands home child (appendOne home child) :=
  .after (shiftsOnly_checkKind home child).sameKinds fun _ =>
    .after (shiftsOnly_detach trivial).sameKinds fun _ =>
      .after (shiftsOnly_checkRoot home child).sameKinds fun _ => lands_linkLast

theorem lands_appendChild : Lands home child (appendChild home child) := by
  refine .after (shiftsOnly_look home).sameKinds fun above => ?_
  split
  · intro forest _ _
    unfold refuseChildren
    split
    · exact trivial
    · exact trivial
  · refine .look_child fun node noFragment => ?_
    rw [noFragment, Bool.false_and]
    exact lands_appendOne

theorem lands_linkBefore (mark : NodeId) : Lands home child (linkBefore home child mark) := by
  refine .after (shiftsOnly_look home).sameKinds fun node => .after (ShiftsOnly.sameKinds ?_)
    fun _ => .after (shiftsOnly_setNext _ _).sameKinds fun _ =>
      .after (shiftsOnly_setPrevious _ _).sameKinds fun _ => .after (ShiftsOnly.sameKinds ?_)
        fun _ => .after (shiftsOnly_setPrevious _ _).sameKinds fun _ => lands_change fun _ => rfl
  · exact .change fun forest => moves_relist trivial (fun _ => rfl) (fun _ => rfl)
      fun _ _ _ _ => .inr trivial
  · exact shiftsOnly_onSome (fun _ => shiftsOnly_setNext _ _) _

theorem lands_insertBefore (mark : Option NodeId) :
    Lands home child (insertBefore home child mark) := by
  refine .look_child fun node noFragment => ?_
  rw [noFragment]
  refine .after (shiftsOnly_checkKind home child).sameKinds fun _ =>
    .after (shiftsOnly_detach trivial).sameKinds fun _ => ?_
  cases mark with
  | none => exact lands_appendChild
  | some mark =>
      refine .after (shiftsOnly_look home).sameKinds fun node => ?_
      split
      · exact lands_linkBefore mark
      · exact .throw _

theorem lands_linkInstead {old : NodeId} (differ : old ≠ child) :
    Lands home child (linkInstead home child old) := by
  have keepsLook (id : NodeId) : Keeps (fun before after : Forest =>
      after.parent? child = before.parent? child) (look id) := by
    intro forest
    rw [ensures_look]
    exact ⟨fun _ _ => rfl, fun _ => rfl⟩
  refine .after (shiftsOnly_look old).sameKinds fun gone => .after (ShiftsOnly.sameKinds ?_)
    fun _ => .before (lands_change fun _ => rfl) fun _ =>
      .bind keepsParent (keepsParent_change_ne differ) fun _ => .bind keepsParent (keepsLook _)
        fun _ => .bind keepsParent (keepsParent_onSome (fun _ => keepsParent_setNext _ _) _)
          fun _ => .bind keepsParent (keepsLook _)
            fun _ => keepsParent_onSome (fun _ => keepsParent_setPrevious _ _) _
  exact .change fun forest => moves_relist trivial (fun _ => rfl) (fun _ => rfl)
    fun _ _ _ _ => .inr trivial

theorem lands_replaceChild {old : NodeId} (differ : old ≠ child) :
    Lands home child (replaceChild home child old) := by
  refine .look_child fun node noFragment => ?_
  rw [noFragment]
  refine .after (shiftsOnly_checkKind home child).sameKinds fun _ => ?_
  rw [if_neg differ.symm]
  refine .after (shiftsOnly_detach trivial).sameKinds fun _ =>
    .after (shiftsOnly_look home).sameKinds fun node => ?_
  split
  · exact lands_linkInstead differ
  · exact .throw _

end Edit

open Edit

/-- A new root of a document lands there, unless the document lists it already. -/
theorem lands_setRoot {document element : NodeId} {forest : Forest}
    (inside : element < forest.size) (noFragment : forest.isA Content.isFragment element = false)
    (detached : forest.parent? element = none) :
    Ensures (setRoot document element) forest
      (fun _ after => after.parent? element = some document ∨
        after.parent? element = none ∧ forest.isA Content.isDocument document)
      fun _ _ => True := by
  rw [setRoot, ensures_bind, rootOf, ensures_bind, ensures_checkDocument]
  refine ⟨fun isDocument => ?_, fun _ => trivial⟩
  rw [ensures_bind, ensures_get]
  cases root : forest.rootElement? document with
  | none =>
      exact (lands_appendChild forest inside noFragment).mono (fun _ _ there => .inl there)
        fun _ _ _ => trivial
  | some old =>
      show Ensures (if old = element then pure () else replaceChild document element old) forest _ _
      split
      · exact .inr ⟨detached, isDocument⟩
      · rename_i differ
        exact (lands_replaceChild differ forest inside noFragment).mono
          (fun _ _ there => .inl there) fun _ _ _ => trivial

/-- A node without a parent that is placed at a target lands at its home.  Only
under a document may it be left where it is. -/
theorem lands_place {target : Target} {node home : NodeId} {forest : Forest}
    (isHome : target.home? forest = some home) (inside : node < forest.size)
    (noFragment : forest.isA Content.isFragment node = false)
    (detached : forest.parent? node = none) (differ : target.reference ≠ node) :
    Ensures (place target node) forest
      (fun _ after => after.parent? node = some home ∨
        after.parent? node = none ∧ forest.isA Content.isDocument home)
      fun _ _ => True := by
  have beside {next : NodeId → Edit Unit}
      (isHome : forest.parent? target.reference = some home)
      (lands : Lands home node (next home)) :
      Ensures (parentOf target.reference >>= next) forest
        (fun _ after => after.parent? node = some home ∨
          after.parent? node = none ∧ forest.isA Content.isDocument home)
        fun _ _ => True := by
    rw [ensures_bind, ensures_parentOf]
    refine ⟨fun parent there => ?_, fun _ => trivial⟩
    rw [isHome] at there
    cases there
    exact (lands forest inside noFragment).mono (fun _ _ there => .inl there) fun _ _ _ => trivial
  unfold Target.home? at isHome
  obtain ⟨mode, reference⟩ := target
  cases mode with
  | under =>
      cases isHome
      rw [place, attachUnder, ensures_bind, ensures_discard, ensures_look]
      refine ⟨fun above there => ?_, fun _ => trivial⟩
      rw [ensures_bind, ensures_look]
      refine ⟨fun below there' => ?_, fun _ => trivial⟩
      have same := noFragment
      rw [isA_of_node? there'] at same
      rw [same, attachOneUnder]
      show Ensures (look reference >>= _) forest _ _
      rw [ensures_bind, ensures_look]
      refine ⟨fun above there => ?_, fun _ => trivial⟩
      rw [ensures_bind, ensures_look]
      refine ⟨fun below there' => ?_, fun _ => trivial⟩
      split
      · exact lands_setRoot inside noFragment detached
      · exact (lands_appendChild forest inside noFragment).mono (fun _ _ there => .inl there)
          fun _ _ _ => trivial
  | before => exact beside isHome (lands_insertBefore _)
  | after => exact beside isHome (.after (shiftsOnly_look _).sameKinds fun _ => lands_insertBefore _)
  | replacing =>
      rw [place, replaceSibling, ensures_bind, ensures_look]
      refine ⟨fun below there => ?_, fun _ => trivial⟩
      have same := noFragment
      rw [isA_of_node? there] at same
      rw [same]
      exact beside isHome (lands_replaceChild differ)

end MarkupSpec
