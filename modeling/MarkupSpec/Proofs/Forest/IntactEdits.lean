import MarkupSpec.Proofs.Forest.Intact
import MarkupSpec.Proofs.Forest.PlacedParent

/-!
# Edits keep forests woven

Each edit that gives nodes their place keeps a forest woven, however it ends, if
what it moves has a higher number than what it is put under.  An edit that moves
several nodes, such as the children of a fragment, does so one by one, and the
others can be moved still (`Forest.Tends`).
-/

namespace MarkupSpec

namespace Forest

/-- The forest is still woven.  No node but those that were moved has got another
parent, although one may have lost it. -/
structure Tends (origin : Forest) (moved : NodeId → Prop) (before after : Forest) : Prop where
  intact : Intact origin after
  size : after.size = before.size
  content : ∀ id, (after.content? id).map Content.lasting = (before.content? id).map Content.lasting
  parent : ∀ id, ¬ moved id → after.parent? id = before.parent? id ∨ after.parent? id = none

namespace Tends

variable {origin before after : Forest} {moved : NodeId → Prop}
  {home child new old : NodeId} {mark : Option NodeId}

theorem refl (intact : Intact origin before) : Tends origin moved before before where
  intact := intact
  size := rfl
  content _ := rfl
  parent _ _ := .inl rfl

/-- Nodes that were not moved can be moved still. -/
theorem movable (tends : Tends origin moved before after) {id : NodeId} (notMoved : ¬ moved id)
    (movable : before.Movable id) : after.Movable id := by
  intro home there
  have same := isA_of_lasting (tends.content home) Content.isDocument_lasting
  rcases tends.parent id notMoved with kept | gone
  · rw [same]
    exact movable home (kept ▸ there)
  · rw [there] at gone
    cases gone

theorem of_joins (intact : Intact origin before) (inHome : origin.size ≤ home)
    (lower : home < child) (movable : before.Movable child)
    (joins : Joins home child mark before after) : Tends origin (· = child) before after where
  intact := intact.joins inHome lower movable joins
  size := joins.size
  content id := by rw [joins.content]
  parent id differ := .inl (by rw [joins.parent, if_neg differ])

theorem of_ousts (intact : Intact origin before) (inHome : origin.size ≤ home)
    (lower : home < new) (movable : before.Movable new) (differ : new ≠ old)
    (ousts : Ousts home new old before after) : Tends origin (· = new) before after where
  intact := intact.ousts inHome lower movable differ ousts
  size := by
    obtain ⟨middle, front, back, -, detached, swaps⟩ := ousts
    rw [swaps.size, detached.size]
  content id := by rw [ousts.content]
  parent id notNew := by
    obtain ⟨middle, front, back, -, detached, swaps⟩ := ousts
    rw [swaps.parent, if_neg notNew, detached.parent notNew]
    split
    · exact .inr rfl
    · exact .inl rfl

end Tends

/-- What may come under a home by itself. -/
structure Ready (forest : Forest) (home child : NodeId) : Prop where
  inside : child < forest.size
  lower : home < child
  movable : forest.Movable child
  noFragment : forest.isA Content.isFragment child = false

theorem Ready.later {origin before after : Forest} {moved : NodeId → Prop} {home child : NodeId}
    (ready : before.Ready home child) (tends : Tends origin moved before after)
    (notMoved : ¬ moved child) : after.Ready home child where
  inside := tends.size.symm ▸ ready.inside
  lower := ready.lower
  movable := tends.movable notMoved ready.movable
  noFragment :=
    (isA_of_lasting (tends.content child) Content.isFragment_lasting).trans ready.noFragment

theorem Ready.isFragment_of_node? {forest : Forest} {home child : NodeId} {found : Node}
    (ready : forest.Ready home child) (there : forest.node? child = some found) :
    found.content.isFragment = false :=
  (isA_of_node? there).symm.trans ready.noFragment

/-- The children of a new fragment may come under a home that was there before it. -/
theorem Intact.ready_of_fragment {origin forest : Forest} {home child member : NodeId}
    (intact : Intact origin forest) (inHome : origin.size ≤ home) (lower : home < child)
    (isFragment : forest.isA Content.isFragment child = true)
    (among : member ∈ forest.children child) : child < member ∧ forest.Ready home member := by
  have there := intact.agrees.parent child member among
  have new : origin.size ≤ child := Nat.le_trans inHome (Nat.le_of_lt lower)
  have above := (intact.under member child (intact.new_of_parent there new) there).2
  have fits := intact.agrees.fits member child there
  refine ⟨above, fits.lt_size, Nat.lt_trans lower above, fun other there' => ?_, fits.isFragment⟩
  rw [there] at there'
  cases there'
  exact isDocument_of_isFragment isFragment

end Forest

open Forest

namespace Edit

section Tend

variable {origin forest : Forest} {home child old node reference : NodeId} {mark : Option NodeId}

/-! ## One node -/

theorem tends_insertOne (intact : Intact origin forest) (inHome : origin.size ≤ home)
    (ready : forest.Ready home child) :
    Ensures (insertOne home child mark) forest (fun _ => Tends origin (· = child) forest)
      fun _ => Intact origin := by
  refine (ensures_insertOne intact.agrees mark).mono
    (fun _ after joins => .of_joins intact inHome ready.lower ready.movable joins)
    fun _ _ failed => ?_
  exact intact.unplaced (Nat.le_trans inHome (Nat.le_of_lt ready.lower)) ready.movable failed.1

theorem tends_replaceOne (intact : Intact origin forest) (inHome : origin.size ≤ home)
    (ready : forest.Ready home child) :
    Ensures (replaceOne home child old) forest (fun _ => Tends origin (· = child) forest)
      fun _ => Intact origin := by
  refine (ensures_replaceOne intact.agrees).mono (fun _ after ends => ?_) fun _ _ failed => ?_
  · rcases ends with ⟨-, rfl⟩ | ⟨differ, ousts⟩
    · exact .refl intact
    · exact .of_ousts intact inHome ready.lower ready.movable differ ousts
  · exact intact.unplaced (Nat.le_trans inHome (Nat.le_of_lt ready.lower)) ready.movable failed.1

theorem ensures_appendChild (agrees : forest.Agrees) (ready : forest.Ready home child) :
    Ensures (appendChild home child) forest (fun _ after => Joins home child none forest after)
      fun _ after => Unplaced child forest after := by
  rw [appendChild, ensures_bind, ensures_look]
  refine ⟨fun above there => ?_, fun _ => .inl rfl⟩
  split
  · unfold refuseChildren
    split
    · exact .inl rfl
    · exact .inl rfl
  · rw [ensures_bind, ensures_look]
    refine ⟨fun below there' => ?_, fun _ => .inl rfl⟩
    rw [ready.isFragment_of_node? there', Bool.false_and, if_neg Bool.false_ne_true]
    exact (ensures_appendOne agrees).mono (fun _ _ joins => joins) fun _ _ failed => failed.1

theorem tends_appendChild (intact : Intact origin forest) (inHome : origin.size ≤ home)
    (ready : forest.Ready home child) :
    Ensures (appendChild home child) forest (fun _ => Tends origin (· = child) forest)
      fun _ => Intact origin := by
  refine (ensures_appendChild intact.agrees ready).mono
    (fun _ after joins => .of_joins intact inHome ready.lower ready.movable joins)
    fun _ _ unplaced => ?_
  exact intact.unplaced (Nat.le_trans inHome (Nat.le_of_lt ready.lower)) ready.movable unplaced

theorem tends_insertBefore (intact : Intact origin forest) (inHome : origin.size ≤ home)
    (ready : forest.Ready home child) :
    Ensures (insertBefore home child mark) forest (fun _ => Tends origin (· = child) forest)
      fun _ => Intact origin := by
  rw [insertBefore, ensures_bind, ensures_look]
  refine ⟨fun below there => ?_, fun _ => intact⟩
  rw [ready.isFragment_of_node? there, if_neg Bool.false_ne_true]
  exact tends_insertOne intact inHome ready

theorem tends_replaceChild (intact : Intact origin forest) (inHome : origin.size ≤ home)
    (ready : forest.Ready home child) :
    Ensures (replaceChild home child old) forest (fun _ => Tends origin (· = child) forest)
      fun _ => Intact origin := by
  rw [replaceChild, ensures_bind, ensures_look]
  refine ⟨fun below there => ?_, fun _ => intact⟩
  rw [ready.isFragment_of_node? there, if_neg Bool.false_ne_true]
  exact tends_replaceOne intact inHome ready

/-- An element takes the place of the one that the document has. -/
theorem tends_setRoot (intact : Intact origin forest) (inHome : origin.size ≤ home)
    (ready : forest.Ready home child) :
    Ensures (setRoot home child) forest (fun _ => Tends origin (· = child) forest)
      fun _ => Intact origin := by
  rw [setRoot, ensures_bind, rootOf, ensures_bind, ensures_checkDocument]
  refine ⟨fun _ => ?_, fun _ => intact⟩
  rw [ensures_bind, ensures_get, ensures_pure]
  cases forest.rootElement? home with
  | none => exact tends_appendChild intact inHome ready
  | some old =>
      show Ensures (if old = child then pure () else replaceChild home child old) forest _ _
      split
      · exact Tends.refl intact
      · exact tends_replaceChild intact inHome ready

theorem tends_attachOneUnder (intact : Intact origin forest) (inHome : origin.size ≤ home)
    (ready : forest.Ready home child) :
    Ensures (attachOneUnder home child) forest (fun _ => Tends origin (· = child) forest)
      fun _ => Intact origin := by
  rw [attachOneUnder, ensures_bind, ensures_look]
  refine ⟨fun above _ => ?_, fun _ => intact⟩
  rw [ensures_bind, ensures_look]
  refine ⟨fun below _ => ?_, fun _ => intact⟩
  split
  · exact tends_setRoot intact inHome ready
  · exact tends_appendChild intact inHome ready

/-! ## A node, or the children of a fragment -/

/-- Nodes that are ready for a home come there one by one. -/
theorem intact_forM {step : NodeId → Edit Unit}
    (each : ∀ member forest, Intact origin forest → forest.Ready home member →
      Ensures (step member) forest (fun _ => Tends origin (· = member) forest)
        fun _ => Intact origin) :
    ∀ (members : List NodeId) {forest : Forest}, Intact origin forest → members.Nodup →
      (∀ member ∈ members, forest.Ready home member) →
      Ensures (members.forM step) forest (fun _ => Intact origin) fun _ => Intact origin
  | [], _, intact, _, _ => intact
  | member :: rest, forest, intact, distinct, ready => by
      rw [List.nodup_cons] at distinct
      show Ensures (step member >>= fun _ => rest.forM step) forest _ _
      rw [ensures_bind]
      refine (each member forest intact (ready member List.mem_cons_self)).mono
        (fun _ middle tends => ?_) fun _ _ intact => intact
      refine intact_forM each rest tends.intact distinct.2 fun other among => ?_
      exact (ready other (List.mem_cons_of_mem _ among)).later tends fun same =>
        distinct.1 (same ▸ among)

/-- A node that is ready comes under the home itself, and a fragment gives its
children. -/
theorem intact_givingChildren {step : NodeId → Edit Unit} {found : Node}
    (each : ∀ member forest, Intact origin forest → forest.Ready home member →
      Ensures (step member) forest (fun _ => Tends origin (· = member) forest)
        fun _ => Intact origin)
    (intact : Intact origin forest) (inHome : origin.size ≤ home) (lower : home < child)
    (movable : forest.Movable child) (there : forest.node? child = some found) :
    Ensures (if found.content.isFragment then found.children.forM step else step child) forest
      (fun _ => Intact origin) fun _ => Intact origin := by
  have kind : forest.isA Content.isFragment child = found.content.isFragment := isA_of_node? there
  rw [← kind, ← children_of_node? there]
  split
  · rename_i isFragment
    exact intact_forM each _ intact (intact.agrees.nodup child) fun member among =>
      (intact.ready_of_fragment inHome lower isFragment among).2
  · rename_i noFragment
    have inside := node?_isSome_iff.mp (Option.isSome_iff_exists.mpr ⟨found, there⟩)
    exact (each child forest intact ⟨inside, lower, movable, by simpa using noFragment⟩).mono
      (fun _ _ tends => tends.intact) fun _ _ intact => intact

theorem intact_insertBefore (intact : Intact origin forest) (inHome : origin.size ≤ home)
    (lower : home < child) (movable : forest.Movable child) :
    Ensures (insertBefore home child mark) forest (fun _ => Intact origin)
      fun _ => Intact origin := by
  rw [insertBefore, ensures_bind, ensures_look]
  exact ⟨fun found there => intact_givingChildren
    (fun _ _ intact ready => tends_insertOne intact inHome ready) intact inHome lower movable there,
    fun _ => intact⟩

theorem intact_attachUnder (intact : Intact origin forest) (inHome : origin.size ≤ home)
    (lower : home < child) (movable : forest.Movable child) :
    Ensures (attachUnder home child) forest (fun _ => Intact origin) fun _ => Intact origin := by
  rw [attachUnder, ensures_bind, ensures_discard, ensures_look]
  refine ⟨fun _ _ => ?_, fun _ => intact⟩
  rw [ensures_bind, ensures_look]
  exact ⟨fun found there => intact_givingChildren
    (fun _ _ intact ready => tends_attachOneUnder intact inHome ready) intact inHome lower movable
    there, fun _ => intact⟩

/-! ## Beside a node -/

/-- The parent of a new node is a new node with a lower number. -/
theorem intact_bind_parentOf {next : NodeId → Edit Unit} (intact : Intact origin forest)
    (new : origin.size ≤ reference)
    (onNext : ∀ home, forest.parent? reference = some home → origin.size ≤ home →
      home < reference →
      Ensures (next home) forest (fun _ => Intact origin) fun _ => Intact origin) :
    Ensures (parentOf reference >>= next) forest (fun _ => Intact origin)
      fun _ => Intact origin := by
  rw [ensures_bind, ensures_parentOf]
  refine ⟨fun home there => ?_, fun _ => intact⟩
  obtain ⟨inHome, lower⟩ := intact.under reference home new there
  exact onNext home there inHome lower

/-- The place behind a node is in front of the one that it is linked to. -/
theorem intact_insertAfterSibling (intact : Intact origin forest) (new : origin.size ≤ reference)
    (lower : reference < child) (movable : forest.Movable child) :
    Ensures (insertAfterSibling child reference) forest (fun _ => Intact origin)
      fun _ => Intact origin := by
  refine intact_bind_parentOf intact new fun home _ inHome below => ?_
  rw [ensures_bind, ensures_look]
  exact ⟨fun _ _ => intact_insertBefore intact inHome (Nat.lt_trans below lower) movable,
    fun _ => intact⟩

/-- Nodes that are ready for a home are chained behind one of its children. -/
theorem intact_insertChain (inHome : origin.size ≤ home) :
    ∀ (members : List NodeId) (reference : NodeId) {forest : Forest}, Intact origin forest →
      forest.parent? reference = some home → members.Nodup →
      (∀ member ∈ members, forest.Ready home member) →
      Ensures (insertChain reference members) forest (fun _ => Intact origin)
        fun _ => Intact origin
  | [], _, _, intact, _, _, _ => intact
  | member :: rest, reference, forest, intact, there, distinct, ready => by
      rw [List.nodup_cons] at distinct
      have first := ready member List.mem_cons_self
      rw [insertChain, ensures_bind, insertAfterSibling, ensures_bind, ensures_parentOf]
      refine ⟨fun home' there' => ?_, fun _ => intact⟩
      rw [there] at there'
      cases there'
      rw [ensures_bind, ensures_look]
      refine ⟨fun found _ => ?_, fun _ => intact⟩
      have lands : Lands home member (insertBefore home member found.next) := lands_insertBefore _
      refine ((tends_insertBefore intact inHome first).and
        (lands forest first.inside first.noFragment)).mono (fun _ after ends => ?_)
        fun _ _ failed => failed.1
      obtain ⟨tends, isHome⟩ := ends
      refine intact_insertChain inHome rest member tends.intact isHome distinct.2
        fun other among => ?_
      exact (ready other (List.mem_cons_of_mem _ among)).later tends fun same =>
        distinct.1 (same ▸ among)

/-- A node that is removed is woven into nothing, and the gap is closed. -/
theorem intact_remove (intact : Intact origin forest) (new : origin.size ≤ node) :
    Ensures (remove node) forest (fun _ => Intact origin) fun _ => Intact origin := by
  rw [remove_eq]
  refine intact_bind_parentOf intact new fun home _ inHome _ => ?_
  rw [ensures_bind]
  refine ((ensures_removeClosing intact.agrees).and
    (ensures_removeClosing_closes intact.agrees)).mono (fun _ after ends => ?_)
    fun _ _ failed => failed.1.1 ▸ intact
  obtain ⟨⟨front, back, loses⟩, closes⟩ := ends
  rw [change, ensures_modify]
  exact (intact.loses inHome loses closes).update inHome (lasting_forgetting node)
    (forgetting_eq node)

/-- The first child of a fragment takes the place, and the others are chained behind
it. -/
theorem intact_replaceSibling (intact : Intact origin forest) (new : origin.size ≤ reference)
    (lower : reference < node) (movable : forest.Movable node) :
    Ensures (replaceSibling reference node) forest (fun _ => Intact origin)
      fun _ => Intact origin := by
  rw [replaceSibling, ensures_bind, ensures_look]
  refine ⟨fun below there => ?_, fun _ => intact⟩
  have kind : forest.isA Content.isFragment node = below.content.isFragment := isA_of_node? there
  rw [← kind]
  split
  · rename_i isFragment
    have list := children_of_node? there
    split
    · exact intact_remove intact new
    · rename_i first rest members
      rw [members] at list
      have distinct := intact.agrees.nodup node
      rw [list, List.nodup_cons] at distinct
      refine intact_bind_parentOf intact new fun home _ inHome below => ?_
      have ready (member : NodeId) (among : member ∈ first :: rest) :
          node < member ∧ forest.Ready home member :=
        intact.ready_of_fragment inHome (Nat.lt_trans below lower) isFragment (list ▸ among)
      obtain ⟨above, own⟩ := ready first List.mem_cons_self
      have differ : reference ≠ first := Nat.ne_of_lt (Nat.lt_trans lower above)
      have lands : Lands home first (replaceChild home first reference) := lands_replaceChild differ
      rw [ensures_bind]
      refine ((tends_replaceChild intact inHome own).and
        (lands forest own.inside own.noFragment)).mono (fun _ after ends => ?_)
        fun _ _ failed => failed.1
      obtain ⟨tends, isHome⟩ := ends
      refine intact_insertChain inHome rest first tends.intact isHome distinct.2
        fun other among => ?_
      exact (ready other (List.mem_cons_of_mem _ among)).2.later tends fun same =>
        distinct.1 (same ▸ among)
  · rename_i noFragment
    have inside := node?_isSome_iff.mp (Option.isSome_iff_exists.mpr ⟨below, there⟩)
    refine intact_bind_parentOf intact new fun home _ inHome below => ?_
    have ready : forest.Ready home node :=
      ⟨inside, Nat.lt_trans below lower, movable, by simpa using noFragment⟩
    exact (tends_replaceChild intact inHome ready).mono (fun _ _ tends => tends.intact)
      fun _ _ intact => intact

/-- A new node that is put at a target of new nodes is woven into these. -/
theorem intact_place {target : Target} (intact : Intact origin forest)
    (new : origin.size ≤ target.reference) (lower : target.reference < node)
    (movable : forest.Movable node) :
    Ensures (place target node) forest (fun _ => Intact origin) fun _ => Intact origin := by
  obtain ⟨mode, reference⟩ := target
  cases mode with
  | under => exact intact_attachUnder intact new lower movable
  | before =>
      exact intact_bind_parentOf intact new fun home _ inHome below =>
        intact_insertBefore intact inHome (Nat.lt_trans below lower) movable
  | after => exact intact_insertAfterSibling intact new lower movable
  | replacing => exact intact_replaceSibling intact new lower movable

/-- A document takes a doctype, and remembers it. -/
theorem intact_placeDoctype (intact : Intact origin forest) (inHome : origin.size ≤ home)
    (ready : forest.Ready home child) :
    Ensures (placeDoctype home child) forest (fun _ => Intact origin) fun _ => Intact origin := by
  have remembers {middle : Forest} (intact : Intact origin middle) :
      Ensures (change home (remembering child)) middle (fun _ => Intact origin) fun _ =>
        Intact origin :=
    intact.update inHome (lasting_remembering child) (remembering_eq child)
  rw [placeDoctype, ensures_bind, ensures_get]
  dsimp only
  split
  · rw [ensures_bind]
    exact (tends_replaceChild intact inHome ready).mono (fun _ _ tends => remembers tends.intact)
      fun _ _ intact => intact
  · split
    · rw [ensures_bind]
      exact (tends_insertBefore intact inHome ready).mono (fun _ _ tends => remembers tends.intact)
        fun _ _ intact => intact
    · rw [ensures_bind]
      exact (tends_appendChild intact inHome ready).mono (fun _ _ tends => remembers tends.intact)
        fun _ _ intact => intact

end Tend

end Edit

end MarkupSpec
