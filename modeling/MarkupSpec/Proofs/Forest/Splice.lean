import MarkupSpec.Proofs.Forest.ChildLists

/-!
# Splicing nodes into a row

Nodes that go to a target are spliced into the list of its home: at the end, in
front of the reference, behind it or in its place (`Target.splice`).  Placing one
node that fits does so, and so does placing a fragment, whose children come one by
one in the place that the fragment has.  Neither can fail.

Behind a node means in front of the one that it is linked to, so that the links of
the reference have to be right there.  And the children of a fragment that
replaces a node are each put behind the one before, so that these links must stay
right all the while.
-/

namespace MarkupSpec

/-- The list of a home after new nodes went to the target. -/
def Target.splice (target : Target) (new list : List NodeId) : List NodeId :=
  match target.mode with
  | .under => list ++ new
  | .before =>
      list.flatMap fun id => if id = target.reference then new ++ [target.reference] else [id]
  | .after =>
      list.flatMap fun id => if id = target.reference then target.reference :: new else [id]
  | .replacing =>
      if new.isEmpty then list
      else list.flatMap fun id => if id = target.reference then new else [id]

/-- The node that loses its place to the new ones, if there are any. -/
def Target.gone (target : Target) (new : List NodeId) : Option NodeId :=
  if target.mode = .replacing ∧ new ≠ [] then some target.reference else none

section Splice

variable {target : Target} {new list front back : List NodeId}

theorem flatMap_around {mark : NodeId} {instead : List NodeId} (notFront : mark ∉ front)
    (notBack : mark ∉ back) :
    (front ++ mark :: back).flatMap (fun id => if id = mark then instead else [id]) =
      front ++ instead ++ back := by
  have others {part : List NodeId} (notAmong : mark ∉ part) :
      part.flatMap (fun id => if id = mark then instead else [id]) = part := by
    induction part with
    | nil => rfl
    | cons id rest ih =>
        rw [List.mem_cons, not_or] at notAmong
        rw [List.flatMap_cons, if_neg (Ne.symm notAmong.1), ih notAmong.2]
        rfl
  rw [List.flatMap_append, List.flatMap_cons, if_pos rfl, others notFront, others notBack,
    List.append_assoc]

theorem erase_around {mark : NodeId} (distinct : (front ++ mark :: back).Nodup) :
    (front ++ mark :: back).erase mark = front ++ back := by
  have notFront : mark ∉ front := fun inFront =>
    (List.nodup_append.mp distinct).2.2 _ inFront _ List.mem_cons_self rfl
  rw [List.erase_append_right _ notFront, List.erase_cons_head]

/-- Nothing is spliced in if there is nothing new. -/
theorem Target.splice_nil (target : Target) (list : List NodeId) :
    target.splice [] list = list := by
  obtain ⟨mode, reference⟩ := target
  have single : (fun id : NodeId => if id = reference then [reference] else [id]) =
      fun id => [id] := by
    funext id
    split
    · rename_i same
      rw [same]
    · rfl
  cases mode with
  | under => exact List.append_nil list
  | before | after => simp [Target.splice, single]
  | replacing => rfl

@[simp]
theorem Target.gone_nil (target : Target) : target.gone [] = none := by
  simp [Target.gone]

theorem Target.gone_of_isUnder (isUnder : target.isUnder) : target.gone new = none := by
  have isUnder : target.mode = .under := by simpa [Target.isUnder] using isUnder
  simp [gone, isUnder]

/-- Before a node means in front of it. -/
theorem Target.splice_before (distinct : (front ++ target.reference :: back).Nodup)
    (isBefore : target.mode = .before) :
    target.splice new (front ++ target.reference :: back) =
      front ++ new ++ target.reference :: back := by
  rw [List.nodup_middle, List.nodup_cons, List.mem_append, not_or] at distinct
  simp only [splice, isBefore]
  rw [flatMap_around distinct.1.1 distinct.1.2]
  simp

/-- After a node means in front of what is behind it. -/
theorem Target.splice_after (distinct : (front ++ target.reference :: back).Nodup)
    (isAfter : target.mode = .after) :
    target.splice new (front ++ target.reference :: back) =
      front ++ [target.reference] ++ new ++ back := by
  rw [List.nodup_middle, List.nodup_cons, List.mem_append, not_or] at distinct
  simp only [splice, isAfter]
  rw [flatMap_around distinct.1.1 distinct.1.2]
  simp

/-- Nodes that replace another one stand where that one stood. -/
theorem Target.splice_replacing (distinct : (front ++ target.reference :: back).Nodup)
    (isReplacing : target.mode = .replacing) (some : new ≠ []) :
    target.splice new (front ++ target.reference :: back) = front ++ new ++ back := by
  rw [List.nodup_middle, List.nodup_cons, List.mem_append, not_or] at distinct
  simp only [splice, isReplacing]
  rw [if_neg (by simpa using some), flatMap_around distinct.1.1 distinct.1.2]

/-- What is spliced in beside a member is there, in its order. -/
theorem Target.sublist_splice (target : Target) (beside : target.isUnder = false) {list : List NodeId}
    (distinct : list.Nodup) (among : target.reference ∈ list) :
    new.Sublist (target.splice new list) := by
  obtain ⟨front, back, rfl⟩ := List.append_of_mem among
  by_cases empty : new = []
  · rw [empty]
    exact List.nil_sublist _
  · cases isMode : target.mode with
    | under => simp [isUnder, isMode] at beside
    | before =>
        rw [splice_before distinct isMode]
        exact (List.sublist_append_right _ _).trans (List.sublist_append_left _ _)
    | after =>
        rw [splice_after distinct isMode]
        exact (List.sublist_append_right _ _).trans (List.sublist_append_left _ _)
    | replacing =>
        rw [splice_replacing distinct isMode empty]
        exact (List.sublist_append_right _ _).trans (List.sublist_append_left _ _)

/-- What is in the list after that is new, or was there and keeps its place. -/
theorem Target.mem_of_mem_splice {id : NodeId} (among : id ∈ target.splice new list) :
    id ∈ new ∨ id ∈ list ∧ target.gone new ≠ some id := by
  obtain ⟨mode, reference⟩ := target
  cases mode with
  | under =>
      rcases List.mem_append.mp among with early | late
      · exact .inr ⟨early, by simp [gone]⟩
      · exact .inl late
  | before | after =>
      obtain ⟨other, early, there⟩ := List.mem_flatMap.mp among
      by_cases isNew : id ∈ new
      · exact .inl isNew
      · refine .inr ⟨?_, by simp [gone]⟩
        split at there
        · rename_i isReference
          have same : id = reference := by simpa [isNew] using there
          rw [same, ← show other = reference from isReference]
          exact early
        · rw [List.mem_singleton.mp there]
          exact early
  | replacing =>
      unfold splice at among
      dsimp only at among
      split at among
      · rename_i empty
        exact .inr ⟨among, by simp [gone, List.isEmpty_iff.mp empty]⟩
      · obtain ⟨other, early, there⟩ := List.mem_flatMap.mp among
        split at there
        · exact .inl there
        · rename_i notReference
          obtain rfl := List.mem_singleton.mp there
          refine .inr ⟨early, fun isGone => ?_⟩
          unfold gone at isGone
          split at isGone
          · exact notReference (Option.some.inj isGone).symm
          · cases isGone

end Splice

namespace Forest

variable {before middle after : Forest} {home holder node : NodeId} {mark : Option NodeId}
  {front back : List NodeId}

/-- A node without a parent only joins. -/
theorem Joins.gains (joins : Joins home node mark before after) (agrees : before.Agrees)
    (top : before.parent? node = none) (split : before.children home = front ++ back)
    (isMark : back.head? = mark) : Gains home node front back before after := by
  obtain ⟨middle, front', back', -, detached, isMark', gains⟩ := joins
  rcases detached with ⟨-, rfl⟩ | ⟨other, -, -, was, -⟩
  · obtain ⟨rfl, rfl⟩ :=
      cut_unique (agrees.nodup home) split gains.split (isMark.trans isMark'.symm)
    exact gains
  · rw [top] at was
    cases was

/-- A child of a holder leaves that before it joins. -/
theorem Joins.moves (joins : Joins home node mark before after) (agrees : before.Agrees)
    (among : node ∈ before.children holder) :
    ∃ middle front back, Loses holder node front back before middle ∧
      Joins home node mark middle after := by
  obtain ⟨middle, front, back, fits, detached, isMark, gains⟩ := joins
  have there := agrees.parent holder node among
  rcases detached with ⟨top, -⟩ | ⟨other, front', back', was, loses⟩
  · rw [there] at top
    cases top
  · rw [there] at was
    cases was
    have top : middle.parent? node = none := by rw [loses.parent, if_pos rfl]
    exact ⟨middle, front', back', loses, middle, front, back,
      Agrees.fits_of_content loses.content fits, .inl ⟨top, rfl⟩, isMark, gains⟩

/-- The first child of a holder comes into the list of a home. -/
theorem Joins.alters {rest : List NodeId} (joins : Joins home node back.head? before after)
    (agrees : before.Agrees) (held : before.children holder = node :: rest)
    (differ : holder ≠ home) (split : before.children home = front ++ back) :
    Alters home (front ++ node :: back) none (some holder) before after ∧
      after.children holder = rest := by
  have among : node ∈ before.children holder := by simp [held]
  obtain ⟨middle, front', back', loses, joins'⟩ := joins.moves agrees among
  obtain ⟨isFront, isBack⟩ : front' = [] ∧ back' = rest :=
    cut_around (agrees.nodup holder) loses.split held
  subst isFront isBack
  have agrees' := agrees.loses loses
  have top : middle.parent? node = none := by rw [loses.parent, if_pos rfl]
  have split' : middle.children home = front ++ back := by
    rw [loses.children, if_neg (Ne.symm differ), split]
  have gains := joins'.gains agrees' top split' rfl
  refine ⟨loses.alters (gains.alters agrees' joins'.fits top) (by simp), ?_⟩
  rw [gains.children, if_neg differ, loses.children, if_pos rfl, List.nil_append]

/-- What the holder still has is a row, and the child is linked to what is behind
it. -/
theorem Joins.linked {rest : List NodeId} (joins : Joins home node back.head? before after)
    (agrees : before.Agrees) (held : before.children holder = node :: rest)
    (differ : holder ≠ home) (split : before.children home = front ++ back)
    (noDocument : before.isA Content.isDocument holder = false) (linked : before.Linked holder) :
    after.Linked holder ∧ after.next? node = back.head? := by
  have among : node ∈ before.children holder := by simp [held]
  obtain ⟨middle, front', back', loses, joins'⟩ := joins.moves agrees among
  have agrees' := agrees.loses loses
  have split' : middle.children home = front ++ back := by
    rw [loses.children, if_neg (Ne.symm differ), split]
  have top : middle.parent? node = none := by rw [loses.parent, if_pos rfl]
  have gains := joins'.gains agrees' top split' rfl
  have linked' := linked.loses agrees loses (loses.closes noDocument)
  refine ⟨linked'.elsewhere agrees' (by rw [gains.children, if_neg differ]) fun id there => ?_,
    by rw [gains.next, if_pos rfl]⟩
  refine gains.links_other agrees' loses.loose.2 ?_ ?_
  · rintro rfl
    rw [top] at there
    cases there
  · rw [there]
    exact fun same => differ (Option.some.inj same)

/-- A node without a parent only takes the place. -/
theorem Ousts.swaps (ousts : Ousts home node old before after)
    (agrees : before.Agrees) (top : before.parent? node = none)
    (split : before.children home = front ++ old :: back) :
    Swaps home node old front back before after := by
  obtain ⟨middle, front', back', -, detached, swaps⟩ := ousts
  rcases detached with ⟨-, rfl⟩ | ⟨other, -, -, was, -⟩
  · obtain ⟨rfl, rfl⟩ := cut_around (agrees.nodup home) split swaps.split
    exact swaps
  · rw [top] at was
    cases was

/-- A child of a holder leaves that before it takes the place of another node. -/
theorem Ousts.moves (ousts : Ousts home node old before after) (agrees : before.Agrees)
    (among : node ∈ before.children holder) :
    ∃ middle front back, Loses holder node front back before middle ∧
      Ousts home node old middle after := by
  obtain ⟨middle, front, back, fits, detached, swaps⟩ := ousts
  have there := agrees.parent holder node among
  rcases detached with ⟨top, -⟩ | ⟨other, front', back', was, loses⟩
  · rw [there] at top
    cases top
  · rw [there] at was
    cases was
    have top : middle.parent? node = none := by rw [loses.parent, if_pos rfl]
    exact ⟨middle, front', back', loses, middle, front, back,
      Agrees.fits_of_content loses.content fits, .inl ⟨top, rfl⟩, swaps⟩

/-- The first child of a holder takes the place of a child of a home.  What the holder
still has is a row, and the child is linked to what is behind it. -/
theorem Ousts.alters {rest : List NodeId} (ousts : Ousts home node old before after)
    (agrees : before.Agrees) (held : before.children holder = node :: rest)
    (differ : holder ≠ home) (split : before.children home = front ++ old :: back)
    (noDocument : before.isA Content.isDocument holder = false) (linked : before.Linked holder)
    (linkedHome : before.Linked home) :
    Alters home (front ++ node :: back) (some old) (some holder) before after ∧
      after.children holder = rest ∧ after.Linked holder ∧ after.next? node = back.head? := by
  have among : node ∈ before.children holder := by simp [held]
  have there := agrees.parent holder node among
  obtain ⟨middle, front', back', loses, ousts'⟩ := ousts.moves agrees among
  obtain ⟨isFront, isBack⟩ : front' = [] ∧ back' = rest :=
    cut_around (agrees.nodup holder) loses.split held
  subst isFront isBack
  have agrees' := agrees.loses loses
  have closes := loses.closes noDocument
  have top : middle.parent? node = none := by rw [loses.parent, if_pos rfl]
  have sameHome : middle.children home = before.children home := by
    rw [loses.children, if_neg (Ne.symm differ)]
  have split' : middle.children home = front ++ old :: back := sameHome.trans split
  have linkedHome' : middle.Linked home := linkedHome.elsewhere agrees sameHome fun id isHome => by
    refine loses.links_other agrees linked closes (lt_size_of_parent? isHome) ?_ ?_
    · rintro rfl
      rw [there] at isHome
      exact differ (Option.some.inj isHome)
    · rw [isHome]
      exact fun same => differ (Option.some.inj same).symm
  have swaps := ousts'.swaps agrees' top split'
  have notOld : node ≠ old := by
    rintro rfl
    rw [agrees'.parent home node (by simp [split'])] at top
    cases top
  have children : after.children holder = middle.children holder := by
    rw [swaps.children, if_neg differ]
  refine ⟨loses.alters (swaps.alters agrees' ousts'.fits top notOld) (by simp), ?_, ?_, ?_⟩
  · rw [children, loses.children, if_pos rfl, List.nil_append]
  · refine (linked.loses agrees loses closes).elsewhere agrees' children fun id isHolder => ?_
    refine swaps.links_other agrees' linkedHome' top (lt_size_of_parent? isHolder) ?_ ?_
    · rintro rfl
      rw [top] at isHolder
      cases isHolder
    · rw [isHolder]
      exact fun same => differ (Option.some.inj same)
  · obtain ⟨next, -⟩ := linkedHome' front old back split'
    rw [swaps.next (swaps.apart agrees' linkedHome' top) node ousts'.fits.lt_size,
      if_neg notOld, if_pos rfl, next]

/-- A home takes nodes if it is no document and may hold them. -/
def Takes (forest : Forest) (home : NodeId) (nodes : List NodeId) : Prop :=
  forest.isA Content.isDocument home = false ∧ ∀ node ∈ nodes, forest.Fits home node

theorem Takes.head {nodes : List NodeId} (takes : before.Takes home (node :: nodes)) :
    before.Takes home [node] :=
  ⟨takes.1, fun other among => takes.2 other (by simp_all)⟩

/-- What a home takes depends on the contents only. -/
theorem Takes.tail {nodes : List NodeId} (takes : before.Takes home (node :: nodes))
    (same : ∀ id, after.content? id = before.content? id) : after.Takes home nodes :=
  ⟨by rw [isA, same]; exact takes.1, fun other among =>
    Agrees.fits_of_content same (takes.2 other (List.mem_cons_of_mem _ among))⟩

end Forest

open Forest

namespace Edit

variable {forest : Forest} {home holder node old : NodeId} {front back : List NodeId}

/-! ## One node -/

section One

theorem joins_appendOne (agrees : forest.Agrees) :
    Ensures (appendOne home node) forest (fun _ after => Joins home node none forest after)
      fun _ _ => ¬ forest.Takes home [node] := by
  refine (ensures_appendOne agrees).mono (fun _ _ joins => joins) fun _ _ failed takes => ?_
  have isDocument := (failed.2 (takes.2 node (by simp))).1
  rw [takes.1] at isDocument
  cases isDocument

theorem joins_insertOne {mark : Option NodeId} (agrees : forest.Agrees)
    (isChild : ∀ other, mark = some other → other ∈ forest.children home ∧ other ≠ node) :
    Ensures (insertOne home node mark) forest (fun _ after => Joins home node mark forest after)
      fun _ _ => ¬ forest.Takes home [node] := by
  refine (ensures_insertOne agrees mark).mono (fun _ _ joins => joins) fun _ _ failed takes => ?_
  rcases failed.2 (takes.2 node (by simp)) with ⟨isDocument, -⟩ | ⟨other, isMark, notAmong⟩
  · rw [takes.1] at isDocument
    cases isDocument
  · obtain ⟨among, differ⟩ := isChild other isMark
    exact differ (notAmong among)

theorem ousts_replaceOne (agrees : forest.Agrees) (among : old ∈ forest.children home)
    (differ : node ≠ old) :
    Ensures (replaceOne home node old) forest (fun _ after => Ousts home node old forest after)
      fun _ _ => ¬ forest.Takes home [node] := by
  refine (ensures_replaceOne agrees).mono (fun _ _ ends => ?_) fun _ _ failed takes =>
    failed.2 (takes.2 node (by simp)) among
  rcases ends with ⟨same, -⟩ | ⟨-, ousts⟩
  · exact absurd same differ
  · exact ousts

theorem ensures_bind_look {α : Type} {id : NodeId} {found : Node} {next : Node → Edit α}
    {done : α → Forest → Prop} {failed : EditError → Forest → Prop}
    (there : forest.node? id = some found) :
    Ensures (look id >>= next) forest done failed ↔ Ensures (next found) forest done failed := by
  rw [ensures_bind, ensures_look, there]
  simp

theorem node?_of_lt {id : NodeId} (inside : id < forest.size) :
    ∃ found, forest.node? id = some found :=
  Option.isSome_iff_exists.mp (node?_isSome_iff.mpr inside)

/-- What is looked at exists, or else it fits nowhere. -/
theorem ensures_bind_look_of_fits {id : NodeId} {next : Node → Edit Unit}
    {done : Unit → Forest → Prop} (known : forest.Fits home node → id < forest.size)
    (onNext : ∀ found, forest.node? id = some found →
      Ensures (next found) forest done fun _ _ => ¬ forest.Takes home [node]) :
    Ensures (look id >>= next) forest done fun _ _ => ¬ forest.Takes home [node] := by
  rw [ensures_bind, ensures_look]
  refine ⟨onNext, fun missing takes => ?_⟩
  have there := node?_isSome_iff.mpr (known (takes.2 node (by simp)))
  rw [missing] at there
  cases there

theorem joins_appendChild (agrees : forest.Agrees)
    (noFragment : forest.isA Content.isFragment node = false) :
    Ensures (appendChild home node) forest (fun _ after => Joins home node none forest after)
      fun _ _ => ¬ forest.Takes home [node] := by
  rw [appendChild]
  refine ensures_bind_look_of_fits Fits.homeInside fun above there => ?_
  split
  · rename_i noParent
    unfold refuseChildren
    have refused : ¬ forest.Takes home [node] := fun takes => by
      rw [(takes.2 node (by simp)).isParent_of_node? there] at noParent
      simp at noParent
    split
    · exact refused
    · exact refused
  · refine ensures_bind_look_of_fits Fits.lt_size fun below there' => ?_
    rw [(isA_of_node? there').symm.trans noFragment, Bool.false_and, if_neg Bool.false_ne_true]
    exact joins_appendOne agrees

theorem joins_attachOneUnder (agrees : forest.Agrees)
    (noDocument : forest.isA Content.isDocument home = false)
    (noFragment : forest.isA Content.isFragment node = false) :
    Ensures (attachOneUnder home node) forest (fun _ after => Joins home node none forest after)
      fun _ _ => ¬ forest.Takes home [node] := by
  rw [attachOneUnder]
  refine ensures_bind_look_of_fits Fits.homeInside fun above there => ?_
  refine ensures_bind_look_of_fits Fits.lt_size fun below there' => ?_
  rw [(isA_of_node? there).symm.trans noDocument, Bool.false_and, if_neg Bool.false_ne_true]
  exact joins_appendChild agrees noFragment

/-- A node that is no fragment is attached itself. -/
theorem joins_attachUnder (agrees : forest.Agrees)
    (noDocument : forest.isA Content.isDocument home = false)
    (noFragment : forest.isA Content.isFragment node = false) :
    Ensures (attachUnder home node) forest (fun _ after => Joins home node none forest after)
      fun _ _ => ¬ forest.Takes home [node] := by
  rw [attachUnder, ensures_bind, ensures_discard, ensures_look]
  refine ⟨fun _ _ => ?_, fun missing takes => ?_⟩
  · refine ensures_bind_look_of_fits Fits.lt_size fun below there => ?_
    rw [(isA_of_node? there).symm.trans noFragment, if_neg Bool.false_ne_true]
    exact joins_attachOneUnder agrees noDocument noFragment
  · have there := node?_isSome_iff.mpr (takes.2 node (by simp)).homeInside
    rw [missing] at there
    cases there

theorem joins_insertBefore {mark : Option NodeId} (agrees : forest.Agrees)
    (noFragment : forest.isA Content.isFragment node = false)
    (isChild : ∀ other, mark = some other → other ∈ forest.children home ∧ other ≠ node) :
    Ensures (insertBefore home node mark) forest (fun _ after => Joins home node mark forest after)
      fun _ _ => ¬ forest.Takes home [node] := by
  rw [insertBefore]
  refine ensures_bind_look_of_fits Fits.lt_size fun below there => ?_
  rw [(isA_of_node? there).symm.trans noFragment, if_neg Bool.false_ne_true]
  exact joins_insertOne agrees isChild

theorem ousts_replaceChild (agrees : forest.Agrees)
    (noFragment : forest.isA Content.isFragment node = false)
    (among : old ∈ forest.children home) (differ : node ≠ old) :
    Ensures (replaceChild home node old) forest (fun _ after => Ousts home node old forest after)
      fun _ _ => ¬ forest.Takes home [node] := by
  rw [replaceChild]
  refine ensures_bind_look_of_fits Fits.lt_size fun below there => ?_
  rw [(isA_of_node? there).symm.trans noFragment, if_neg Bool.false_ne_true]
  exact ousts_replaceOne agrees among differ

theorem ensures_parentOf_child {α : Type} {id : NodeId} {next : NodeId → Edit α}
    {done : α → Forest → Prop} {failed : EditError → Forest → Prop}
    (there : forest.parent? id = some home) :
    Ensures (parentOf id >>= next) forest done failed ↔
      Ensures (next home) forest done failed := by
  rw [ensures_bind, ensures_parentOf, there]
  simp

/-- One node without a parent is spliced in. -/
theorem alters_place_one {target : Target} (agrees : forest.Agrees)
    (noFragment : forest.isA Content.isFragment node = false)
    (top : forest.parent? node = none) (beside : target.isUnder = false)
    (there : forest.parent? target.reference = some home) (linked : forest.Linked home) :
    Ensures (place target node) forest
      (fun _ after => Alters home (target.splice [node] (forest.children home)) (target.gone [node])
        none forest after)
      fun _ _ => ¬ forest.Takes home [node] := by
  have distinct := agrees.nodup home
  have among := agrees.child _ home there
  have fresh {id : NodeId} (inside : id ∈ forest.children home) : id ≠ node := by
    rintro rfl
    rw [agrees.parent home id inside] at top
    cases top
  obtain ⟨front, back, split⟩ := List.append_of_mem among
  rw [split] at distinct
  rw [split]
  obtain ⟨mode, reference⟩ := target
  cases mode with
  | under => cases beside
  | before =>
      show Ensures (insertBeforeSibling node reference) forest _ _
      rw [insertBeforeSibling, ensures_parentOf_child there]
      refine (joins_insertBefore agrees noFragment fun other same => ?_).mono
        (fun _ after joins => ?_) fun _ _ refused => refused
      · cases same
        exact ⟨among, fresh among⟩
      · rw [Target.splice_before distinct rfl, List.append_assoc]
        exact (joins.gains agrees top split rfl).alters agrees joins.fits top
  | after =>
      obtain ⟨found, isFound⟩ := node?_of_lt (agrees.lt_size_of_mem among)
      obtain ⟨next, -⟩ := linked front reference back split
      have split' : forest.children home = (front ++ [reference]) ++ back := by simpa using split
      show Ensures (insertAfterSibling node reference) forest _ _
      rw [insertAfterSibling, ensures_parentOf_child there, ensures_bind_look isFound,
        ← next?_of_node? isFound, next]
      refine (joins_insertBefore agrees noFragment fun other same => ?_).mono
        (fun _ after joins => ?_) fun _ _ refused => refused
      · have inside : other ∈ forest.children home := by simp [split', List.mem_of_head? same]
        exact ⟨inside, fresh inside⟩
      · rw [Target.splice_after distinct rfl, List.append_assoc]
        exact (joins.gains agrees top split' rfl).alters agrees joins.fits top
  | replacing =>
      show Ensures (replaceSibling reference node) forest _ _
      rw [replaceSibling]
      refine ensures_bind_look_of_fits Fits.lt_size fun found isFound => ?_
      rw [(isA_of_node? isFound).symm.trans noFragment, if_neg Bool.false_ne_true, ensures_parentOf_child there]
      refine (ousts_replaceChild agrees noFragment among (fresh among).symm).mono
        (fun _ after ousts => ?_) fun _ _ refused => refused
      rw [Target.splice_replacing distinct rfl (by simp), List.append_assoc]
      exact (ousts.swaps agrees top split).alters agrees ousts.fits top (fresh among).symm

end One

/-! ## The children of a fragment -/

/-- To put an empty fragment in the place of a node is to remove that. -/
theorem ensures_place_nothing {target : Target} {done : Unit → Forest → Prop}
    {failed : EditError → Forest → Prop} (isFragment : forest.isA Content.isFragment holder)
    (held : forest.children holder = []) (isReplacing : target.mode = .replacing) :
    Ensures (place target holder) forest done failed ↔
      Ensures (remove target.reference) forest done failed := by
  obtain ⟨below, isBelow⟩ := node?_of_lt (lt_size_of_isA isFragment)
  have isFragment' : below.content.isFragment := (isA_of_node? isBelow).symm.trans isFragment
  have members := (children_of_node? isBelow).symm.trans held
  rw [place, isReplacing]
  show Ensures (replaceSibling target.reference holder) forest _ _ ↔ _
  rw [replaceSibling, ensures_bind_look isBelow, if_pos isFragment', members]

section Many

variable (differ : holder ≠ home)

include differ

/-- The children of a holder come one by one in front of the same child of a home. -/
theorem alters_insertMembers : ∀ (members front : List NodeId) {forest : Forest}, forest.Agrees →
    forest.children holder = members → forest.children home = front ++ back →
    Ensures (members.forM fun member => insertOne home member back.head?) forest
      (fun _ after => Alters home (front ++ members ++ back) none (some holder) forest after)
      fun _ _ => ¬ forest.Takes home members
  | [], front, _, agrees, _, split => .refl agrees (by simpa using split)
  | member :: rest, front, forest, agrees, held, split => by
      show Ensures (insertOne home member back.head? >>= fun _ =>
        rest.forM fun member => insertOne home member back.head?) forest _ _
      rw [ensures_bind]
      refine (joins_insertOne agrees fun other first => ?_).mono
        (fun _ middle joins => ?_) fun _ _ refused takes => refused takes.head
      · -- What they come in front of is no child of the holder.
        have inside : other ∈ forest.children home := by simp [split, List.mem_of_head? first]
        refine ⟨inside, ?_⟩
        rintro rfl
        have there := agrees.parent home other inside
        rw [agrees.parent holder other (by simp [held])] at there
        exact differ (Option.some.inj there)
      · obtain ⟨alters, held'⟩ := joins.alters agrees held differ split
        refine (alters_insertMembers rest (front ++ [member]) alters.agrees held'
          (by simp [alters.row])).mono (fun _ after later => ?_)
          fun _ _ refused takes => refused (takes.tail joins.content)
        rw [show front ++ member :: rest ++ back = front ++ [member] ++ rest ++ back by simp]
        exact alters.trans later (by grind)

/-- The children of a holder come one behind the other, the first of them behind a
child of a home. -/
theorem alters_insertChain : ∀ (members front : List NodeId) (previous : NodeId) {forest : Forest},
    forest.Agrees → forest.isA Content.isDocument holder = false →
    forest.children holder = members → forest.Linked holder →
    forest.children home = front ++ previous :: back → forest.next? previous = back.head? →
    Ensures (insertChain previous members) forest
      (fun _ after =>
        Alters home (front ++ previous :: members ++ back) none (some holder) forest after)
      fun _ _ => ¬ forest.Takes home members
  | [], front, previous, _, agrees, _, _, _, split, _ => .refl agrees (by simpa using split)
  | member :: rest, front, previous, forest, agrees, noDocument, held, linked, split, next => by
      have own := agrees.fits member holder (agrees.parent holder member (by simp [held]))
      have among : previous ∈ forest.children home := by simp [split]
      obtain ⟨found, isFound⟩ := node?_of_lt (agrees.lt_size_of_mem among)
      have split' : forest.children home = (front ++ [previous]) ++ back := by simpa using split
      rw [insertChain, insertAfterSibling, MarkupSpec.ensures_bind,
        ensures_parentOf_child (agrees.parent home previous among), ensures_bind_look isFound,
        ← next?_of_node? isFound, next]
      refine (joins_insertBefore agrees own.isFragment fun other first => ?_).mono
        (fun _ middle joins => ?_) fun _ _ refused takes => refused takes.head
      · have inside : other ∈ forest.children home := by simp [split', List.mem_of_head? first]
        refine ⟨inside, ?_⟩
        rintro rfl
        have there := agrees.parent home other inside
        rw [agrees.parent holder other (by simp [held])] at there
        exact differ (Option.some.inj there)
      · obtain ⟨alters, held'⟩ := joins.alters agrees held differ split'
        obtain ⟨linked', next'⟩ := joins.linked agrees held differ split' noDocument linked
        refine (alters_insertChain rest (front ++ [previous]) member alters.agrees ?_ held' linked'
          alters.row next').mono (fun _ after later => ?_)
          fun _ _ refused takes => refused (takes.tail joins.content)
        · rw [isA, joins.content]
          exact noDocument
        · rw [show front ++ previous :: member :: rest ++ back =
            front ++ [previous] ++ member :: rest ++ back by simp]
          exact alters.trans later (by grind)

/-- The children of a fragment are spliced in.  To take the place of a node it must have some. -/
theorem alters_place_fragment {target : Target} (agrees : forest.Agrees)
    (isFragment : forest.isA Content.isFragment holder)
    (linked : forest.Linked holder) (beside : target.isUnder = false)
    (there : forest.parent? target.reference = some home) (linkedHome : forest.Linked home)
    (nonempty : target.mode = .replacing → forest.children holder ≠ []) :
    Ensures (place target holder) forest
      (fun _ after =>
        Alters home (target.splice (forest.children holder) (forest.children home))
          (target.gone (forest.children holder)) (some holder) forest after)
      fun _ _ => ¬ forest.Takes home (forest.children holder) := by
  have distinct := agrees.nodup home
  have among := agrees.child _ home there
  obtain ⟨front, back, split⟩ := List.append_of_mem among
  obtain ⟨next, -⟩ := linkedHome front target.reference back split
  obtain ⟨found, isFound⟩ := node?_of_lt (agrees.lt_size_of_mem among)
  obtain ⟨below, isBelow⟩ := node?_of_lt (lt_size_of_isA isFragment)
  have isFragment' : below.content.isFragment := (isA_of_node? isBelow).symm.trans isFragment
  have members := children_of_node? isBelow
  rw [split] at distinct
  obtain ⟨mode, reference⟩ := target
  cases mode with
  | under => cases beside
  | before =>
      show Ensures (insertBeforeSibling holder reference) forest _ _
      rw [insertBeforeSibling, ensures_parentOf_child there, insertBefore,
        ensures_bind_look isBelow, if_pos isFragment', ← members, split,
        Target.splice_before distinct rfl]
      exact alters_insertMembers differ _ front agrees rfl split
  | after =>
      have split' : forest.children home = (front ++ [reference]) ++ back := by simpa using split
      show Ensures (insertAfterSibling holder reference) forest _ _
      rw [insertAfterSibling, ensures_parentOf_child there, ensures_bind_look isFound,
        ← next?_of_node? isFound, next, insertBefore, ensures_bind_look isBelow,
        if_pos isFragment', ← members, split, Target.splice_after distinct rfl]
      exact alters_insertMembers differ _ _ agrees rfl split'
  | replacing =>
      obtain ⟨first, rest, held⟩ := List.exists_cons_of_ne_nil (nonempty rfl)
      have own := agrees.fits first holder (agrees.parent holder first (by simp [held]))
      have noDocument := isDocument_of_isFragment isFragment
      have notOld : first ≠ reference := by
        rintro rfl
        rw [agrees.parent holder first (by simp [held])] at there
        exact differ (Option.some.inj there)
      show Ensures (replaceSibling reference holder) forest _ _
      rw [replaceSibling, ensures_bind_look isBelow, if_pos isFragment', ← members, held]
      dsimp only
      rw [ensures_parentOf_child there, MarkupSpec.ensures_bind]
      refine (ousts_replaceChild agrees own.isFragment among notOld).mono
        (fun _ middle ousts => ?_) fun _ _ refused takes => refused takes.head
      obtain ⟨alters, held', linked', next'⟩ :=
        ousts.alters agrees held differ split noDocument linked linkedHome
      refine (alters_insertChain differ rest front first alters.agrees ?_ held' linked' alters.row
        next').mono (fun _ after later => ?_)
        fun _ _ refused takes => refused (takes.tail ousts.content)
      · rw [isA, ousts.content]
        exact noDocument
      · rw [split, Target.splice_replacing distinct rfl (List.cons_ne_nil _ _), Target.gone,
          if_pos ⟨rfl, List.cons_ne_nil _ _⟩]
        exact alters.trans later (by grind)

/-- A fragment never fails to give its children a place beside a node. -/
theorem placed_fragment {target : Target} (agrees : forest.Agrees)
    (isFragment : forest.isA Content.isFragment holder)
    (takes : forest.Takes home (forest.children holder))
    (linked : forest.Linked holder) (beside : target.isUnder = false)
    (there : forest.parent? target.reference = some home) (linkedHome : forest.Linked home) :
    Ensures (place target holder) forest (fun _ _ => True) fun _ _ => False := by
  by_cases removes : target.mode = .replacing ∧ forest.children holder = []
  · rw [ensures_place_nothing isFragment removes.2 removes.1]
    rw [remove, ensures_parentOf_child there, MarkupSpec.ensures_bind]
    exact (ensures_removeClosing agrees).mono (fun _ _ _ => trivial)
      fun _ _ failed => failed.2 (agrees.child _ home there)
  · exact (alters_place_fragment differ agrees isFragment linked beside there linkedHome
      (not_and.mp removes)).mono (fun _ _ _ => trivial) fun _ _ refused => refused takes

end Many

end Edit

end MarkupSpec
