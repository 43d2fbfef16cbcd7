import MarkupSpec.Proofs.Forest.Relocation
import MarkupSpec.Proofs.Session.WellLinked

/-!
# Nodes without a place

A node without a parent, or the children of a fragment, are put into the row of a home just where
the target says, and nothing else changes (`attach_grafts`).  The row is the old one with the new
nodes in it (`Target.fill`).  A node that is replaced loses its parent and its siblings, also if it
is an empty fragment that comes in its place.

A node that has no parent is a node that moves and leaves no row.  The children of a fragment come
one by one.  That each of them comes from the row of the fragment is used for the order of the
forest (`comeAll_place`), while the row of the home is known from the way it is altered.
-/

namespace MarkupSpec

open Forest Edit Build

/-! ## Rows -/

/-- The row of a home after nodes are put where the target says.  To put nothing in the place of a
node is to remove that. -/
def Target.fill (target : Target) (new row : List NodeId) : List NodeId :=
  if target.mode = .replacing ∧ new = [] then row.erase target.reference else target.splice new row

section Fill

variable {target : Target} {new row front back : List NodeId} {id : NodeId}

/-- Nodes that are put in the place of another one stand where that one stood, if there are any. -/
theorem Target.fill_replacing (distinct : (front ++ target.reference :: back).Nodup)
    (isReplacing : target.mode = .replacing) :
    target.fill new (front ++ target.reference :: back) = front ++ new ++ back := by
  unfold fill
  split
  · rename_i removes
    rw [removes.2, List.append_nil, erase_around distinct]
  · rename_i keeps
    exact splice_replacing distinct isReplacing (not_and.mp keeps isReplacing)

theorem Target.fill_of_ne (filled : target.mode = .replacing → new ≠ []) :
    target.fill new row = target.splice new row :=
  if_neg (not_and.mpr filled)

/-- What is in the row after that is new, or was there and is not replaced. -/
theorem Target.mem_of_mem_fill (distinct : row.Nodup) (among : id ∈ target.fill new row) :
    id ∈ new ∨ id ∈ row ∧ ¬ (target.mode = .replacing ∧ id = target.reference) := by
  unfold fill at among
  split at among
  · obtain ⟨differ, inRow⟩ := distinct.mem_erase_iff.mp among
    exact .inr ⟨inRow, fun isGone => differ isGone.2⟩
  · rename_i keeps
    refine (target.mem_of_mem_splice among).imp_right fun ⟨inRow, notGone⟩ => ⟨inRow, ?_⟩
    rintro ⟨isReplacing, rfl⟩
    exact notGone (if_pos ⟨isReplacing, not_and.mp keeps isReplacing⟩)

/-- All that is new is in the row after that. -/
theorem Target.subset_fill (distinct : row.Nodup)
    (inRow : target.isUnder = false → target.reference ∈ row) : new ⊆ target.fill new row := by
  unfold fill
  split
  · rename_i removes
    rw [removes.2]
    exact List.nil_subset _
  · cases isUnder : target.isUnder with
    | false => exact (target.sublist_splice isUnder distinct (inRow isUnder)).subset
    | true =>
        have isMode : target.mode = .under := by simpa [Target.isUnder] using isUnder
        simp [splice, isMode]

end Fill

namespace Forest

variable {before after forest : Forest} {target : Target} {home node : NodeId}

/-- The node, or what it holds, is put into the row of the home where the target says, and
nothing else changes. -/
structure Grafts (target : Target) (home node : NodeId) (before after : Forest) : Prop where
  ordered : after.Ordered
  size : after.size = before.size
  content : ∀ id, after.content? id = before.content? id
  row : after.children home = target.fill (before.bundle node) (before.children home)
  emptied : before.isA Content.isFragment node → after.children node = []
  children : ∀ id, id ≠ home → (before.isA Content.isFragment node → id ≠ node) →
    after.children id = before.children id
  parent : ∀ id, after.parent? id =
    if id ∈ before.bundle node then some home
    else if target.mode = .replacing ∧ id = target.reference then none else before.parent? id

/-- A node that had no place and moves is put into the row. -/
theorem Relocates.grafts (relocates : Relocates target home node before after)
    (agrees : before.Agrees) (top : before.parent? node = none)
    (noFragment : before.isA Content.isFragment node = false) :
    Grafts target home node before after := by
  have elsewhere (id : NodeId) := List.erase_of_not_mem (agrees.not_mem_children top id)
  obtain ⟨bundle, -⟩ := IsLoose.emptied?_eq noFragment
  refine
    { ordered := relocates.ordered, size := relocates.size, content := relocates.content
      row := ?_, emptied := fun isFragment => ?_
      children := fun id notHome _ => ?_, parent := fun id => ?_ }
  · rw [bundle, Target.fill_of_ne fun _ => List.cons_ne_nil _ _, relocates.row, elsewhere]
  · rw [noFragment] at isFragment
    cases isFragment
  · rw [relocates.children id notHome, elsewhere]
  · rw [bundle, relocates.parent]
    simp [Target.gone, eq_comm]

/-- A home that is altered as a target says has what the fragment held. -/
theorem Alters.grafts {gone : Option NodeId}
    (alters : Alters home (target.fill (before.children node) (before.children home)) gone
      (some node) before after)
    (isGone : ∀ id, gone = some id ↔ target.mode = .replacing ∧ id = target.reference)
    (isFragment : before.isA Content.isFragment node) (agrees : before.Agrees)
    (ordered : after.Ordered) (size : after.size = before.size)
    (content : ∀ id, after.content? id = before.content? id) (differ : node ≠ home)
    (inserted : before.children node ⊆ target.fill (before.children node) (before.children home)) :
    Grafts target home node before after := by
  obtain ⟨bundle, -⟩ := bundle_of_isFragment isFragment
  refine
    { ordered, size, content, row := bundle ▸ alters.row
      emptied := fun _ => alters.children_emptied agrees size differ inserted
      children := fun id notHome notNode => ?_, parent := fun id => ?_ }
  · rcases Nat.lt_or_ge id before.size with inside | beyond
    · exact alters.children id inside notHome fun same =>
        notNode isFragment (Option.some.inj same).symm
    · rw [children_eq_nil beyond, children_eq_nil (size ▸ beyond)]
  · rw [bundle]
    by_cases inRow : id ∈ target.fill (before.children node) (before.children home)
    · rw [alters.agrees.parent home id (alters.row ▸ inRow)]
      split
      · rfl
      · rename_i notNew
        obtain ⟨was, stays⟩ :=
          (Target.mem_of_mem_fill (agrees.nodup home) inRow).resolve_left notNew
        rw [if_neg stays, agrees.parent home id was]
    · rw [if_neg fun isNew => inRow (inserted isNew), ← if_congr (isGone id) rfl rfl]
      rcases Nat.lt_or_ge id before.size with inside | beyond
      · exact alters.parent id inside inRow
      · rw [parent?_eq_none beyond, parent?_eq_none (size ▸ beyond), ite_self]

/-- A fragment has no parent, so what it holds may come into a host. -/
theorem Agrees.loose_of_isFragment (agrees : forest.Agrees)
    (isFragment : forest.isA Content.isFragment node) : forest.IsLoose node where
  top := by
    refine Option.eq_none_iff_forall_ne_some.mpr fun home there => ?_
    rw [(agrees.fits node home there).isFragment] at isFragment
    cases isFragment
  kind := .inr isFragment

end Forest

/-! ## The children of a fragment come one by one -/

namespace Edit

variable {forest : Forest} {target : Target} {home node : NodeId}

theorem comes_insertOne (mark : Option NodeId) (agrees : forest.Agrees) :
    Ensures (insertOne home node mark) forest (fun _ => Comes home node forest) fun _ _ => True :=
  (ensures_insertOne agrees mark).mono (fun _ _ joins => .inl ⟨mark, joins⟩) fun _ _ _ => trivial

theorem comes_attachMember (agrees : forest.Agrees) (takes : forest.Takes home [node]) :
    Ensures (attachOneUnder home node) forest (fun _ => Comes home node forest)
      fun _ _ => True := by
  have fits := takes.2 node (List.mem_singleton_self node)
  exact (joins_attachOneUnder agrees takes.1 fits.isFragment).mono
    (fun _ _ joins => .inl ⟨none, joins⟩) fun _ _ _ => trivial

theorem comeAll_forM {step : NodeId → Edit Unit}
    (each : ∀ node forest, forest.Agrees → forest.Takes home [node] →
      Ensures (step node) forest (fun _ => Comes home node forest) fun _ _ => True) :
    ∀ (nodes : List NodeId) {forest : Forest}, forest.Agrees → forest.Takes home nodes →
      Ensures (nodes.forM step) forest (fun _ => ComeAll home nodes forest) fun _ _ => True
  | [], _, _, _ => .nil
  | node :: rest, forest, agrees, takes => by
      show Ensures (step node >>= fun _ => rest.forM step) forest _ _
      rw [ensures_bind]
      refine (each node forest agrees takes.head).mono (fun _ middle comes => ?_)
        fun _ _ _ => trivial
      exact (comeAll_forM each rest (comes.agrees agrees) (takes.tail comes.content)).mono
        (fun _ _ all => .cons comes all) fun _ _ _ => trivial

/-- Each node of a chain comes behind the one before, which is in the home by then. -/
theorem comeAll_insertChain : ∀ (nodes : List NodeId) (previous : NodeId) {forest : Forest},
    forest.Agrees → forest.Takes home nodes → forest.parent? previous = some home →
    Ensures (insertChain previous nodes) forest (fun _ => ComeAll home nodes forest) fun _ _ => True
  | [], _, _, _, _, _ => .nil
  | node :: rest, previous, forest, agrees, takes, there => by
      have fits := takes.2 node List.mem_cons_self
      obtain ⟨found, isFound⟩ := node?_of_lt (lt_size_of_parent? there)
      obtain ⟨below, isBelow⟩ := node?_of_lt fits.lt_size
      rw [insertChain, insertAfterSibling, MarkupSpec.ensures_bind, ensures_parentOf_child there,
        ensures_bind_look isFound, insertBefore, ensures_bind_look isBelow,
        fits.isFragment_of_node? isBelow, if_neg Bool.false_ne_true]
      refine (ensures_insertOne agrees found.next).mono (fun _ middle joins => ?_)
        fun _ _ _ => trivial
      have isHome : middle.parent? node = some home := by rw [joins.parent, if_pos rfl]
      exact (comeAll_insertChain rest node (agrees.joins joins) (takes.tail joins.content)
        isHome).mono (fun _ _ all => .cons (.inl ⟨_, joins⟩) all) fun _ _ _ => trivial

theorem comeAll_place (agrees : forest.Agrees) (isHome : target.home? forest = some home)
    (isFragment : forest.isA Content.isFragment node)
    (takes : forest.Takes home (forest.children node)) (differ : node ≠ home)
    (filled : target.mode = .replacing → forest.children node ≠ []) :
    Ensures (place target node) forest (fun _ => ComeAll home (forest.children node) forest)
      fun _ _ => True := by
  obtain ⟨below, isBelow⟩ := node?_of_lt (lt_size_of_isA isFragment)
  have isFragment' : below.content.isFragment := (isA_of_node? isBelow).symm.trans isFragment
  have members := children_of_node? isBelow
  have inserts (mark : Option NodeId) : Ensures (insertBefore home node mark) forest
      (fun _ => ComeAll home (forest.children node) forest) fun _ _ => True := by
    rw [insertBefore, ensures_bind_look isBelow, if_pos isFragment', ← members]
    exact comeAll_forM (fun _ _ agrees _ => comes_insertOne mark agrees) _ agrees takes
  obtain ⟨mode, reference⟩ := target
  cases mode with
  | under =>
      cases isHome
      show Ensures (attachUnder reference node) forest _ _
      rw [attachUnder, MarkupSpec.ensures_bind, ensures_discard, ensures_look]
      refine ⟨fun _ _ => ?_, fun _ => trivial⟩
      rw [ensures_bind_look isBelow, if_pos isFragment', ← members]
      exact comeAll_forM (fun _ _ => comes_attachMember) _ agrees takes
  | before =>
      show Ensures (insertBeforeSibling node reference) forest _ _
      rw [insertBeforeSibling, ensures_parentOf_child isHome]
      exact inserts _
  | after =>
      obtain ⟨found, isFound⟩ := node?_of_lt (lt_size_of_parent? isHome)
      show Ensures (insertAfterSibling node reference) forest _ _
      rw [insertAfterSibling, ensures_parentOf_child isHome, ensures_bind_look isFound]
      exact inserts _
  | replacing =>
      obtain ⟨first, rest, held⟩ := List.exists_cons_of_ne_nil (filled rfl)
      have own := agrees.parent node first (by simp [held])
      have notOld : first ≠ reference := by
        rintro rfl
        exact differ (Option.some.inj (own.symm.trans isHome))
      rw [held] at takes
      show Ensures (replaceSibling reference node) forest _ _
      rw [replaceSibling, ensures_bind_look isBelow, if_pos isFragment', ← members, held]
      dsimp only
      rw [ensures_parentOf_child isHome, MarkupSpec.ensures_bind]
      refine (ousts_replaceChild agrees (agrees.fits first node own).isFragment
        (agrees.child reference home isHome) notOld).mono (fun _ middle ousts => ?_)
        fun _ _ _ => trivial
      have agrees' := agrees.ousts notOld ousts
      have comes : Comes home first forest middle := .inr ⟨reference, notOld, ousts⟩
      have isHome' : middle.parent? first = some home := by
        obtain ⟨_, _, _, -, -, swaps⟩ := ousts
        rw [swaps.parent, if_neg notOld, if_pos rfl]
      exact (comeAll_insertChain rest first agrees' (takes.tail comes.content) isHome').mono
        (fun _ _ all => .cons comes all) fun _ _ _ => trivial

/-! ## Placing -/

section Place

variable (ordered : forest.Ordered) (isHome : target.home? forest = some home)
  (isHost : forest.IsHost home) (isFragment : forest.isA Content.isFragment node)
  (differ : node ≠ home)

include ordered isHome isHost isFragment differ

/-- The children of a fragment are put where the target says. -/
theorem alters_place_children (filled : target.mode = .replacing → forest.children node ≠ []) :
    Ensures (place target node) forest
      (fun _ after => ∃ gone,
        (∀ id, gone = some id ↔ target.mode = .replacing ∧ id = target.reference) ∧
        Alters home (target.fill (forest.children node) (forest.children home)) gone (some node)
          forest after) fun _ _ => False := by
  have agrees := ordered.agrees
  have loose := agrees.loose_of_isFragment isFragment
  have takes := isHost.takes agrees loose
  obtain ⟨bundle, emptied⟩ := bundle_of_isFragment isFragment
  rw [Target.fill_of_ne filled]
  cases isUnder : target.isUnder with
  | true =>
      obtain rfl : target.reference = home := by simpa [Target.home?, isUnder] using isHome
      have isMode : target.mode = .under := by simpa [Target.isUnder] using isUnder
      rw [place, isMode]
      refine (alters_attachUnder agrees isHost loose differ).mono (fun _ after alters => ?_)
        fun _ _ failed => failed
      rw [bundle, emptied] at alters
      exact ⟨none, by simp, by simpa [Target.splice, isMode] using alters⟩
  | false =>
      have there : forest.parent? target.reference = some home := by
        simpa [Target.home?, isUnder] using isHome
      refine (alters_place_fragment differ agrees isFragment (ordered.linked node) isUnder there
        (ordered.linked home) filled).mono (fun _ after alters => ⟨_, fun id => ?_, alters⟩)
        fun _ _ refused => refused (bundle ▸ takes)
      unfold Target.gone
      split
      · rename_i removes
        simp [removes.1, eq_comm]
      · rename_i keeps
        simp only [reduceCtorEq, false_iff, not_and]
        exact fun isReplacing => absurd ⟨isReplacing, filled isReplacing⟩ keeps

theorem grafts_place_fragment :
    Ensures (place target node) forest (fun _ => Grafts target home node forest)
      fun _ _ => False := by
  have agrees := ordered.agrees
  have distinct := agrees.nodup home
  have loose := agrees.loose_of_isFragment isFragment
  obtain ⟨bundle, -⟩ := bundle_of_isFragment isFragment
  have takes : forest.Takes home (forest.children node) := bundle ▸ isHost.takes agrees loose
  have inserted : forest.children node ⊆
      target.fill (forest.children node) (forest.children home) := by
    refine Target.subset_fill distinct fun beside => agrees.child _ home ?_
    simpa [Target.home?, beside] using isHome
  by_cases removes : target.mode = .replacing ∧ forest.children node = []
  · -- Nothing is put anywhere, but the reference goes.
    obtain ⟨isMode, held⟩ := removes
    have there : forest.parent? target.reference = some home := by
      simpa [Target.home?, Target.isUnder, isMode] using isHome
    rw [ensures_place_nothing isFragment held isMode]
    refine (loses_remove agrees isHost there).mono (fun _ after ends => ?_) fun _ _ failed => failed
    obtain ⟨front, back, loses⟩ := ends
    have alters := loses.alters_home agrees
    have isRow : target.fill (forest.children node) (forest.children home) = front ++ back := by
      rw [loses.split] at distinct
      rw [held, loses.split, Target.fill_replacing distinct isMode, List.append_nil]
    rw [← isRow] at alters
    exact Alters.grafts { alters with
      children := fun id inside notHome _ =>
        alters.children id inside notHome (Option.some_ne_none _).symm }
      (fun id => by simp [isMode, eq_comm]) isFragment agrees
      (ordered.loses loses (loses.closes isHost.isDocument)) loses.size loses.content differ
      inserted
  · have filled := not_and.mp removes
    refine ((alters_place_children ordered isHome isHost isFragment differ filled).and
      (comeAll_place agrees isHome isFragment takes differ filled)).mono (fun _ after ends => ?_)
      fun _ _ failed => failed.1
    obtain ⟨⟨gone, isGone, alters⟩, all⟩ := ends
    have ordered' := Ordered.comeAll all ordered (agrees.nodup node) fun member among =>
      movable_of_isFragment agrees isFragment among
    exact alters.grafts isGone isFragment agrees ordered' all.size all.content differ inserted

end Place

end Edit

/-! ## Attaching -/

/-- A child of another node is not among what is put into a row. -/
theorem Forest.IsLoose.not_mem_bundle {forest : Forest} {home node id : NodeId}
    (loose : forest.IsLoose node) (agrees : forest.Agrees) (there : forest.parent? id = some home)
    (differ : node ≠ home) : id ∉ forest.bundle node := by
  unfold bundle
  split
  · intro among
    rw [agrees.parent node id among] at there
    exact differ (Option.some.inj there)
  · intro among
    obtain rfl := List.mem_singleton.mp among
    rw [loose.top] at there
    cases there

section Attach

variable {target : Target} {world : World} {home node : NodeId}

theorem grafts_place {forest : Forest} (ordered : forest.Ordered)
    (isHome : target.home? forest = some home) (isHost : forest.IsHost home)
    (loose : forest.IsLoose node) (differ : node ≠ home) :
    Ensures (place target node) forest (fun _ => Grafts target home node forest)
      fun _ _ => False := by
  have agrees := ordered.agrees
  by_cases isFragment : forest.isA Content.isFragment node
  · exact grafts_place_fragment ordered isHome isHost isFragment differ
  · have noFragment : forest.isA Content.isFragment node = false := by simpa using isFragment
    have isInner := loose.kind.resolve_right isFragment
    have among (beside : target.isUnder = false) : target.reference ∈ forest.children home :=
      agrees.child _ home (by simpa [Target.home?, beside] using isHome)
    have nowhere := agrees.not_mem_children loose.top home
    have notReference : node ≠ target.reference := by
      rintro rfl
      cases isUnder : target.isUnder with
      | true => exact differ (by simpa [Target.home?, isUnder] using isHome)
      | false => exact nowhere (among isUnder)
    refine (relocates_place ordered isHome isHost isInner loose.movable notReference).mono
      (fun _ _ moved => moved.2.grafts agrees loose.top noFragment) fun _ _ refused => ?_
    -- What is behind the reference is in the row of the home.
    obtain ⟨⟨isAfter, isNext⟩, -⟩ := refused
    obtain ⟨front, back, split⟩ :=
      List.append_of_mem (among (by simp [Target.isUnder, isAfter]))
    obtain ⟨next, -⟩ := ordered.linked home front _ back split
    have inBack := List.mem_of_head? (next.symm.trans isNext)
    exact nowhere (by simp [split, inBack])

/-- A node without a parent, or what a fragment holds, is attached just where the target says: at
the end of the row, before the reference, behind it or in its place.  That never fails.  The
fragment is empty then, a node that is replaced has no parent and no siblings, and no other row and
no other parent changes. -/
theorem attach_grafts (ordered : world.forest.Ordered)
    (isHome : target.home? world.forest = some home) (isHost : world.forest.IsHost home)
    (loose : world.forest.isA Content.isInner node ∧ world.forest.parent? node = none ∨
      world.forest.isA Content.isFragment node)
    (outside : node ≠ home) :
    Ensures (attach target node) world
      (fun _ after => world.SameValues after ∧ Grafts target home node world.forest after.forest ∧
        (target.mode = .replacing → after.forest.parent? target.reference = none ∧
          after.forest.next? target.reference = none ∧
          after.forest.previous? target.reference = none))
      fun _ _ => False := by
  have agrees := ordered.agrees
  have loose : world.forest.IsLoose node := by
    rcases loose with ⟨isInner, top⟩ | isFragment
    · exact ⟨top, .inl isInner⟩
    · exact agrees.loose_of_isFragment isFragment
  refine ensures_attach_at isHome fun later same values => ?_
  rw [ensures_edit, same]
  refine (grafts_place ordered isHome isHost loose outside).mono (fun _ after grafts => ?_)
    fun _ _ failed => failed
  refine ⟨values.edited after, grafts, fun isReplacing => ?_⟩
  have there : world.forest.parent? target.reference = some home := by
    simpa [Target.home?, Target.isUnder, isReplacing] using isHome
  have top : after.parent? target.reference = none := by
    rw [grafts.parent, if_neg (loose.not_mem_bundle agrees there outside),
      if_pos ⟨isReplacing, rfl⟩]
  exact ⟨top, grafts.ordered.loose _ top⟩

end Attach

/-- An element around a text, and a fragment with an element and a text, from a build beside that
text that has failed. -/
def graftingRequests : List Request :=
  [.document .null,
    .markup {} (.map [(.null, .list [.text "r", .text "t"])]) (.node 0) {} (.list []),
    .markup {} (.list [.map [(.null, .text "b")], .text "v", .map [(.null, .text "x:y")]]) .null
      { before := .node 2 } (.list [])]

/-- The world after these requests. -/
@[irreducible]
def graftingWorld : World := worldAfter {} graftingRequests

theorem reached_graftingWorld : Reached graftingWorld := by
  unfold graftingWorld
  exact (Reached.start rfl).requests (by decide +kernel)

/-- The place of the text. -/
def graftingTarget : Target := { mode := .replacing, reference := 2 }

/-- The element and the other text come in the place of the text. -/
theorem attach_grafts_graftingWorld :
    graftingWorld.forest.children 3 = [4, 5] ∧
    endsIn (attach graftingTarget 3) graftingWorld
      (fun _ after => after.forest.children 1 = [4, 5] ∧ after.forest.children 3 = [])
      (fun _ _ => False) ∧
    graftingWorld.forest.Ordered ∧ graftingTarget.home? graftingWorld.forest = some 1 ∧
    graftingWorld.forest.IsHost 1 ∧ graftingWorld.forest.isA Content.isFragment 3 ∧
    (3 : NodeId) ≠ 1 ∧
    Ensures (attach graftingTarget 3) graftingWorld
      (fun _ after => graftingWorld.SameValues after ∧
        Grafts graftingTarget 1 3 graftingWorld.forest after.forest ∧
        (graftingTarget.mode = .replacing → after.forest.parent? graftingTarget.reference = none ∧
          after.forest.next? graftingTarget.reference = none ∧
          after.forest.previous? graftingTarget.reference = none))
      fun _ _ => False := by
  have ordered := reached_graftingWorld.intact.ordered
  have isHome : graftingTarget.home? graftingWorld.forest = some 1 := by decide +kernel
  have isHost : graftingWorld.forest.IsHost 1 := .inl (by decide +kernel)
  have isFragment : graftingWorld.forest.isA Content.isFragment 3 := by decide +kernel
  exact ⟨by decide +kernel, by decide +kernel, ordered, isHome, isHost, isFragment, by decide,
    attach_grafts ordered isHome isHost (.inr isFragment) (by decide)⟩

end MarkupSpec
