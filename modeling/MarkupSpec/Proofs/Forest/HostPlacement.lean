import MarkupSpec.Proofs.Forest.KeptNodeEdits

/-!
# Homes that take whatever is built

Elements and fragments hold every kind of node that is built, but for doctypes
(`Forest.IsHost`).  So a node that was just made (`Forest.IsLoose`) never fails to get its
place there: what changes is the row of the home, and the row of the node itself if that
is a fragment (`Forest.Houses`).

The new row is the old one with the node, or its children, put in together: at the end of it
under the home, and beside a node somewhere in it (`Target.Inserts`).
-/

namespace MarkupSpec

open Forest Edit Build

/-! ## Hosts -/

namespace Forest

/-- An element or a fragment. -/
def IsHost (forest : Forest) (id : NodeId) : Prop :=
  forest.isA Content.isElement id ∨ forest.isA Content.isFragment id

/-- A node without a parent that may come into a host, itself or with its children. -/
structure IsLoose (forest : Forest) (node : NodeId) : Prop where
  top : forest.parent? node = none
  kind : forest.isA Content.isInner node ∨ forest.isA Content.isFragment node

/-- The node, if it loses its children as it gets its place. -/
def emptied? (forest : Forest) (node : NodeId) : Option NodeId :=
  if forest.isA Content.isFragment node then some node else none

/-- The node gets its place in a home. -/
structure Houses (home : NodeId) (list : List NodeId) (gone : Option NodeId) (node : NodeId)
    (before after : Forest) : Prop where
  intact : Intact {} after
  size : after.size = before.size
  alters : Alters home list gone (before.emptied? node) before after
  emptied : before.isA Content.isFragment node → after.children node = []

variable {forest before after : Forest} {home node holder : NodeId} {list : List NodeId}
  {gone : Option NodeId}

theorem IsHost.lt_size (isHost : forest.IsHost home) : home < forest.size :=
  isHost.elim lt_size_of_isA lt_size_of_isA

theorem IsHost.isDocument (isHost : forest.IsHost home) :
    forest.isA Content.isDocument home = false :=
  isHost.elim isDocument_of_isElement isDocument_of_isFragment

/-- Hosts stay hosts. -/
theorem IsHost.later (isHost : forest.IsHost home)
    (same : (after.content? home).map Content.lasting =
      (forest.content? home).map Content.lasting) : after.IsHost home :=
  isHost.imp (isA_of_lasting same Content.isElement_lasting).trans
    (isA_of_lasting same Content.isFragment_lasting).trans

theorem IsHost.fits (isHost : forest.IsHost home) (isInner : forest.isA Content.isInner node) :
    forest.Fits home node := by
  unfold IsHost isA at isHost
  unfold isA at isInner
  cases above : forest.content? home with
  | none => simp [above] at isHost
  | some host =>
      cases below : forest.content? node with
      | none => simp [below] at isInner
      | some content =>
          rw [above] at isHost
          rw [below] at isInner
          refine ⟨host, content, above, below, ?_⟩
          cases host with
          | element | fragment => exact isInner
          | _ => simp [Content.isElement, Content.isFragment] at isHost

/-- What is inside of a host may be inside of any other one. -/
theorem isInner_of_parent? (agrees : forest.Agrees) (isHost : forest.IsHost home)
    (there : forest.parent? node = some home) : forest.isA Content.isInner node := by
  obtain ⟨above, below, isAbove, isBelow, holds⟩ := agrees.fits node home there
  rw [isA, isBelow]
  unfold IsHost isA at isHost
  rw [isAbove] at isHost
  cases above with
  | element | fragment => exact holds
  | _ => simp [Content.isElement, Content.isFragment] at isHost

theorem IsHost.takes (isHost : forest.IsHost home) (agrees : forest.Agrees)
    (loose : forest.IsLoose node) : forest.Takes home (forest.bundle node) := by
  refine ⟨isHost.isDocument, fun member among => ?_⟩
  unfold bundle at among
  split at among
  · rename_i isFragment
    exact isHost.fits (isInner_of_parent? agrees (.inr isFragment) (agrees.parent node member among))
  · rename_i noFragment
    cases List.mem_singleton.mp among
    exact isHost.fits (loose.kind.resolve_right noFragment)

theorem IsLoose.movable (loose : forest.IsLoose node) : forest.Movable node := by
  intro home there
  rw [loose.top] at there
  cases there

theorem IsLoose.emptied?_eq (noFragment : forest.isA Content.isFragment node = false) :
    forest.bundle node = [node] ∧ forest.emptied? node = none := by
  simp [bundle, emptied?, noFragment]

theorem bundle_of_isFragment (isFragment : forest.isA Content.isFragment node) :
    forest.bundle node = forest.children node ∧ forest.emptied? node = some node := by
  simp [bundle, emptied?, isFragment]

namespace Houses

theorem content (houses : Houses home list gone node before after) (id : NodeId) :
    after.content? id = before.content? id := by
  rcases Nat.lt_or_ge id before.size with inside | beyond
  · exact houses.alters.content id inside
  · rw [content?_eq_none beyond, content?_eq_none (houses.size ▸ beyond)]

/-- The other rows stay. -/
theorem children_of_ne (houses : Houses home list gone node before after) {id : NodeId}
    (elsewhere : id ≠ home) (other : before.isA Content.isFragment id → id ≠ node) :
    after.children id = before.children id := by
  rcases Nat.lt_or_ge id before.size with inside | beyond
  · refine houses.alters.children id inside elsewhere fun same => ?_
    unfold emptied? at same
    split at same
    · rename_i isFragment
      cases same
      exact other isFragment rfl
    · cases same
  · rw [children_eq_nil beyond, children_eq_nil (houses.size ▸ beyond)]

end Houses

/-- A change that leaves the node as it is leaves all as it is. -/
theorem update_eq_self {id : NodeId} {step : Node → Node}
    (same : ∀ node, forest.node? id = some node → step node = node) :
    forest.update id step = forest := by
  have nodes : (forest.update id step).nodes = forest.nodes := by
    refine Array.ext_getElem? fun index => ?_
    show (forest.update id step).node? index = forest.node? index
    rw [node?_update]
    split
    · rename_i here
      subst here
      cases found : forest.node? id with
      | none => rfl
      | some node => rw [Option.map_some, same node found]
    · rfl
  exact congrArg Forest.mk nodes

end Forest

/-! ## Under a host -/

namespace Edit

variable {forest : Forest} {home node holder : NodeId}

/-- The children of a holder come behind those of a home. -/
theorem alters_attachMembers (differ : holder ≠ home) :
    ∀ (members : List NodeId) {forest : Forest}, forest.Agrees →
      forest.isA Content.isDocument home = false → forest.children holder = members →
      Ensures (members.forM (attachOneUnder home)) forest
        (fun _ after => Alters home (forest.children home ++ members) none (some holder) forest after)
        fun _ _ => ¬ forest.Takes home members
  | [], forest, agrees, _, _ => .refl agrees (List.append_nil _).symm
  | member :: rest, forest, agrees, noDocument, held => by
      have own := agrees.fits member holder (agrees.parent holder member (by simp [held]))
      show Ensures (attachOneUnder home member >>= fun _ => rest.forM (attachOneUnder home)) forest _ _
      rw [MarkupSpec.ensures_bind]
      refine (joins_attachOneUnder agrees noDocument own.isFragment).mono
        (fun _ middle joins => ?_) fun _ _ refused takes => refused takes.head
      have split : forest.children home = forest.children home ++ [] := (List.append_nil _).symm
      obtain ⟨alters, held'⟩ := joins.alters agrees held differ split
      refine (alters_attachMembers differ rest alters.agrees ?_ held').mono (fun _ after later => ?_)
        fun _ _ refused takes => refused (takes.tail joins.content)
      · rw [isA, joins.content]
        exact noDocument
      · rw [alters.row, List.append_assoc] at later
        exact alters.trans later (by simp)

theorem alters_attachUnder (agrees : forest.Agrees) (isHost : forest.IsHost home)
    (loose : forest.IsLoose node) (differ : node ≠ home) :
    Ensures (attachUnder home node) forest
      (fun _ after => Alters home (forest.children home ++ forest.bundle node) none
        (forest.emptied? node) forest after) fun _ _ => False := by
  have takes := isHost.takes agrees loose
  by_cases isFragment : forest.isA Content.isFragment node
  · obtain ⟨above, isAbove⟩ := node?_of_lt isHost.lt_size
    obtain ⟨below, isBelow⟩ := node?_of_lt (lt_size_of_isA isFragment)
    obtain ⟨bundle, emptied⟩ := bundle_of_isFragment isFragment
    rw [bundle] at takes
    rw [attachUnder, MarkupSpec.ensures_bind, ensures_discard, ensures_look]
    refine ⟨fun _ _ => ?_, fun missing => by simp [isAbove] at missing⟩
    rw [ensures_bind_look isBelow, if_pos ((isA_of_node? isBelow).symm.trans isFragment),
      bundle, emptied, ← children_of_node? isBelow]
    exact (alters_attachMembers differ _ agrees isHost.isDocument rfl).mono
      (fun _ _ alters => alters) fun _ _ refused => refused takes
  · have noFragment : forest.isA Content.isFragment node = false := by simpa using isFragment
    obtain ⟨bundle, emptied⟩ := IsLoose.emptied?_eq noFragment
    rw [bundle] at takes
    rw [bundle, emptied]
    refine (joins_attachUnder agrees isHost.isDocument noFragment).mono
      (fun _ _ joins => ?_) fun _ _ refused => refused takes
    exact (joins.gains agrees loose.top (List.append_nil _).symm rfl).alters agrees
      joins.fits loose.top

/-! ## Beside a node -/

end Edit

/-- Nodes are put together in a row by a target, under the home at the end of it.  The
others are the old ones, but perhaps for the reference, if that is to be replaced. -/
def Target.Inserts (target : Target) (nodes row list : List NodeId) : Prop :=
  ∃ front back, list = front ++ nodes ++ back ∧ (target.isUnder → back = []) ∧
    (front ++ back = row ∨ target.mode = .replacing ∧ front ++ back = row.erase target.reference)

section Inserts

variable {target : Target} {nodes more row list : List NodeId}

theorem Target.inserts_splice (beside : target.isUnder = false) (distinct : row.Nodup)
    (among : target.reference ∈ row) : target.Inserts nodes row (target.splice nodes row) := by
  have notUnder {back : List NodeId} (isUnder : target.isUnder) : back = [] := by
    rw [beside] at isUnder
    cases isUnder
  obtain ⟨front, back, split⟩ := List.append_of_mem among
  rw [split] at distinct ⊢
  cases isMode : target.mode with
  | under => simp [Target.isUnder, isMode] at beside
  | before =>
      rw [Target.splice_before distinct isMode]
      exact ⟨front, target.reference :: back, rfl, notUnder, .inl rfl⟩
  | after =>
      rw [Target.splice_after distinct isMode]
      exact ⟨front ++ [target.reference], back, rfl, notUnder, .inl (by simp)⟩
  | replacing =>
      by_cases nothing : nodes = []
      · subst nothing
        rw [Target.splice_nil]
        exact ⟨front, target.reference :: back, by simp, notUnder, .inl rfl⟩
      · rw [Target.splice_replacing distinct isMode nothing]
        exact ⟨front, back, rfl, notUnder, .inr ⟨isMode, (erase_around distinct).symm⟩⟩

/-- Nothing is put in a row. -/
theorem Target.inserts_nil (target : Target) (row : List NodeId) : target.Inserts [] row row :=
  ⟨row, [], by simp, fun _ => rfl, .inl (List.append_nil row)⟩

theorem Target.inserts_append (isUnder : target.isUnder) :
    target.Inserts nodes row list ↔ list = row ++ nodes := by
  have isMode : target.mode = .under := by simpa [Target.isUnder] using isUnder
  constructor
  · rintro ⟨front, back, isList, atEnd, same | ⟨isReplacing, -⟩⟩
    · obtain rfl := atEnd isUnder
      rw [isList, ← same, List.append_nil, List.append_nil]
    · rw [isMode] at isReplacing
      cases isReplacing
  · rintro rfl
    exact ⟨row, [], by simp, fun _ => rfl, .inl (List.append_nil row)⟩

end Inserts

namespace Edit

variable {target : Target} {forest : Forest} {home node : NodeId}

/-- A child of a host may be removed. -/
theorem loses_remove (agrees : forest.Agrees) (isHost : forest.IsHost home)
    (there : forest.parent? node = some home) :
    Ensures (remove node) forest (fun _ after => ∃ front back, Loses home node front back forest after)
      fun _ _ => False := by
  rw [remove_eq, ensures_parentOf_child there, MarkupSpec.ensures_bind]
  refine (ensures_removeClosing agrees).mono (fun _ middle loses => ?_)
    fun _ _ failed => failed.2 (agrees.child node home there)
  obtain ⟨front, back, loses⟩ := loses
  rw [change, ensures_modify, update_eq_self fun found isFound => ?_]
  · exact ⟨front, back, loses⟩
  · have noDocument := isHost.isDocument
    rw [isA, ← loses.content, content?_of_node? isFound] at noDocument
    exact forgetting_of_isDocument node found noDocument

theorem alters_remove (agrees : forest.Agrees) (isHost : forest.IsHost home)
    (there : forest.parent? node = some home) :
    Ensures (remove node) forest
      (fun _ after => Alters home ((forest.children home).erase node) (some node) none forest after)
      fun _ _ => False := by
  refine (loses_remove agrees isHost there).mono (fun _ after ends => ?_) fun _ _ failed => failed
  obtain ⟨front, back, loses⟩ := ends
  have distinct := agrees.nodup home
  rw [loses.split] at distinct
  rw [loses.split, erase_around distinct]
  exact loses.alters_home agrees

/-- A host takes what is put beside one of its children. -/
theorem alters_place_beside (intact : Intact {} forest) (isHost : forest.IsHost home)
    (loose : forest.IsLoose node) (differ : node ≠ home) (beside : target.isUnder = false)
    (there : forest.parent? target.reference = some home) :
    Ensures (place target node) forest
      (fun _ after => ∃ list gone, target.Inserts (forest.bundle node) (forest.children home) list ∧
        Alters home list gone (forest.emptied? node) forest after) fun _ _ => False := by
  have agrees := intact.agrees
  have takes := isHost.takes agrees loose
  have linked := intact.linked home (Nat.zero_le _)
  have inserts (nodes : List NodeId) :
      target.Inserts nodes (forest.children home) (target.splice nodes (forest.children home)) :=
    Target.inserts_splice beside (agrees.nodup home) (agrees.child _ home there)
  by_cases isFragment : forest.isA Content.isFragment node
  · obtain ⟨bundle, emptied⟩ := bundle_of_isFragment isFragment
    rw [bundle] at takes
    rw [bundle, emptied]
    by_cases removes : target.mode = .replacing ∧ forest.children node = []
    · -- Nothing is put anywhere, but the reference goes.
      obtain ⟨isMode, held⟩ := removes
      rw [held, ensures_place_nothing isFragment held isMode]
      refine (alters_remove agrees isHost there).mono (fun _ _ alters => ?_) fun _ _ failed => failed
      have inserts : target.Inserts [] (forest.children home)
          ((forest.children home).erase target.reference) :=
        ⟨_, [], by simp, fun _ => rfl, .inr ⟨isMode, List.append_nil _⟩⟩
      exact ⟨_, _, inserts, { alters with
        children := fun id inside elsewhere _ =>
          alters.children id inside elsewhere (Option.some_ne_none id).symm }⟩
    · exact (alters_place_fragment differ agrees isFragment (intact.linked node (Nat.zero_le _))
        beside there linked (not_and.mp removes)).mono (fun _ _ alters => ⟨_, _, inserts _, alters⟩)
        fun _ _ refused => refused takes
  · have noFragment : forest.isA Content.isFragment node = false := by simpa using isFragment
    obtain ⟨bundle, emptied⟩ := IsLoose.emptied?_eq noFragment
    rw [bundle] at takes
    rw [bundle, emptied]
    exact (alters_place_one agrees noFragment loose.top beside there linked).mono
      (fun _ _ alters => ⟨_, _, inserts _, alters⟩) fun _ _ refused => refused takes

end Edit

/-! ## Attaching -/

/-- Streams, names and numbers are the same in two worlds. -/
structure World.SameValues (before after : World) : Prop where
  streams : after.streams = before.streams
  nextId : after.nextId = before.nextId
  names : after.names = before.names

theorem World.SameValues.edited {before after : World} (values : before.SameValues after)
    (forest : Forest) : before.SameValues { after with forest } :=
  ⟨values.streams, values.nextId, values.names⟩

section Attach

variable {target : Target} {world : World} {home node : NodeId}

theorem implicitParent_eq (isHome : target.home? world.forest = some home) :
    implicitParent target world = .ok home world := by
  refine Ensures.eq_ok ?_
  unfold Target.home? at isHome
  unfold implicitParent
  split at isHome
  · rename_i isUnder
    rw [if_pos isUnder]
    exact ⟨Option.some.inj isHome, rfl⟩
  · rename_i beside
    rw [if_neg beside, parentBeside, MarkupSpec.ensures_bind, ensures_edit, ensures_look]
    refine ⟨fun node there => ?_, fun missing => ?_⟩
    · rw [parent?_of_node? there] at isHome
      rw [isHome]
      exact ⟨rfl, rfl⟩
    · rw [parent?, missing] at isHome
      cases isHome

/-- Where there is a home, attaching is placing. -/
theorem ensures_attach_at {done : Unit → World → Prop} {failed : Failure → World → Prop}
    (isHome : target.home? world.forest = some home)
    (onPlace : ∀ after, after.forest = world.forest → world.SameValues after →
      Ensures (edit (place target node)) after done failed) :
    Ensures (attach target node) world done failed := by
  have found : Ensures (implicitParent target) world (fun _ after => after = world)
      fun _ _ => False := by
    unfold Ensures
    rw [implicitParent_eq isHome]
  rw [attach, MarkupSpec.ensures_bind, ensures_discard]
  refine found.mono (fun _ after same => ?_) fun _ _ failed => failed.elim
  subst same
  exact onPlace _ rfl ⟨rfl, rfl, rfl⟩

theorem houses_of_alters {list : List NodeId} {gone : Option NodeId} {before after : Forest}
    (agrees : before.Agrees) (intact : Intact {} after) (size : after.size = before.size)
    (differ : node ≠ home) (inserted : before.bundle node ⊆ list)
    (alters : Alters home list gone (before.emptied? node) before after) :
    Houses home list gone node before after where
  intact := intact
  size := size
  alters := alters
  emptied isFragment := by
    obtain ⟨bundle, emptied⟩ := bundle_of_isFragment isFragment
    rw [emptied] at alters
    exact alters.children_emptied agrees size differ (bundle ▸ inserted)

/-- A host takes what is attached by a target that leads to it. -/
theorem houses_attach (intact : Intact {} world.forest)
    (isHome : target.home? world.forest = some home) (isHost : world.forest.IsHost home)
    (loose : world.forest.IsLoose node) (lower : target.reference < node) (above : home < node) :
    Ensures (attach target node) world
      (fun _ after => world.SameValues after ∧ ∃ list gone,
        target.Inserts (world.forest.bundle node) (world.forest.children home) list ∧
        Houses home list gone node world.forest after.forest) fun _ _ => False := by
  have differ : node ≠ home := Nat.ne_of_gt above
  have alters : Ensures (place target node) world.forest
      (fun _ after => ∃ list gone,
        target.Inserts (world.forest.bundle node) (world.forest.children home) list ∧
        Alters home list gone (world.forest.emptied? node) world.forest after)
      fun _ _ => False := by
    cases isUnder : target.isUnder with
    | false =>
        have there : world.forest.parent? target.reference = some home := by
          simpa [Target.home?, isUnder] using isHome
        exact alters_place_beside intact isHost loose differ isUnder there
    | true =>
        obtain rfl : target.reference = home := by simpa [Target.home?, isUnder] using isHome
        have isMode : target.mode = .under := by simpa [Target.isUnder] using isUnder
        rw [place, isMode]
        exact (alters_attachUnder intact.agrees isHost loose differ).mono
          (fun _ _ alters => ⟨_, _, (Target.inserts_append isUnder).mpr rfl, alters⟩)
          fun _ _ failed => failed
  have places : Ensures (attach target node) world
      (fun _ after => world.SameValues after ∧ Intact {} after.forest ∧ ∃ list gone,
        target.Inserts (world.forest.bundle node) (world.forest.children home) list ∧
        Alters home list gone (world.forest.emptied? node) world.forest after.forest)
      fun _ _ => False := by
    refine ensures_attach_at isHome fun later same values => ?_
    rw [ensures_edit, same]
    exact ((intact_place intact (Nat.zero_le _) lower loose.movable).and alters).mono
      (fun _ _ ends => ⟨values.edited _, ends.1, ends.2⟩) fun _ _ failed => failed.2
  refine ((lasts_attach _ node world).and places).mono (fun _ after ends => ?_)
    fun _ _ failed => failed.2
  obtain ⟨⟨size, -⟩, values, intact', list, gone, inserts, alters⟩ := ends
  obtain ⟨front, back, isList, -⟩ := id inserts
  exact ⟨values, list, gone, inserts,
    houses_of_alters intact.agrees intact' size differ (by simp [isList]) alters⟩

/-- Under a host a node comes behind the children. -/
theorem houses_attach_under (intact : Intact {} world.forest) (isHost : world.forest.IsHost home)
    (loose : world.forest.IsLoose node) (lower : home < node) :
    Ensures (attach (.under home) node) world
      (fun _ after => world.SameValues after ∧ ∃ gone,
        Houses home (world.forest.children home ++ world.forest.bundle node) gone node world.forest
          after.forest) fun _ _ => False := by
  refine (houses_attach intact rfl isHost loose lower lower).mono (fun _ after ends => ?_)
    fun _ _ failed => failed
  obtain ⟨values, list, gone, inserts, houses⟩ := ends
  rw [Target.inserts_append rfl] at inserts
  exact ⟨values, gone, inserts ▸ houses⟩

end Attach

end MarkupSpec
