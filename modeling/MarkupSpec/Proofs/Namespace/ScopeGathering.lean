import Mathlib.Data.Fintype.EquivFin
import MarkupSpec.Proofs.Forest.Graft
import MarkupSpec.Proofs.Namespace.ElementTag
import MarkupSpec.Proofs.Position.PairedPlaces
import MarkupSpec.Proofs.Session.WellLinked

/-!
# Gathering declarations

The declarations in scope at a node are gathered by a loop that goes up from it and learns what
each element says, unless the key is known already (`Forest.Gathers`).  In a forest where no node
is above itself that loop ends, and what it has gathered is what the nearest element says about
each key (`gathers_nearest`).

So what is in scope in a fragment and what is in scope at the node that it comes to tell what will
be in scope when it is there (`overlaid_attach`).  That rests on the lineage alone: of all the nodes
above, only a child of the fragment gets another parent (`Chain.regraft`).
-/

namespace MarkupSpec

open Edit Build

/-! ## The loop -/

/-- Take an entry, unless its key is known. -/
def setDefault (known : List (String × String)) (entry : String × String) :
    List (String × String) :=
  if (known.lookup entry.1).isSome then known else known ++ [entry]

/-- Take the entries whose keys are not known, one after the other. -/
def learn (known entries : List (String × String)) : List (String × String) :=
  entries.foldl setDefault known

theorem firstOfEach_concat (known : List (String × String)) (entry : String × String) :
    firstOfEach (known ++ [entry]) = setDefault (firstOfEach known) entry := by
  unfold setDefault
  rw [lookup_firstOfEach]
  induction known with
  | nil => simp [firstOfEach]
  | cons first rest ih =>
      obtain ⟨key, value⟩ := first
      rw [List.cons_append, firstOfEach, ih, List.lookup_cons]
      by_cases same : entry.1 = key
      · -- The new entry goes with the key that comes first.
        split <;> simp [firstOfEach, same]
      · have apart : (entry.1 == key) = false := by simp [same]
        rw [apart]
        split <;> simp [firstOfEach, same]

/-- To learn entries that come behind others is to keep the first of each key. -/
theorem learn_firstOfEach (entries : List (String × String)) : ∀ known : List (String × String),
    learn (firstOfEach known) entries = firstOfEach (known ++ entries) := by
  unfold learn
  induction entries with
  | nil => simp
  | cons entry rest ih =>
      intro known
      rw [List.foldl_cons, ← firstOfEach_concat, ih, List.append_assoc, List.singleton_append]

namespace Forest

/-- The loop that gathers declarations: as long as there is a node, learn what it says and go on
with its parent. -/
inductive Gathers (forest : Forest) :
    Option NodeId → List (String × String) → List (String × String) → Prop where
  | ends {known : List (String × String)} : Gathers forest none known known
  | climbs {id : NodeId} {known gathered : List (String × String)} (inside : id < forest.size)
      (further : Gathers forest (forest.parent? id) (learn known (forest.statedAt id)) gathered) :
      Gathers forest (some id) known gathered

variable {forest before after : Forest} {id home node member : NodeId} {path : List NodeId}

/-- Where the chain of a node ends, so does the loop, and it has the first entry of each key. -/
theorem Chain.gathers_iff (chain : forest.Chain id path) {gathered : List (String × String)} :
    ∀ known : List (String × String), forest.Gathers (some id) (firstOfEach known) gathered ↔
      gathered = firstOfEach (known ++ path.flatMap forest.statedAt) := by
  induction chain with
  | @top id inside top =>
      intro known
      constructor
      · rintro (_ | ⟨-, further⟩)
        rw [top, learn_firstOfEach] at further
        cases further
        simp
      · rintro rfl
        refine .climbs inside ?_
        rw [top, learn_firstOfEach, List.flatMap_singleton]
        exact .ends
  | @up id parent above there chain ih =>
      intro known
      rw [List.flatMap_cons, ← List.append_assoc, ← ih]
      constructor
      · rintro (_ | ⟨-, further⟩)
        rwa [there, learn_firstOfEach] at further
      · intro further
        refine .climbs (lt_size_of_parent? there) ?_
        rwa [there, learn_firstOfEach]

/-- Parents and children agree, siblings are linked, and no node is above itself. -/
structure WellFormed (forest : Forest) : Prop where
  ordered : forest.Ordered
  acyclic : ∀ id, ¬ Relation.TransGen (fun child home => forest.parent? child = some home) id id

theorem Intact.wellFormed (intact : Intact {} forest) : forest.WellFormed where
  ordered := intact.ordered
  acyclic := intact.wellLinked.acyclic

/-- The way up from a node ends, for it never comes back. -/
theorem WellFormed.settled (wellFormed : forest.WellFormed) :
    ∀ id < forest.size, forest.Settled id := by
  let Above (high low : Fin forest.size) : Prop :=
    Relation.TransGen (fun child home => forest.parent? child = some home) low.1 high.1
  have : IsTrans (Fin forest.size) Above := ⟨fun _ _ _ first second => second.trans first⟩
  have : Std.Irrefl Above := ⟨fun id => wellFormed.acyclic id⟩
  have grounded : WellFounded Above := Finite.wellFounded_of_trans_of_irrefl Above
  suffices all : ∀ id : Fin forest.size, forest.Settled id from fun id inside => all ⟨id, inside⟩
  intro id
  induction id using grounded.induction with
  | _ id ih =>
      cases parented : forest.parent? id with
      | none => exact ⟨_, .top id.2 parented⟩
      | some parent =>
          have inside := (wellFormed.ordered.agrees.fits id parent parented).homeInside
          obtain ⟨above, chain⟩ := ih ⟨parent, inside⟩ (.single parented)
          exact ⟨_, .up parented chain⟩

end Forest

/-! ## What an element says -/

/-- What an element says about a qualifier, or the default: the attribute of that name, or failing
that its own namespace, if it has one and the qualifier is its own. -/
def Tag.says? (tag : Tag) (qualifier : Option String) : Option String :=
  match tag.attributes.find? (·.name == declarationKey qualifier) with
  | some found => some found.value
  | none =>
      if tag.qualifier.filter (· != "") = qualifier then tag.namespaceUri.filter (· != "")
      else none

/-- What a node says about a qualifier.  Only elements say anything. -/
def Forest.says? (forest : Forest) (id : NodeId) (qualifier : Option String) : Option String :=
  match forest.content? id with
  | some (.element tag) => tag.says? qualifier
  | _ => none

/-- Among the declarations of an element is each attribute that has such a name. -/
theorem Tag.lookup_declared (tag : Tag) (qualifier : Option String) :
    tag.declared.lookup (declarationKey qualifier) =
      (tag.attributes.find? (·.name == declarationKey qualifier)).map (·.value) := by
  unfold declared
  induction tag.attributes with
  | nil => rfl
  | cons first rest ih =>
      by_cases same : first.name = declarationKey qualifier
      · simp [same, isDeclarationName_declarationKey]
      · have apart : (declarationKey qualifier == first.name) = false := by
          simp [Ne.symm same]
        rw [List.filter_cons, List.find?_cons_of_neg (by simpa using same)]
        split
        · rw [List.map_cons, List.lookup_cons, apart, ih]
        · exact ih

theorem Tag.lookup_own (tag : Tag) (qualifier : Option String) :
    tag.own.lookup (declarationKey qualifier) =
      if tag.qualifier.filter (· != "") = qualifier then tag.namespaceUri.filter (· != "")
      else none := by
  have same : declarationKey qualifier = tag.ownKey ↔
      tag.qualifier.filter (· != "") = qualifier := by
    exact ⟨fun isKey => (declarationKey_injective isKey).symm, fun isOwn => isOwn ▸ rfl⟩
  unfold own
  rw [← if_congr same rfl rfl]
  cases tag.namespaceUri with
  | none => simp
  | some uri =>
      by_cases empty : uri = ""
      · simp [empty, Option.filter_some]
      · by_cases isKey : declarationKey qualifier = tag.ownKey
        · simp [empty, isKey, Option.filter_some]
        · have apart : (declarationKey qualifier == tag.ownKey) = false := by simp [isKey]
          simp [empty, isKey, apart, List.lookup_cons]

theorem Tag.lookup_stated_eq (tag : Tag) (qualifier : Option String) :
    tag.stated.lookup (declarationKey qualifier) = tag.says? qualifier := by
  rw [stated, List.lookup_append, lookup_declared, lookup_own, says?]
  cases tag.attributes.find? (·.name == declarationKey qualifier) <;> rfl

namespace Forest

variable {forest before after : Forest} {id home node member : NodeId} {path : List NodeId}

theorem lookup_statedAt (forest : Forest) (id : NodeId) (qualifier : Option String) :
    (forest.statedAt id).lookup (declarationKey qualifier) = forest.says? id qualifier := by
  unfold statedAt says?
  cases forest.content? id with
  | none => rfl
  | some content =>
      cases content with
      | element tag => exact tag.lookup_stated_eq qualifier
      | _ => rfl

/-- A qualifier stands for what the first of all that say anything about it says. -/
theorem Chain.lookup_declarations (chain : forest.Chain id path) (qualifier : Option String) :
    (forest.declarations id).lookup (declarationKey qualifier) =
      path.findSome? (forest.says? · qualifier) := by
  rw [Forest.lookup_declarations, chain.scope_eq]
  clear chain
  induction path with
  | nil => rfl
  | cons first rest ih =>
      rw [List.flatMap_cons, List.lookup_append, lookup_statedAt, ih, List.findSome?_cons]
      cases forest.says? first qualifier <;> rfl

/-! ## A fragment comes to a home -/

section Regraft

/-- All nodes of a chain are below the one at its top. -/
theorem Chain.top_mem_lineage (chain : forest.Chain id path) (top : forest.parent? node = none)
    (among : node ∈ path) : ∀ other ∈ path, node ∈ forest.lineage other := by
  induction chain with
  | top inside top' =>
      intro other isOther
      obtain rfl := List.mem_singleton.mp among
      obtain rfl := List.mem_singleton.mp isOther
      rw [(Chain.top inside top').lineage_eq]
      exact List.mem_singleton_self _
  | @up id parent above there chain ih =>
      intro other isOther
      rcases List.mem_cons.mp isOther with rfl | isAbove
      · rwa [(Chain.up there chain).lineage_eq]
      · refine ih ((List.mem_cons.mp among).resolve_left ?_) other isAbove
        rintro rfl
        rw [top] at there
        cases there

/-- Of the nodes below another one, one is its child. -/
theorem Chain.exists_child (chain : forest.Chain id path) (among : node ∈ path)
    (differ : id ≠ node) : ∃ member ∈ path, forest.parent? member = some node := by
  induction chain with
  | top => exact absurd (List.mem_singleton.mp among).symm differ
  | @up id parent above there chain ih =>
      by_cases isNode : parent = node
      · exact ⟨id, List.mem_cons_self, isNode ▸ there⟩
      · obtain ⟨member, isAbove, under⟩ :=
          ih ((List.mem_cons.mp among).resolve_left differ.symm) isNode
        exact ⟨member, List.mem_cons_of_mem _ isAbove, under⟩

/-- If all that moves gets more into scope behind what was there, so does all below it. -/
theorem Chain.regraft {moved : NodeId → Prop} {more : List (String × String)}
    (chain : before.Chain id path) (among : ∃ member ∈ path, moved member)
    (hung : ∀ member ∈ path, moved member →
      after.Settled member ∧ after.scope member = before.scope member ++ more)
    (kept : ∀ member ∈ path, ¬ moved member → after.parent? member = before.parent? member)
    (stated : ∀ member, after.statedAt member = before.statedAt member) :
    after.Settled id ∧ after.scope id = before.scope id ++ more := by
  induction chain with
  | top inside top =>
      obtain ⟨member, isTop, isMoved⟩ := among
      obtain rfl := List.mem_singleton.mp isTop
      exact hung member isTop isMoved
  | @up id parent above there chain ih =>
      by_cases isMoved : moved id
      · exact hung id List.mem_cons_self isMoved
      · obtain ⟨member, isMember, moves⟩ := among
        have isAbove : member ∈ above := (List.mem_cons.mp isMember).resolve_left fun same =>
          isMoved (same ▸ moves)
        obtain ⟨settled, same⟩ := ih ⟨member, isAbove, moves⟩
          (fun member above => hung member (List.mem_cons_of_mem _ above))
          fun member above => kept member (List.mem_cons_of_mem _ above)
        have there' := (kept id List.mem_cons_self isMoved).trans there
        obtain ⟨path', chain'⟩ := settled
        refine ⟨⟨_, .up there' chain'⟩, ?_⟩
        rw [scope_of_parent there' ⟨path', chain'⟩, scope_of_parent there ⟨above, chain⟩, same,
          stated, List.append_assoc]

variable {fragment : NodeId} {target : Target} (wellFormed : before.WellFormed)
  (isFragment : before.isA Content.isFragment fragment) (chain : before.Chain id path)
  (among : fragment ∈ path) (differ : id ≠ fragment)
  (outside : fragment ∉ before.lineage home)

theorem statedAt_of_isFragment (isFragment : forest.isA Content.isFragment id) :
    forest.statedAt id = [] := by
  unfold isA at isFragment
  unfold statedAt
  split
  · rename_i tag there
    rw [there] at isFragment
    cases isFragment
  · rfl

/-- Only two rows change, that of a fragment and that of the home it comes to. -/
structure Trades (home fragment : NodeId) (before after : Forest) : Prop where
  size : after.size = before.size
  lasts : ∀ id, (after.content? id).map Content.lasting = (before.content? id).map Content.lasting
  agrees : after.Agrees
  row : ∀ id, id ≠ home → id ≠ fragment → after.children id = before.children id

/-- A node under another one than these two stays there. -/
theorem Trades.parent {above : NodeId} (trades : Trades home fragment before after)
    (agrees : before.Agrees) (there : before.parent? member = some above) (notHome : above ≠ home)
    (notFragment : above ≠ fragment) : after.parent? member = some above := by
  refine trades.agrees.parent above member ?_
  rw [trades.row above notHome notFragment]
  exact agrees.child member above there

/-- A node that was in the fragment is under one of the two, if it is under any. -/
theorem Trades.parent_of_member {above : NodeId} (trades : Trades home fragment before after)
    (agrees : before.Agrees) (there : before.parent? member = some fragment)
    (now : after.parent? member = some above) : above = home ∨ above = fragment := by
  by_contra other
  obtain ⟨notHome, notFragment⟩ := not_or.mp other
  have among := trades.agrees.child member above now
  rw [trades.row above notHome notFragment] at among
  exact notFragment (Option.some.inj ((agrees.parent above member among).symm.trans there))

include wellFormed isFragment

/-- A fragment gives its children nothing into scope. -/
theorem WellFormed.scope_of_member (there : before.parent? member = some fragment) :
    before.scope member = before.statedAt member := by
  have inside := lt_size_of_isA isFragment
  have top := (wellFormed.ordered.agrees.loose_of_isFragment isFragment).top
  rw [scope_of_parent there ⟨_, .top inside top⟩, scope_of_top inside top,
    statedAt_of_isFragment isFragment, List.append_nil]

include chain among outside

/-- The home that a fragment comes to is not above what the fragment holds. -/
theorem WellFormed.home_not_mem : home ∉ path := fun isAbove =>
  outside (chain.top_mem_lineage
    (wellFormed.ordered.agrees.loose_of_isFragment isFragment).top among home isAbove)

include differ

/-- Where a fragment comes to an element or to another fragment, all below it gets what is in scope
there. -/
theorem Grafts.scope (grafts : Grafts target home fragment before after)
    (isHome : target.home? before = some home) (isHost : before.IsHost home) :
    after.scope id = before.scope id ++ before.scope home := by
  have agrees := wellFormed.ordered.agrees
  obtain ⟨bundle, -⟩ := bundle_of_isFragment isFragment
  have stated (member : NodeId) : after.statedAt member = before.statedAt member := by
    rw [statedAt, statedAt, grafts.content]
  have beside (replacing : target.mode = .replacing) :
      before.parent? target.reference = some home := by
    simpa [Target.home?, Target.isUnder, replacing] using isHome
  obtain ⟨above, homeChain⟩ := wellFormed.settled home (isHost.elim lt_size_of_isA lt_size_of_isA)
  rw [homeChain.lineage_eq] at outside
  -- At the home everything is as it was.
  obtain ⟨settled, same⟩ : after.Settled home ∧ after.scope home = before.scope home := by
    refine homeChain.later agrees.onTop (Nat.le_of_eq grafts.size.symm) (fun member isAbove => ?_)
      fun member _ => stated member
    have noMember : member ∉ before.bundle fragment := fun isMember =>
      outside (homeChain.parent_mem isAbove (agrees.parent fragment member (bundle ▸ isMember)))
    rw [grafts.parent, if_neg noMember, if_neg]
    · exact .inl rfl
    · rintro ⟨replacing, rfl⟩
      exact Chain.not_mem_above (beside replacing) homeChain isAbove
  have away : home ∉ path :=
    wellFormed.home_not_mem isFragment chain among (homeChain.lineage_eq ▸ outside)
  refine (chain.regraft (chain.exists_child among differ) (fun member _ there => ?_)
    (fun member isMember elsewhere => ?_) stated).2
  · have now : after.parent? member = some home := by
      rw [grafts.parent, bundle, if_pos (agrees.child member fragment there)]
    obtain ⟨path', chain'⟩ := settled
    refine ⟨⟨_, .up now chain'⟩, ?_⟩
    rw [scope_of_parent now ⟨path', chain'⟩, same, stated,
      wellFormed.scope_of_member isFragment there]
  · have noMember : member ∉ before.children fragment := fun isMember =>
      elsewhere (agrees.parent fragment member isMember)
    rw [grafts.parent, bundle, if_neg noMember, if_neg]
    rintro ⟨replacing, rfl⟩
    exact away (chain.parent_mem isMember (beside replacing))

/-- Where a fragment comes to a document, nothing more gets into scope. -/
theorem Trades.scope (trades : Trades home fragment before after)
    (isDocument : before.isA Content.isDocument home) :
    after.scope id = before.scope id ++ before.scope home := by
  have agrees := wellFormed.ordered.agrees
  have away := wellFormed.home_not_mem isFragment chain among outside
  have isFragment' : after.isA Content.isFragment fragment :=
    (isA_of_lasting (trades.lasts fragment) Content.isFragment_lasting).trans isFragment
  have isDocument' : after.isA Content.isDocument home :=
    (isA_of_lasting (trades.lasts home) Content.isDocument_lasting).trans isDocument
  have top := (trades.agrees.loose_of_isFragment isFragment').top
  -- The home and the fragment are on top and say nothing.
  have silent (above : NodeId) (either : above = home ∨ above = fragment) :
      after.Settled above ∧ after.scope above = [] := by
    rcases either with rfl | rfl
    · have inside := lt_size_of_isA isDocument'
      have onTop := trades.agrees.onTop above isDocument'
      exact ⟨⟨_, .top inside onTop⟩,
        (scope_of_top inside onTop).trans (statedAt_of_isDocument isDocument')⟩
    · have inside := lt_size_of_isA isFragment'
      exact ⟨⟨_, .top inside top⟩,
        (scope_of_top inside top).trans (statedAt_of_isFragment isFragment')⟩
  have stated (member : NodeId) : after.statedAt member = before.statedAt member :=
    statedAt_eq_of_lasting (trades.lasts member)
  rw [scope_of_top (lt_size_of_isA isDocument) (agrees.onTop home isDocument),
    statedAt_of_isDocument isDocument]
  refine (chain.regraft (chain.exists_child among differ) (fun member isMember there => ?_)
    (fun member isMember elsewhere => ?_) stated).2
  · rw [List.append_nil, wellFormed.scope_of_member isFragment there, ← stated]
    cases now : after.parent? member with
    | none =>
        have inside := trades.size ▸ chain.lt_size member isMember
        exact ⟨⟨_, .top inside now⟩, scope_of_top inside now⟩
    | some above =>
        obtain ⟨settled, nothing⟩ := silent above (trades.parent_of_member agrees there now)
        obtain ⟨path', chain'⟩ := settled
        refine ⟨⟨_, .up now chain'⟩, ?_⟩
        rw [scope_of_parent now ⟨path', chain'⟩, nothing, List.append_nil]
  · cases there : before.parent? member with
    | none =>
        obtain rfl : member = fragment := by
          have below := chain.top_mem_lineage
            (agrees.loose_of_isFragment isFragment).top among member isMember
          rw [(Chain.top (chain.lt_size member isMember) there).lineage_eq] at below
          exact (List.mem_singleton.mp below).symm
        exact top
    | some above =>
        refine trades.parent agrees there (fun isHome => away ?_) fun same => elsewhere ?_
        · exact isHome ▸ chain.parent_mem isMember there
        · exact same ▸ there

end Regraft

end Forest

section Attach

open Forest

variable {forest : Forest} {target : Target} {home fragment member : NodeId}

/-- Wherever a fragment is put, only its row and that of the home change. -/
theorem trades_place (agrees : forest.Agrees) (isHome : target.home? forest = some home)
    (isFragment : forest.isA Content.isFragment fragment) :
    Ensures (place target fragment) forest (fun _ => Trades home fragment forest)
      fun _ _ => True := by
  have loaded : Loaded (fun id => id = home ∨ id = fragment)
      (fun id => id = fragment ∨ forest.parent? id = some fragment) forest := by
    refine ⟨fun id isPlaced isFragment' child among => ?_, fun id isPlaced parent there => ?_⟩
    · rcases isPlaced with rfl | under
      · exact .inr (agrees.parent _ child among)
      · rw [(agrees.fits id fragment under).isFragment] at isFragment'
        cases isFragment'
    · rcases isPlaced with rfl | under
      · rw [(agrees.loose_of_isFragment isFragment).top] at there
        cases there
      · exact .inr (Option.some.inj (there.symm.trans under))
  have shifts : Ensures (place target fragment) forest
      (fun _ => Shifts (fun id => id = home ∨ id = fragment)
        (fun id => id = fragment ∨ forest.parent? id = some fragment) (fun _ => True) forest)
      fun _ => Shifts (fun id => id = home ∨ id = fragment)
        (fun id => id = fragment ∨ forest.parent? id = some fragment) (fun _ => True) forest :=
    shifts_place (.inl rfl) (fun other there => .inl (Option.some.inj (there.symm.trans isHome)))
      (fun _ _ _ => trivial) fun _ => trivial
  refine (shifts.and (keepsAgreement_place target fragment forest)).mono (fun _ after ends => ?_)
    fun _ _ _ => trivial
  have moves := ends.1 loaded
  exact ⟨moves.size, moves.content, ends.2 agrees, fun id notHome notFragment =>
    (moves.rest id (not_or.mpr ⟨notHome, notFragment⟩)).2⟩

/-- What a fragment holds comes under nothing but documents, fragments and elements. -/
theorem refuses_place (agrees : forest.Agrees) (isHome : target.home? forest = some home)
    (isFragment : forest.isA Content.isFragment fragment)
    (there : forest.parent? member = some fragment)
    (noParent : forest.isA Content.isParent home = false) :
    Ensures (place target fragment) forest (fun _ _ => False) fun _ _ => True := by
  cases isUnder : target.isUnder with
  | false =>
      -- The reference shows that the home has children.
      have beside : forest.parent? target.reference = some home := by
        simpa [Target.home?, isUnder] using isHome
      obtain ⟨above, below, isAbove, -, holds⟩ := agrees.fits target.reference home beside
      rw [isA, isAbove, Option.any_some, Content.isParent_of_holds holds] at noParent
      cases noParent
  | true =>
      obtain rfl : target.reference = home := by simpa [Target.home?, isUnder] using isHome
      have isMode : target.mode = .under := by simpa [Target.isUnder] using isUnder
      obtain ⟨below, isBelow⟩ := node?_of_lt (lt_size_of_isA isFragment)
      have isFragment' : below.content.isFragment := (isA_of_node? isBelow).symm.trans isFragment
      rw [place, isMode]
      show Ensures (attachUnder target.reference fragment) forest _ _
      rw [attachUnder, MarkupSpec.ensures_bind, ensures_discard, ensures_look]
      refine ⟨fun above isAbove => ?_, fun _ => trivial⟩
      have childless : above.content.isParent = false := (isA_of_node? isAbove).symm.trans noParent
      have noDocument : above.content.isDocument = false := by
        cases kind : above.content <;> simp_all [Content.isParent, Content.isDocument]
      rw [ensures_bind_look isBelow, if_pos isFragment', ← children_of_node? isBelow]
      obtain ⟨first, rest, held⟩ :=
        List.exists_cons_of_ne_nil (List.ne_nil_of_mem (agrees.child member fragment there))
      rw [held]
      show Ensures (attachOneUnder target.reference first >>= fun _ => _) forest _ _
      rw [MarkupSpec.ensures_bind, attachOneUnder, ensures_bind_look isAbove,
        MarkupSpec.ensures_bind, ensures_look]
      refine ⟨fun _ _ => ?_, fun _ => trivial⟩
      rw [noDocument, Bool.false_and, if_neg Bool.false_ne_true, appendChild,
        ensures_bind_look isAbove, childless]
      show Ensures (refuseChildren above.content) forest _ _
      unfold refuseChildren
      split <;> exact trivial

/-- Once the fragment is attached, all that it held has in scope what it had before, and behind
that what the home has. -/
theorem overlaid_attach {world : World} {id : NodeId} {path : List NodeId}
    (wellFormed : world.forest.WellFormed) (chain : world.forest.Chain id path)
    (among : fragment ∈ path) (differ : id ≠ fragment)
    (isFragment : world.forest.isA Content.isFragment fragment)
    (isHome : target.home? world.forest = some home)
    (outside : fragment ∉ world.forest.lineage home) :
    Ensures (attach target fragment) world
      (fun _ after =>
        after.forest.scope id = world.forest.scope id ++ world.forest.scope home)
      fun _ _ => ¬ world.forest.IsHost home := by
  have ordered := wellFormed.ordered
  have agrees := ordered.agrees
  refine ensures_attach_at isHome fun later same _ => ?_
  rw [ensures_edit, same]
  by_cases isHost : world.forest.IsHost home
  · have apart : fragment ≠ home := by
      rintro rfl
      have inside := lt_size_of_isA isFragment
      obtain ⟨above, chain'⟩ := wellFormed.settled _ inside
      rw [chain'.lineage_eq] at outside
      exact outside (by cases chain' <;> simp)
    refine (grafts_place ordered isHome isHost (agrees.loose_of_isFragment isFragment) apart).mono
      (fun _ after grafts => ?_) fun _ _ failed => failed.elim
    exact grafts.scope wellFormed isFragment chain among differ outside isHome isHost
  · by_cases isDocument : world.forest.isA Content.isDocument home
    · exact (trades_place agrees isHome isFragment).mono
        (fun _ _ trades => trades.scope wellFormed isFragment chain among differ outside isDocument)
        fun _ _ _ => isHost
    · obtain ⟨member, -, there⟩ := chain.exists_child among differ
      have noParent : world.forest.isA Content.isParent home = false := by
        unfold IsHost at isHost
        unfold isA at isHost isDocument ⊢
        cases kind : world.forest.content? home with
        | none => rfl
        | some content =>
            cases content <;>
              simp_all [Content.isElement, Content.isFragment, Content.isDocument, Content.isParent]
      exact (refuses_place agrees isHome isFragment there noParent).mono
        (fun _ _ impossible => impossible.elim) fun _ _ _ => isHost

/-- The way up from a node ends, and the loop that gathers declarations on it ends with those in
scope at the node.  A qualifier, or the default, stands there for what the nearest of the nodes on
the way that say anything about it says, and for nothing if none does.

For a node below a fragment these declarations, laid over those of the home that the fragment comes
to, are those that are in scope once it is there.  Attaching the fragment fails only where the home
is no element and no fragment. -/
theorem gathers_nearest {id : NodeId} (wellFormed : forest.WellFormed)
    (inside : id < forest.size) :
    forest.Chain id (forest.lineage id) ∧
      (∀ gathered, forest.Gathers (some id) [] gathered ↔ gathered = forest.declarations id) ∧
      (∀ qualifier uri,
        (forest.declarations id).lookup (declarationKey qualifier) = some uri ↔
          ∃ below nearest above, forest.lineage id = below ++ nearest :: above ∧
            forest.says? nearest qualifier = some uri ∧
            ∀ other ∈ below, forest.says? other qualifier = none) ∧
      (∀ qualifier, (forest.declarations id).lookup (declarationKey qualifier) = none ↔
        ∀ other ∈ forest.lineage id, forest.says? other qualifier = none) ∧
      ∀ world target home fragment, world.forest = forest → forest.isA Content.isFragment fragment →
        fragment ∈ forest.lineage id → id ≠ fragment → target.home? forest = some home →
        fragment ∉ forest.lineage home →
        Ensures (attach target fragment) world
          (fun _ after => ∀ key, (after.forest.declarations id).lookup key =
            ((forest.declarations id).lookup key).or ((forest.declarations home).lookup key))
          fun _ _ => ¬ forest.IsHost home := by
  obtain ⟨path, chain⟩ := wellFormed.settled id inside
  obtain rfl := chain.lineage_eq
  refine ⟨chain, fun gathered => ?_, fun qualifier uri => ?_, fun qualifier => ?_, ?_⟩
  · rw [declarations, chain.scope_eq]
    exact chain.gathers_iff []
  · rw [chain.lookup_declarations, List.findSome?_eq_some_iff]
  · rw [chain.lookup_declarations, List.findSome?_eq_none_iff]
  · rintro world target home fragment rfl isFragment among differ isHome outside
    refine (overlaid_attach wellFormed chain among differ isFragment isHome outside).mono
      (fun _ after same key => ?_) fun _ _ failed => failed
    simp only [Forest.lookup_declarations, same, List.lookup_append]

end Attach

/-- An element around a text that declares a default and a qualifier, and a fragment with an element
that declares another default, from a build beside that text that has failed. -/
def gatheringRequests : List Request :=
  [.document .null,
    .markup {} (.map [(.null, .list [.text "r", .text "t"]), (.text "xmlns", .text "urn:r"),
      (.text "xmlns:p", .text "urn:p")]) (.node 0) {} (.list []),
    .markup {} (.list [.map [(.null, .list [.text "b", .text "v"]), (.text "xmlns", .text "urn:b")],
      .map [(.null, .text "x:y")]]) .null { before := .node 2 } (.list [])]

/-- The world after these requests. -/
@[irreducible]
def gatheringWorld : World := worldAfter {} gatheringRequests

theorem reached_gatheringWorld : Reached gatheringWorld := by
  unfold gatheringWorld
  exact (Reached.start rfl).requests (by decide +kernel)

/-- The place before the text. -/
def gatheringTarget : Target := { mode := .before, reference := 2 }

/-- The text in the fragment has the default of the element around it, and once the fragment is
attached also the qualifier of the element above that. -/
theorem gathers_nearest_gatheringWorld :
    gatheringWorld.forest.declarations 5 = [("xmlns", "urn:b")] ∧
    gatheringWorld.forest.declarations 1 = [("xmlns", "urn:r"), ("xmlns:p", "urn:p")] ∧
    gatheringWorld.forest.WellFormed ∧ 5 < gatheringWorld.forest.size ∧
    gatheringWorld.forest.isA Content.isFragment 3 ∧
    gatheringTarget.home? gatheringWorld.forest = some 1 ∧ gatheringWorld.forest.IsHost 1 ∧
    3 ∈ gatheringWorld.forest.lineage 5 ∧ 3 ∉ gatheringWorld.forest.lineage 1 ∧
    (∀ gathered, gatheringWorld.forest.Gathers (some 5) [] gathered ↔
      gathered = gatheringWorld.forest.declarations 5) ∧
    Ensures (attach gatheringTarget 3) gatheringWorld
      (fun _ after => ∀ key, (after.forest.declarations 5).lookup key =
        ((gatheringWorld.forest.declarations 5).lookup key).or
          ((gatheringWorld.forest.declarations 1).lookup key))
      fun _ _ => ¬ gatheringWorld.forest.IsHost 1 := by
  have wellFormed := reached_gatheringWorld.intact.wellFormed
  have inside : 5 < gatheringWorld.forest.size := by decide +kernel
  have isFragment : gatheringWorld.forest.isA Content.isFragment 3 := by decide +kernel
  have isHome : gatheringTarget.home? gatheringWorld.forest = some 1 := by decide +kernel
  have isHost : gatheringWorld.forest.IsHost 1 := .inl (by decide +kernel)
  have among : 3 ∈ gatheringWorld.forest.lineage 5 := by decide +kernel
  have outside : 3 ∉ gatheringWorld.forest.lineage 1 := by decide +kernel
  obtain ⟨-, gathers, -, -, overlaid⟩ := gathers_nearest wellFormed inside
  exact ⟨by decide +kernel, by decide +kernel, wellFormed, inside, isFragment, isHome, isHost,
    among, outside, gathers,
    overlaid _ gatheringTarget 1 3 rfl isFragment among (by decide) isHome outside⟩

end MarkupSpec
