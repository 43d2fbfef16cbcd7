import MarkupSpec.Proofs.Forest.NodeCreation
import MarkupSpec.Proofs.Forest.Splice

/-!
# Putting new nodes at a target

New nodes are put at a target one by one, or as the children of a new fragment
(`Target.Puts`).  Either way they come into the list of its home, and nothing
else that was there before is touched.

This needs a home that is no document, since a document gives up its element for another
one (`Target.Site`).
-/

namespace MarkupSpec

open Forest Edit Build

/-- Nodes are put at a target: behind the children of its home, where nothing else is
touched, or into the list of its home beside the reference. -/
def Target.Puts (target : Target) (home : NodeId) (nodes : List NodeId) (before after : Forest) :
    Prop :=
  if target.isUnder then Appends home nodes before after
  else Alters home (target.splice nodes (before.children home)) (target.gone nodes) none before after

/-- A target has a home that is no document, in a forest that is in order there. -/
structure Target.Site (target : Target) (forest : Forest) (home : NodeId) : Prop where
  isHome : target.home? forest = some home
  inside : home < forest.size
  noDocument : forest.isA Content.isDocument home = false
  agrees : forest.Agrees
  linked : forest.Linked home

section Puts

variable {target : Target} {home other node : NodeId} {nodes more : List NodeId}
  {before middle after : Forest}

/-- What leaves all there was alone adds nothing to a list. -/
theorem Forest.Intact.appends (intact : Intact before after) (inside : home < before.size) :
    Appends home [] before after where
  size := intact.size
  agrees := intact.agrees
  content := intact.content
  row := by rw [List.append_nil, intact.children home inside]
  children id known _ _ := intact.children id known
  parent id known _ := by rw [intact.parent id known, if_neg (Option.some_ne_none id).symm]
  new _ none := absurd none List.not_mem_nil
  next id known _ := intact.next id known
  previous id known _ := intact.previous id known
  linked linked := linked.elsewhere intact.source (intact.children home inside) fun id there =>
    have known := lt_size_of_parent? there
    ⟨intact.next id known, intact.previous id known⟩

/-- What happens to a list after all was left alone happens to it. -/
theorem Forest.Intact.alters {list : List NodeId} {gone emptied : Option NodeId}
    (intact : Intact before middle) (alters : Alters home list gone emptied middle after) :
    Alters home list gone emptied before after where
  size := Nat.le_trans intact.size alters.size
  agrees := alters.agrees
  content id known :=
    (alters.content id (Nat.lt_of_lt_of_le known intact.size)).trans (intact.content id known)
  row := alters.row
  children id known elsewhere notEmptied :=
    (alters.children id (Nat.lt_of_lt_of_le known intact.size) elsewhere notEmptied).trans
      (intact.children id known)
  parent id known outside := by
    rw [alters.parent id (Nat.lt_of_lt_of_le known intact.size) outside, intact.parent id known]

namespace Target

/-- A node without children is a home under which nothing has been put. -/
theorem Site.under (inside : home < before.size)
    (noDocument : before.isA Content.isDocument home = false) (agrees : before.Agrees)
    (empty : before.children home = []) : (Target.under home).Site before home where
  isHome := rfl
  inside := inside
  noDocument := noDocument
  agrees := agrees
  linked front id back split := by
    rw [empty] at split
    simp at split

/-- What is put under the home of a target comes behind its children. -/
theorem Puts.appends (puts : target.Puts home nodes before after) (isUnder : target.isUnder) :
    Appends home nodes before after := by
  unfold Puts at puts
  rw [if_pos isUnder] at puts
  exact puts

/-- Where nothing happened nothing was put. -/
theorem Puts.nothing (site : target.Site before home) : target.Puts home [] before before := by
  unfold Puts
  split
  · exact .refl site.agrees home
  · rw [gone_nil]
    exact .refl site.agrees (target.splice_nil _).symm

/-- What is done below a node that was not there before does not show. -/
theorem Puts.below (puts : target.Puts home nodes before middle) (site : target.Site before home)
    (new : before.size ≤ node) (inner : Appends node more middle after) :
    target.Puts home nodes before after := by
  unfold Puts at puts ⊢
  split
  · rename_i isUnder
    rw [if_pos isUnder] at puts
    exact puts.below site.agrees site.inside new inner
  · rename_i beside
    rw [if_neg beside] at puts
    exact puts.below site.agrees site.inside new inner

/-- After new nodes were put under a home it is still in order there. -/
theorem Site.later (site : target.Site before home) (isUnder : target.isUnder)
    (appends : Appends home nodes before after) : target.Site after home where
  isHome := by
    have isHome := site.isHome
    rw [home?, if_pos isUnder] at isHome ⊢
    exact isHome
  inside := Nat.lt_of_lt_of_le site.inside appends.size
  noDocument := by
    rw [isA, appends.content home site.inside]
    exact site.noDocument
  agrees := appends.agrees
  linked := appends.linked site.linked

theorem Site.reference (site : target.Site before home) (beside : target.isUnder = false) :
    before.parent? target.reference = some home := by
  have isHome := site.isHome
  rw [home?, beside, if_neg Bool.false_ne_true] at isHome
  exact isHome

/-- The reference was there before. -/
theorem Site.lt_size (site : target.Site before home) : target.reference < before.size := by
  by_cases isUnder : target.isUnder
  · have isHome := site.isHome
    rw [home?, if_pos isUnder] at isHome
    exact Option.some.inj isHome ▸ site.inside
  · exact lt_size_of_parent? (site.reference (by simpa using isUnder))

/-- The node that is replaced was there before. -/
theorem Site.lt_size_of_gone (site : target.Site before home) {id : NodeId}
    (isGone : target.gone nodes = some id) : id < before.size := by
  unfold gone at isGone
  split at isGone
  · exact Option.some.inj isGone ▸ site.lt_size
  · cases isGone

/-- New nodes that are not put there themselves keep their parents. -/
theorem Site.parent_new {emptied : Option NodeId} (site : target.Site before home)
    (alters : Alters home (target.splice nodes (before.children home)) (target.gone nodes) emptied
      middle after)
    {id : NodeId} (inside : id < middle.size) (new : before.size ≤ id) (other : id ∉ nodes) :
    after.parent? id = middle.parent? id := by
  have outside : id ∉ target.splice nodes (before.children home) := fun among => by
    rcases target.mem_of_mem_splice among with isNew | ⟨early, -⟩
    · exact other isNew
    · exact absurd (site.agrees.lt_size_of_mem early) (Nat.not_lt.mpr new)
  rw [alters.parent id inside outside,
    if_neg fun isGone => absurd (site.lt_size_of_gone isGone) (Nat.not_lt.mpr new)]

/-- A new node without a parent is put at a target. -/
theorem puts_attach {world : World} (site : target.Site before home)
    (fresh : Fresh before node world.forest)
    (noFragment : world.forest.isA Content.isFragment node = false) :
    Ensures (attach target node) world
      (fun _ after => target.Puts home [node] before after.forest ∧
        Alters home (target.splice [node] (before.children home)) (target.gone [node]) none
          world.forest after.forest)
      fun _ _ => True := by
  have intact := fresh.intact
  have noDocument : world.forest.isA Content.isDocument home = false := by
    rw [isA, intact.content home site.inside]
    exact site.noDocument
  have new : before.size ≤ node := Nat.le_of_eq fresh.number.symm
  have row := intact.children home site.inside
  refine ensures_attach (fun _ later _ same => ?_) fun _ _ _ => trivial
  rw [ensures_edit, same]
  unfold Puts
  split
  · rename_i isUnder
    obtain ⟨mode, reference⟩ := target
    obtain rfl : mode = .under := by simpa [Target.isUnder] using isUnder
    obtain rfl : reference = home := Option.some.inj site.isHome
    refine (joins_attachUnder intact.agrees noDocument noFragment).mono (fun _ after joins => ?_)
      fun _ _ _ => trivial
    obtain ⟨-, loose⟩ := intact.loose node new fresh.top
    have gains := joins.gains intact.agrees fresh.top (List.append_nil _).symm rfl
    refine ⟨(intact.appends site.inside).gains site.agrees new joins.fits fresh.top loose gains, ?_⟩
    have alters := gains.alters intact.agrees joins.fits fresh.top
    rw [row] at alters
    exact alters
  · rename_i beside
    have beside : target.isUnder = false := by simpa using beside
    have there := site.reference beside
    refine (alters_place_one intact.agrees noFragment fresh.top beside ?_
      ((intact.appends site.inside).linked site.linked)).mono (fun _ after alters => ?_)
      fun _ _ _ => trivial
    · rw [intact.parent _ (lt_size_of_parent? there)]
      exact there
    · rw [row] at alters
      exact ⟨intact.alters alters, alters⟩

/-- Nodes that were there before keep their parents, unless new ones replace them. -/
theorem Puts.parent_eq (puts : target.Puts home nodes before after)
    (site : target.Site before home) (new : ∀ id ∈ nodes, before.size ≤ id) {id : NodeId}
    (known : id < before.size) :
    after.parent? id = if target.gone nodes = some id then none else before.parent? id := by
  unfold Puts at puts
  split at puts
  · rename_i isUnder
    rw [puts.parent_eq site.agrees known, gone_of_isUnder isUnder, if_neg (Option.some_ne_none id).symm]
  · by_cases among : id ∈ target.splice nodes (before.children home)
    · rcases target.mem_of_mem_splice among with isNew | ⟨early, kept⟩
      · exact absurd known (Nat.not_lt.mpr (new id isNew))
      · rw [puts.agrees.parent home id (puts.row ▸ among), if_neg kept,
          site.agrees.parent home id early]
    · exact puts.parent id known among

/-- The list of the home has the nodes spliced in. -/
theorem Puts.row (puts : target.Puts home nodes before after) :
    after.children home = target.splice nodes (before.children home) := by
  unfold Puts at puts
  split at puts
  · rename_i isUnder
    obtain ⟨mode, reference⟩ := target
    obtain rfl : mode = .under := by simpa [Target.isUnder] using isUnder
    exact puts.row
  · exact puts.row

/-- The nodes are among the children of the home, in their order. -/
theorem Puts.sublist (puts : target.Puts home nodes before after) (site : target.Site before home) :
    nodes.Sublist (after.children home) := by
  rw [puts.row]
  by_cases isUnder : target.isUnder
  · obtain ⟨mode, reference⟩ := target
    obtain rfl : mode = .under := by simpa [Target.isUnder] using isUnder
    exact List.sublist_append_right _ _
  · have beside : target.isUnder = false := by simpa using isUnder
    exact target.sublist_splice beside (site.agrees.nodup home)
      (site.agrees.child _ home (site.reference beside))

/-- All the other lists stay as they are. -/
theorem Puts.children (puts : target.Puts home nodes before after) {id : NodeId}
    (known : id < before.size) (elsewhere : id ≠ home) : after.children id = before.children id := by
  unfold Puts at puts
  split at puts
  · exact puts.children id known elsewhere (Option.some_ne_none _).symm
  · exact puts.children id known elsewhere (Option.some_ne_none _).symm

theorem Puts.content (puts : target.Puts home nodes before after) {id : NodeId}
    (known : id < before.size) : after.content? id = before.content? id := by
  unfold Puts at puts
  split at puts
  · exact puts.content id known
  · exact puts.content id known

theorem Puts.size (puts : target.Puts home nodes before after) : before.size ≤ after.size := by
  unfold Puts at puts
  split at puts
  · exact puts.size
  · exact puts.size

theorem Puts.agrees (puts : target.Puts home nodes before after) : after.Agrees := by
  unfold Puts at puts
  split at puts
  · exact puts.agrees
  · exact puts.agrees

end Target

/-- What a home that is no document holds at all it holds in the place of a fragment. -/
theorem Forest.Fits.of_fragment {forest : Forest} {home other holder member : NodeId}
    (fits : forest.Fits home other) (noDocument : forest.isA Content.isDocument home = false)
    (isFragment : forest.isA Content.isFragment holder) (held : forest.Fits holder member) :
    forest.Fits home member := by
  obtain ⟨above, below, isAbove, -, holds⟩ := fits
  obtain ⟨found, child, isHolder, isMember, holds'⟩ := held
  refine ⟨above, child, isAbove, isMember, ?_⟩
  rw [isA, isAbove] at noDocument
  rw [isA, isHolder] at isFragment
  cases found with
  | fragment =>
      cases above with
      | document => cases noDocument
      | fragment | element => exact holds'
      | _ => cases holds
  | _ => cases isFragment

/-- The children of a new fragment are put beside a node. -/
theorem Target.puts_fragment {holder : NodeId} {world : World} (site : target.Site before home)
    (beside : target.isUnder = false) (nonempty : nodes ≠ []) (new : before.size ≤ holder)
    (isFragment : world.forest.isA Content.isFragment holder)
    (isHolder : before.children holder = []) (appends : Appends holder nodes before world.forest) :
    Ensures (attach target holder) world
      (fun _ after => target.Puts home nodes before after.forest ∧
        Alters home (target.splice nodes (before.children home)) (target.gone nodes) (some holder)
          world.forest after.forest)
      fun _ _ => True := by
  have there := site.reference beside
  have among := site.agrees.child _ home there
  have known := lt_size_of_parent? there
  have differ : holder ≠ home := (Nat.ne_of_lt (Nat.lt_of_lt_of_le site.inside new)).symm
  have held : world.forest.children holder = nodes := by rw [appends.row, isHolder, List.nil_append]
  have there' : world.forest.parent? target.reference = some home := by
    rw [appends.parent_eq site.agrees known]
    exact there
  refine ensures_attach (fun _ later _ same => ?_) fun _ _ _ => trivial
  rw [ensures_edit, same]
  refine (alters_place_fragment differ appends.agrees isFragment
    (appends.linked fun front id back split => ?_) beside there'
    (appends.linked_other site.agrees site.inside differ.symm site.linked) fun _ => held ▸ nonempty).mono
    (fun _ after alters => ?_) fun _ _ _ => trivial
  · rw [isHolder] at split
    simp at split
  · have row : world.forest.children home = before.children home :=
      appends.children home site.inside differ.symm (Option.some_ne_none _).symm
    rw [held, row] at alters
    refine ⟨?_, alters⟩
    unfold Puts
    rw [beside, if_neg Bool.false_ne_true]
    refine (appends.alters site.agrees new alters).of_new fun id isHolder => ?_
    cases isHolder
    exact new

end Puts

end MarkupSpec
