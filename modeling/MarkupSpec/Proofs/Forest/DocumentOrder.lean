import MarkupSpec.Proofs.Session.WellNamed

/-!
# Document order

A node comes before those below it, and before those that are below a later sibling of
it or of a node above it (`Forest.Precedes`).  Nodes that are listed each with what
is below it right behind it are in this order, if the outermost of them are children of
one node in their order (`Arranged.pairwise`).
-/

namespace MarkupSpec.Forest

/-- The first node comes before the second one in document order. -/
inductive Precedes (forest : Forest) (first second : NodeId) : Prop where
  /-- The second node is below the first one. -/
  | below {child : NodeId} (among : child ∈ forest.children first)
      (reaches : forest.Reaches child second)
  /-- The nodes are, or are below, two children of one node in this order. -/
  | beside {home left right : NodeId} (inOrder : [left, right].Sublist (forest.children home))
      (first : forest.Reaches left first) (second : forest.Reaches right second)

/-- Nodes in document order, with the outermost of them.  Behind a node come those that
are listed for its children, if any are. -/
inductive Arranged (forest : Forest) : List NodeId → List NodeId → Prop where
  | nothing : Arranged forest [] []
  | single (id : NodeId) : Arranged forest [id] [id]
  | element (id : NodeId) {inner : List NodeId} (inside : Arranged forest (forest.children id) inner) :
      Arranged forest [id] (id :: inner)
  | next {outermost outermost' nodes nodes' : List NodeId} (first : Arranged forest outermost nodes)
      (rest : Arranged forest outermost' nodes') :
      Arranged forest (outermost ++ outermost') (nodes ++ nodes')

variable {forest before after : Forest} {top middle id home : NodeId}
  {outermost nodes : List NodeId}

theorem Reaches.trans (above : forest.Reaches top middle) (below : forest.Reaches middle id) :
    forest.Reaches top id := by
  induction below with
  | here => exact above
  | child _ among ih => exact ih.child among

namespace Arranged

/-- Every node is below one of the outermost nodes, or is one. -/
theorem reached (arranged : Arranged forest outermost nodes) :
    ∀ id ∈ nodes, ∃ top ∈ outermost, forest.Reaches top id := by
  induction arranged with
  | nothing => exact fun _ none => absurd none List.not_mem_nil
  | single top => exact fun id among => ⟨top, by simp, List.mem_singleton.mp among ▸ .here⟩
  | element top _ ih =>
      intro id among
      refine ⟨top, by simp, ?_⟩
      rcases List.mem_cons.mp among with rfl | inside
      · exact .here
      · obtain ⟨child, among, reaches⟩ := ih id inside
        exact (Reaches.here.child among).trans reaches
  | next _ _ ih ih' =>
      intro id among
      rcases List.mem_append.mp among with inside | inside
      · obtain ⟨top, among, reaches⟩ := ih id inside
        exact ⟨top, List.mem_append_left _ among, reaches⟩
      · obtain ⟨top, among, reaches⟩ := ih' id inside
        exact ⟨top, List.mem_append_right _ among, reaches⟩

theorem outermost_subset (arranged : Arranged forest outermost nodes) : outermost ⊆ nodes := by
  induction arranged with
  | nothing | single => exact List.Subset.refl _
  | element top _ _ => simp
  | next _ _ ih ih' =>
      exact List.append_subset.mpr ⟨List.subset_append_of_subset_left _ ih,
        List.subset_append_of_subset_right _ ih'⟩

/-- The nodes are in document order, if the outermost of them are children of one node in
their order. -/
theorem pairwise (arranged : Arranged forest outermost nodes) :
    ∀ home, outermost.Sublist (forest.children home) → nodes.Pairwise forest.Precedes := by
  induction arranged with
  | nothing => exact fun _ _ => .nil
  | single => exact fun _ _ => List.pairwise_singleton _ _
  | element top inside ih =>
      refine fun home _ => .cons (fun id among => ?_) (ih top (.refl _))
      obtain ⟨child, isChild, reaches⟩ := inside.reached id among
      exact .below isChild reaches
  | @next outermost outermost' nodes nodes' first rest ih ih' =>
      intro home inOrder
      have inFront := (List.sublist_append_left outermost outermost').trans inOrder
      have behind := (List.sublist_append_right outermost outermost').trans inOrder
      refine List.pairwise_append.mpr ⟨ih home inFront, ih' home behind, ?_⟩
      intro id among id' among'
      obtain ⟨top, isTop, reaches⟩ := first.reached id among
      obtain ⟨top', isTop', reaches'⟩ := rest.reached id' among'
      have pair : [top, top'].Sublist (outermost ++ outermost') :=
        (List.singleton_sublist.mpr isTop).append (List.singleton_sublist.mpr isTop')
      exact .beside (pair.trans inOrder) reaches reaches'

/-- What is arranged stays so while the nodes keep their children. -/
theorem later (arranged : Arranged before outermost nodes)
    (same : ∀ id ∈ nodes, after.children id = before.children id) :
    Arranged after outermost nodes := by
  induction arranged with
  | nothing => exact .nothing
  | single id => exact .single id
  | element id _ ih =>
      refine .element id ?_
      rw [same id (by simp)]
      exact ih fun other among => same other (List.mem_cons_of_mem _ among)
  | next _ _ ih ih' =>
      exact .next (ih fun id among => same id (List.mem_append_left _ among))
        (ih' fun id among => same id (List.mem_append_right _ among))

end Arranged

/-- The last of some nodes in document order comes behind all the others. -/
theorem precedes_getLast? {last : NodeId} (ordered : nodes.Pairwise forest.Precedes)
    (isLast : nodes.getLast? = some last) (among : id ∈ nodes) (other : id ≠ last) :
    forest.Precedes id last := by
  obtain ⟨front, rfl⟩ := List.getLast?_eq_some_iff.mp isLast
  have inFront : id ∈ front := by simpa [other] using among
  exact (List.pairwise_append.mp ordered).2.2 id inFront last (by simp)

end MarkupSpec.Forest
