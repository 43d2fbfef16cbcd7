import MarkupSpec.Proofs.Forest.NodeAttachment

/-!
# Rows of children

The children of a node are a row if each of them is linked to its neighbours in the
list (`Forest.Linked`).  A row stays a row when a part of it is exchanged and its two
ends are linked to what is between them then (`Linked.relinked`).  That is what
putting a node in, taking one out and putting one in the place of another do.

A document does not close the gap when a child leaves it by itself, so that its
children are no row then.  Whether the gap is closed is said apart (`Forest.Closes`).
-/

namespace MarkupSpec

open Edit

namespace Forest

/-- The children of a node are linked to their neighbours in its list. -/
def Linked (forest : Forest) (home : NodeId) : Prop :=
  ∀ front id back, forest.children home = front ++ id :: back →
    forest.next? id = back.head? ∧ forest.previous? id = front.getLast?

/-- The neighbours of a node that leaves are linked to each other. -/
structure Closes (node : NodeId) (before after : Forest) : Prop where
  next : ∀ id < before.size, after.next? id =
    if id = node then none
    else if before.previous? node = some id then before.next? node else before.next? id
  previous : ∀ id < before.size, after.previous? id =
    if id = node then none
    else if before.next? node = some id then before.previous? node else before.previous? id

/-! ## Cuts of a list without repetitions -/

section Cuts

variable {list front back front' back' between : List NodeId} {id first second : NodeId}

/-- A list is cut in front of a member in one way only. -/
theorem cut_unique (distinct : list.Nodup) (cut : list = front ++ back)
    (cut' : list = front' ++ back') (same : back.head? = back'.head?) :
    front = front' ∧ back = back' := by
  subst cut
  induction front generalizing front' with
  | nil =>
      cases front' with
      | nil => exact ⟨rfl, cut'⟩
      | cons first rest =>
          -- The first member would be among those behind it.
          rw [List.nil_append] at cut'
          subst cut'
          have among : first ∈ back' := List.mem_of_head? same.symm
          simp only [List.nil_append, List.cons_append, List.nodup_cons, List.mem_append] at distinct
          exact absurd (.inr among) distinct.1
  | cons first rest ih =>
      rw [List.cons_append, List.nodup_cons, List.mem_append] at distinct
      cases front' with
      | nil =>
          rw [List.nil_append, List.cons_append] at cut'
          subst cut'
          exact absurd (.inr (List.mem_of_head? same)) distinct.1
      | cons first' rest' =>
          simp only [List.cons_append, List.cons.injEq] at cut'
          obtain ⟨rfl, cut'⟩ := cut'
          obtain ⟨rfl, rfl⟩ := ih distinct.2 cut'
          exact ⟨rfl, rfl⟩

/-- A list is cut around a member in one way only. -/
theorem cut_around (distinct : list.Nodup) (cut : list = front ++ id :: back)
    (cut' : list = front' ++ id :: back') : front = front' ∧ back = back' := by
  obtain ⟨isFront, isBack⟩ := cut_unique distinct cut cut' rfl
  exact ⟨isFront, (List.cons.inj isBack).2⟩

/-- A cut of a list that is put together is in front of the seam or behind it. -/
theorem cut_append (split : front ++ back = front' ++ id :: back') :
    (∃ between, front = front' ++ id :: between ∧ back' = between ++ back) ∨
      ∃ between, front' = front ++ between ∧ back = between ++ id :: back' := by
  rcases List.append_eq_append_iff.mp split with ⟨between, isFront, isBack⟩ | ⟨between, isFront, cut⟩
  · exact .inr ⟨between, isFront, isBack⟩
  · cases between with
    | nil => exact .inr ⟨[], by simpa using isFront.symm, by simpa using cut.symm⟩
    | cons first rest =>
        cases cut
        exact .inl ⟨rest, isFront, rfl⟩

theorem ne_of_nodup (distinct : (front ++ first :: (between ++ second :: back)).Nodup) :
    first ≠ second := by
  rw [List.nodup_middle, List.nodup_cons] at distinct
  rintro rfl
  exact distinct.1 (by simp)

/-- A member is the last one if nothing is behind it. -/
theorem getLast?_eq_iff (distinct : (front ++ id :: back).Nodup) :
    (front ++ id :: back).getLast? = some id ↔ back = [] := by
  rcases List.eq_nil_or_concat' back with rfl | ⟨others, last, rfl⟩
  · simp
  · have differ : id ≠ last := ne_of_nodup distinct
    rw [← List.cons_append, ← List.append_assoc, List.getLast?_concat]
    simp [differ.symm]

/-- A member is the first one if nothing is in front of it. -/
theorem head?_eq_iff (distinct : (front ++ id :: back).Nodup) :
    (front ++ id :: back).head? = some id ↔ front = [] := by
  cases front with
  | nil => simp
  | cons first others =>
      rw [← List.nil_append (first :: others), List.append_assoc] at distinct
      have differ : first ≠ id := ne_of_nodup distinct
      simp [differ]

end Cuts

/-- A fragment is no document. -/
theorem isDocument_of_isFragment {forest : Forest} {id : NodeId}
    (isFragment : forest.isA Content.isFragment id) :
    forest.isA Content.isDocument id = false := by
  unfold isA at isFragment ⊢
  cases found : forest.content? id with
  | none => rfl
  | some content =>
      rw [found] at isFragment
      cases content <;> first | rfl | cases isFragment

/-- An element is no document. -/
theorem isDocument_of_isElement {forest : Forest} {id : NodeId}
    (isElement : forest.isA Content.isElement id) :
    forest.isA Content.isDocument id = false := by
  unfold isA at isElement ⊢
  cases found : forest.content? id with
  | none => rfl
  | some content =>
      rw [found] at isElement
      cases content <;> first | rfl | cases isElement

variable {before after : Forest} {home node old new : NodeId}
  {front back : List NodeId}

/-! ## Rows stay rows -/

/-- A row stays a row when a part of it is exchanged and linked to the rest. -/
theorem Linked.relinked (linked : before.Linked home) (front middle middle' back : List NodeId)
    (distinct : (before.children home).Nodup)
    (was : before.children home = front ++ middle ++ back)
    (now : after.children home = front ++ middle' ++ back)
    (next : ∀ id ∈ front ++ back, after.next? id =
      if front.getLast? = some id then (middle' ++ back).head? else before.next? id)
    (previous : ∀ id ∈ front ++ back, after.previous? id =
      if back.head? = some id then (front ++ middle').getLast? else before.previous? id)
    (between : ∀ ahead id behind, middle' = ahead ++ id :: behind →
      after.next? id = (behind ++ back).head? ∧ after.previous? id = (front ++ ahead).getLast?) :
    after.Linked home := by
  rw [was] at distinct
  have disjoint {id : NodeId} (inFront : id ∈ front) (inBack : id ∈ back) : False := by
    rw [List.append_assoc] at distinct
    exact List.disjoint_of_nodup_append distinct inFront (List.mem_append_right _ inBack)
  intro ahead id behind split
  rw [now, List.append_assoc] at split
  rcases cut_append split with ⟨rest, rfl, rfl⟩ | ⟨rest, rfl, cut⟩
  · -- The member is in front of the part.
    have notFirst : back.head? ≠ some id := fun first =>
      disjoint (by simp) (List.mem_of_head? first)
    have isLast := getLast?_eq_iff (distinct.of_append_left.of_append_left)
    obtain ⟨next', previous'⟩ := linked ahead id (rest ++ (middle ++ back)) (by simp [was])
    rw [next id (by simp), previous id (by simp), if_neg notFirst, previous', next']
    refine ⟨?_, rfl⟩
    cases rest with
    | nil => rw [if_pos (isLast.mpr rfl), List.nil_append]
    | cons second others =>
        rw [if_neg fun last => by cases isLast.mp last]
        rfl
  · rcases cut_append cut with ⟨rest', rfl, rfl⟩ | ⟨rest', rfl, rfl⟩
    · exact between rest id rest' rfl
    · -- The member is behind the part.
      have notLast : front.getLast? ≠ some id := fun last =>
        disjoint (List.mem_of_getLast? last) (by simp)
      have isFirst := head?_eq_iff (distinct.of_append_right)
      obtain ⟨next', previous'⟩ := linked (front ++ middle ++ rest') id behind (by simp [was])
      rw [next id (by simp), previous id (by simp), if_neg notLast, next', previous']
      refine ⟨rfl, ?_⟩
      rcases List.eq_nil_or_concat' rest' with rfl | ⟨others, last, rfl⟩
      · rw [if_pos (isFirst.mpr rfl), List.append_nil]
      · rw [if_neg fun first => absurd (isFirst.mp first) (by simp)]
        simp

/-- A row stays one if a node is put into it. -/
theorem Linked.gains (linked : before.Linked home) (agrees : before.Agrees)
    (top : before.parent? node = none) (loose : before.previous? node = none)
    (gains : Gains home node front back before after) : after.Linked home := by
  have differ {id : NodeId} (among : id ∈ front ++ back) : id ≠ node := by
    rintro rfl
    rw [← gains.split] at among
    rw [agrees.parent home id among] at top
    cases top
  refine linked.relinked front [] [node] back (agrees.nodup home)
    (by simp [gains.split]) (by simp [gains.children]) (fun id among => ?_) (fun id among => ?_)
    fun ahead id behind split => ?_
  · rw [gains.next, if_neg (differ among)]
    rfl
  · rw [gains.previous loose, if_neg (differ among), List.getLast?_concat]
  · obtain ⟨rfl, rfl, rfl⟩ : ahead = [] ∧ id = node ∧ behind = [] := by
      simpa [List.singleton_eq_append_iff] using split
    rw [gains.next, gains.previous loose, if_pos rfl, if_pos rfl]
    simp

/-- A row stays one if a node is taken out of it and the gap is closed. -/
theorem Linked.loses (linked : before.Linked home) (agrees : before.Agrees)
    (loses : Loses home node front back before after) (closes : Closes node before after) :
    after.Linked home := by
  obtain ⟨next, previous⟩ := linked front node back loses.split
  have distinct := agrees.nodup home
  rw [loses.split, List.nodup_middle, List.nodup_cons] at distinct
  have differ {id : NodeId} (among : id ∈ front ++ back) : id ≠ node := by
    rintro rfl
    exact distinct.1 among
  have known {id : NodeId} (among : id ∈ front ++ back) : id < before.size := by
    have listed : id ∈ before.children home := by
      rw [loses.split]
      simpa [differ among] using among
    exact agrees.lt_size_of_mem listed
  refine linked.relinked front [node] [] back (agrees.nodup home)
    (by simp [loses.split]) (by simp [loses.children]) (fun id among => ?_) (fun id among => ?_)
    fun ahead id behind split => by simp at split
  · rw [closes.next id (known among), if_neg (differ among), next, previous]
    rfl
  · rw [closes.previous id (known among), if_neg (differ among), next, previous, List.append_nil]

/-- The other members of the row are neither of the two nodes. -/
theorem Swaps.others (swaps : Swaps home new old front back before after) (agrees : before.Agrees)
    (top : before.parent? new = none) {id : NodeId} (among : id ∈ front ++ back) :
    id < before.size ∧ id ≠ new ∧ id ≠ old := by
  have distinct := agrees.nodup home
  rw [swaps.split, List.nodup_middle, List.nodup_cons] at distinct
  have notOld : id ≠ old := by
    rintro rfl
    exact distinct.1 among
  have listed : id ∈ before.children home := by
    rw [swaps.split]
    simpa [notOld] using among
  refine ⟨agrees.lt_size_of_mem listed, ?_, notOld⟩
  rintro rfl
  rw [agrees.parent home id listed] at top
  cases top

/-- The neighbours of a member are other members. -/
theorem Swaps.apart (swaps : Swaps home new old front back before after) (agrees : before.Agrees)
    (linked : before.Linked home) (top : before.parent? new = none) :
    ∀ id, before.previous? old = some id ∨ before.next? old = some id → id ≠ new ∧ id ≠ old := by
  obtain ⟨next, previous⟩ := linked front old back swaps.split
  rw [next, previous]
  rintro id (last | first)
  · exact (swaps.others agrees top (List.mem_append_left _ (List.mem_of_getLast? last))).2
  · exact (swaps.others agrees top (List.mem_append_right _ (List.mem_of_head? first))).2

/-- A row stays one if a node takes the place of a member. -/
theorem Linked.swaps (linked : before.Linked home) (agrees : before.Agrees)
    (top : before.parent? new = none) (differ : new ≠ old) (inside : new < before.size)
    (swaps : Swaps home new old front back before after) : after.Linked home := by
  obtain ⟨next, previous⟩ := linked front old back swaps.split
  have apart := swaps.apart agrees linked top
  refine linked.relinked front [old] [new] back (agrees.nodup home)
    (by simp [swaps.split]) (by simp [swaps.children]) (fun id among => ?_) (fun id among => ?_)
    fun ahead id behind split => ?_
  · obtain ⟨known, notNew, notOld⟩ := swaps.others agrees top among
    rw [swaps.next apart id known, if_neg notOld, if_neg notNew, previous]
    rfl
  · obtain ⟨known, notNew, notOld⟩ := swaps.others agrees top among
    rw [swaps.previous apart id known, if_neg notOld, if_neg notNew, next, List.getLast?_concat]
  · obtain ⟨rfl, rfl, rfl⟩ : ahead = [] ∧ id = new ∧ behind = [] := by
      simpa [List.singleton_eq_append_iff] using split
    rw [swaps.next apart id inside, swaps.previous apart id inside, if_neg differ, if_neg differ,
      if_pos rfl, if_pos rfl]
    simpa using ⟨next, previous⟩

/-- A row stays one if neither its list nor the links of its members change. -/
theorem Linked.elsewhere (linked : before.Linked home) (agrees : before.Agrees)
    (same : after.children home = before.children home)
    (links : ∀ id, before.parent? id = some home →
      after.next? id = before.next? id ∧ after.previous? id = before.previous? id) :
    after.Linked home := by
  intro front id back split
  rw [same] at split
  obtain ⟨next, previous⟩ := links id (agrees.parent home id (by simp [split]))
  rw [next, previous]
  exact linked front id back split

/-! ## Other rows -/

section Others

variable {id : NodeId}

/-- Putting a node in touches the links of its home only. -/
theorem Gains.links_other (gains : Gains home node front back before after)
    (agrees : before.Agrees) (loose : before.previous? node = none) (differ : id ≠ node)
    (elsewhere : before.parent? id ≠ some home) :
    after.next? id = before.next? id ∧ after.previous? id = before.previous? id := by
  have apart (among : id ∈ front ++ back) : False :=
    elsewhere (agrees.parent home id (gains.split ▸ among))
  have notLast : front.getLast? ≠ some id := fun last =>
    apart (List.mem_append_left _ (List.mem_of_getLast? last))
  have notFirst : back.head? ≠ some id := fun first =>
    apart (List.mem_append_right _ (List.mem_of_head? first))
  rw [gains.next, gains.previous loose, if_neg differ, if_neg differ, if_neg notLast,
    if_neg notFirst]
  exact ⟨rfl, rfl⟩

/-- Taking a node out of a row touches the links of that row only. -/
theorem Loses.links_other (loses : Loses home node front back before after)
    (agrees : before.Agrees) (linked : before.Linked home) (closes : Closes node before after)
    (known : id < before.size) (differ : id ≠ node) (elsewhere : before.parent? id ≠ some home) :
    after.next? id = before.next? id ∧ after.previous? id = before.previous? id := by
  obtain ⟨next, previous⟩ := linked front node back loses.split
  have apart (among : id ∈ front ++ node :: back) : False :=
    elsewhere (agrees.parent home id (loses.split ▸ among))
  have notLast : front.getLast? ≠ some id := fun last =>
    apart (List.mem_append_left _ (List.mem_of_getLast? last))
  have notFirst : back.head? ≠ some id := fun first =>
    apart (List.mem_append_right _ (List.mem_cons_of_mem _ (List.mem_of_head? first)))
  rw [closes.next id known, closes.previous id known, if_neg differ, if_neg differ, next, previous,
    if_neg notLast, if_neg notFirst]
  exact ⟨rfl, rfl⟩

/-- Taking the place of a member touches the links of its row only. -/
theorem Swaps.links_other (swaps : Swaps home new old front back before after)
    (agrees : before.Agrees) (linked : before.Linked home) (top : before.parent? new = none)
    (known : id < before.size) (notNew : id ≠ new) (elsewhere : before.parent? id ≠ some home) :
    after.next? id = before.next? id ∧ after.previous? id = before.previous? id := by
  obtain ⟨next, previous⟩ := linked front old back swaps.split
  have apart (among : id ∈ front ++ old :: back) : False :=
    elsewhere (agrees.parent home id (swaps.split ▸ among))
  have notOld : id ≠ old := fun same => apart (by simp [same])
  have notLast : front.getLast? ≠ some id := fun last =>
    apart (List.mem_append_left _ (List.mem_of_getLast? last))
  have notFirst : back.head? ≠ some id := fun first =>
    apart (List.mem_append_right _ (List.mem_cons_of_mem _ (List.mem_of_head? first)))
  have distant := swaps.apart agrees linked top
  rw [swaps.next distant id known, swaps.previous distant id known, if_neg notOld, if_neg notOld,
    if_neg notNew, if_neg notNew, next, previous, if_neg notLast, if_neg notFirst]
  exact ⟨rfl, rfl⟩

end Others

/-! ## Closing gaps -/

/-- Only a document leaves the gap open. -/
theorem Loses.closes (loses : Loses home node front back before after)
    (noDocument : before.isA Content.isDocument home = false) : Closes node before after where
  next := loses.next noDocument
  previous := loses.previous noDocument

end Forest

namespace Edit

open Forest

/-- Taking a child out the closing way closes the gap, under a document too. -/
theorem ensures_removeClosing_closes {forest : Forest} {home child : NodeId}
    (agrees : forest.Agrees) :
    Ensures (removeClosing home child) forest (fun _ after => Closes child forest after)
      fun _ _ => True := by
  rw [removeClosing, ensures_bind, ensures_look]
  refine ⟨fun node there => ?_, fun _ => trivial⟩
  have homeInside := node?_isSome_iff.mp (Option.isSome_iff_exists.mpr ⟨node, there⟩)
  rw [← children_of_node? there]
  split
  · rename_i among
    have inside := agrees.lt_size_of_mem among
    obtain ⟨front, back, split, other, -⟩ := agrees.split_of_mem among
    rw [ensures_bind]
    refine ensures_closeGap.mono (fun _ middle closed => ?_) fun _ _ _ => trivial
    obtain ⟨shape, next, previous⟩ := closed
    have split' : middle.children home = front ++ child :: back := by rw [shape.children, split]
    refine (ensures_unlink split' other (shape.size ▸ inside) (shape.size ▸ homeInside)).mono
      (fun _ after unlinked => ?_) fun _ _ impossible => impossible.elim
    obtain ⟨-, -, -, -, next', previous'⟩ := unlinked
    exact
      { next := fun id inside => by rw [next', next id inside]
        previous := fun id inside => by rw [previous', previous id inside] }
  · trivial

end Edit

end MarkupSpec
