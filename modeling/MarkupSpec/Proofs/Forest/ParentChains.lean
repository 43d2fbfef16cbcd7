import MarkupSpec.Proofs.Forest.Growth

/-!
# Chains of parents

A chain goes from a node up to one that has no parent (`Forest.Chain`).  Where
there is one, it is the lineage of the node, for it repeats nothing and so is no
longer than the forest (`Chain.lineage_eq`).

What is in scope at a node lasts through a build (`Grows.scope`).  Its chain may
only be cut off below a document, which says nothing.
-/

namespace MarkupSpec.Forest

variable {forest : Forest} {id : NodeId} {path : List NodeId}

/-- The nodes from a node up to one without a parent, all of which exist. -/
inductive Chain (forest : Forest) : NodeId → List NodeId → Prop where
  | top {id : NodeId} (inside : id < forest.size) (top : forest.parent? id = none) :
      Chain forest id [id]
  | up {id parent : NodeId} {above : List NodeId} (there : forest.parent? id = some parent)
      (chain : Chain forest parent above) : Chain forest id (id :: above)

/-- There is a chain from the node up to one without a parent. -/
def Settled (forest : Forest) (id : NodeId) : Prop := ∃ path, forest.Chain id path

namespace Chain

theorem unique (first : forest.Chain id path) :
    ∀ {other : List NodeId}, forest.Chain id other → other = path := by
  induction first with
  | top inside top =>
      intro other second
      cases second with
      | top => rfl
      | up there chain =>
          rw [top] at there
          cases there
  | up there chain ih =>
      intro other second
      cases second with
      | top inside top =>
          rw [there] at top
          cases top
      | up there' chain' =>
          rw [there] at there'
          cases there'
          rw [ih chain']

theorem lt_size (chain : forest.Chain id path) : ∀ member ∈ path, member < forest.size := by
  induction chain with
  | top inside top =>
      intro member among
      rw [List.mem_singleton.mp among]
      exact inside
  | up there chain ih =>
      intro member among
      rcases List.mem_cons.mp among with rfl | among
      · exact lt_size_of_parent? there
      · exact ih member among

/-- Each node of a chain has a chain of its own, which is no longer. -/
theorem of_mem (chain : forest.Chain id path) : ∀ member ∈ path,
    ∃ above, forest.Chain member above ∧ above.length ≤ path.length := by
  induction chain with
  | top inside top =>
      intro member among
      rw [List.mem_singleton.mp among]
      exact ⟨_, .top inside top, Nat.le_refl _⟩
  | up there chain ih =>
      intro member among
      rcases List.mem_cons.mp among with rfl | among
      · exact ⟨_, .up there chain, Nat.le_refl _⟩
      · obtain ⟨above, chain', shorter⟩ := ih member among
        exact ⟨above, chain', Nat.le_succ_of_le shorter⟩

/-- A node that is above one of a chain is in the chain. -/
theorem parent_mem (chain : forest.Chain id path) {member parent : NodeId} (among : member ∈ path)
    (there : forest.parent? member = some parent) : parent ∈ path := by
  induction chain with
  | top inside top =>
      rw [List.mem_singleton.mp among, top] at there
      cases there
  | up there' chain ih =>
      rcases List.mem_cons.mp among with rfl | among
      · rw [there] at there'
        cases there'
        cases chain <;> simp
      · exact List.mem_cons_of_mem _ (ih among)

/-- A node is not above itself. -/
theorem not_mem_above {parent : NodeId} {above : List NodeId}
    (there : forest.parent? id = some parent) (chain : forest.Chain parent above) :
    id ∉ above := by
  intro among
  obtain ⟨other, chain', shorter⟩ := chain.of_mem id among
  rw [(Chain.up there chain).unique chain'] at shorter
  exact absurd shorter (by simp)

theorem nodup (chain : forest.Chain id path) : path.Nodup := by
  induction chain with
  | top inside top => simp
  | up there chain ih => exact List.nodup_cons.mpr ⟨not_mem_above there chain, ih⟩

theorem length_le (chain : forest.Chain id path) : path.length ≤ forest.size := by
  have subset : path ⊆ List.range forest.size := fun member among =>
    List.mem_range.mpr (chain.lt_size member among)
  simpa using chain.nodup.length_le_of_subset subset

theorem lineageWithin_eq (chain : forest.Chain id path) :
    ∀ {steps : Nat}, path.length ≤ steps + 1 → forest.lineageWithin steps id = path := by
  induction chain with
  | top inside top =>
      intro steps _
      cases steps with
      | zero => rfl
      | succ steps => simp only [lineageWithin, top]
  | up there chain ih =>
      intro steps enough
      cases steps with
      | zero =>
          cases chain with
          | top => simp at enough
          | up => simp at enough
      | succ steps =>
          simp only [lineageWithin, there]
          rw [ih (by simpa using enough)]

/-- The chain of a node is its lineage. -/
theorem lineage_eq (chain : forest.Chain id path) : forest.lineage id = path :=
  chain.lineageWithin_eq (Nat.le_succ_of_le chain.length_le)

theorem scope_eq (chain : forest.Chain id path) :
    forest.scope id = path.flatMap forest.statedAt := by
  rw [scope, chain.lineage_eq]

end Chain

theorem Settled.parent {parent : NodeId} (settled : forest.Settled id)
    (there : forest.parent? id = some parent) : forest.Settled parent := by
  obtain ⟨path, chain⟩ := settled
  cases chain with
  | top inside top =>
      rw [top] at there
      cases there
  | up there' chain =>
      rw [there] at there'
      cases there'
      exact ⟨_, chain⟩

theorem Settled.lt_size (settled : forest.Settled id) : id < forest.size := by
  obtain ⟨path, chain⟩ := settled
  cases chain with
  | top inside top => exact inside
  | up there chain => exact lt_size_of_parent? there

/-- Chains end where parents have smaller numbers. -/
theorem settled_of_descending
    (descends : ∀ id parent, forest.parent? id = some parent → parent < id) :
    ∀ id < forest.size, forest.Settled id := by
  intro id
  induction id using Nat.strongRecOn with
  | ind id ih =>
      intro inside
      cases above : forest.parent? id with
      | none => exact ⟨_, .top inside above⟩
      | some parent =>
          have less := descends id parent above
          obtain ⟨path, chain⟩ := ih parent less (Nat.lt_trans less inside)
          exact ⟨_, .up above chain⟩

/-- What is in scope at a node without a parent is what it says. -/
theorem scope_of_top (inside : id < forest.size) (top : forest.parent? id = none) :
    forest.scope id = forest.statedAt id := by
  rw [(Chain.top inside top).scope_eq]
  simp

/-- What is in scope at a node is what it says, and behind that what is in scope
at its parent. -/
theorem scope_of_parent {parent : NodeId} (there : forest.parent? id = some parent)
    (settled : forest.Settled parent) :
    forest.scope id = forest.statedAt id ++ forest.scope parent := by
  obtain ⟨above, chain⟩ := settled
  rw [(Chain.up there chain).scope_eq, chain.scope_eq]
  rfl

theorem statedAt_of_isDocument (isDocument : forest.isA Content.isDocument id) :
    forest.statedAt id = [] := by
  unfold isA at isDocument
  unfold statedAt
  split
  · rename_i tag there
    rw [there] at isDocument
    cases isDocument
  · rfl

/-! ## What lasts -/

/-- Documents have no parents. -/
def DocumentsOnTop (forest : Forest) : Prop :=
  ∀ id, forest.isA Content.isDocument id → forest.parent? id = none

/-- Each chain of parents ends, and documents are at the end. -/
structure Rooted (forest : Forest) : Prop where
  settled : ∀ id < forest.size, forest.Settled id
  onTop : forest.DocumentsOnTop

variable {before after : Forest}

/-- A chain that is cut off at most below a document says as much as before. -/
theorem Chain.later (onTop : before.DocumentsOnTop) (size : before.size ≤ after.size)
    (chain : before.Chain id path)
    (kept : ∀ member ∈ path, after.parent? member = before.parent? member ∨
      after.parent? member = none ∧
        ∃ document, before.parent? member = some document ∧
          before.isA Content.isDocument document)
    (stated : ∀ member ∈ path, after.statedAt member = before.statedAt member) :
    after.Settled id ∧ after.scope id = before.scope id := by
  rw [chain.scope_eq]
  induction chain with
  | top inside top =>
      rename_i id
      have stillTop : after.parent? id = none := by
        rcases kept id (by simp) with same | ⟨gone, -⟩
        · exact same.trans top
        · exact gone
      have inside' : id < after.size := Nat.lt_of_lt_of_le inside size
      refine ⟨⟨_, .top inside' stillTop⟩, ?_⟩
      rw [scope_of_top inside' stillTop, stated id (by simp)]
      simp
  | up there chain ih =>
      rename_i id parent above
      obtain ⟨settled, same⟩ := ih (fun member among => kept member (by simp [among]))
        fun member among => stated member (by simp [among])
      have inside : id < after.size := Nat.lt_of_lt_of_le (lt_size_of_parent? there) size
      rcases kept id (by simp) with stays | ⟨gone, document, there', isDocument⟩
      · have there' := stays.trans there
        obtain ⟨path, chain'⟩ := settled
        refine ⟨⟨_, .up there' chain'⟩, ?_⟩
        rw [scope_of_parent there' ⟨path, chain'⟩, same, stated id (by simp)]
        rfl
      · rw [there] at there'
        cases there'
        refine ⟨⟨_, .top inside gone⟩, ?_⟩
        have alone : above = [parent] := by
          have top := onTop parent isDocument
          cases chain with
          | top => rfl
          | up there' =>
              rw [top] at there'
              cases there'
        rw [scope_of_top inside gone, stated id (by simp), alone]
        simp [statedAt_of_isDocument isDocument]

/-- What an element says depends on its tag, which lasts. -/
theorem statedAt_eq_of_lasting {member : NodeId}
    (same : (after.content? member).map Content.lasting =
      (before.content? member).map Content.lasting) :
    after.statedAt member = before.statedAt member := by
  unfold statedAt
  cases atEnd : after.content? member <;> cases atStart : before.content? member <;>
    simp only [atEnd, atStart, Option.map_some, Option.map_none, reduceCtorEq,
      Option.some.injEq] at same
  · rfl
  · rename_i content content'
    cases content <;> cases content' <;> simp_all [Content.lasting]

theorem Grows.onTop {spared : NodeId → Prop} (grows : Grows spared before after)
    (onTop : before.DocumentsOnTop) : after.DocumentsOnTop := by
  intro id isDocument
  rw [grows.isDocument] at isDocument
  exact grows.parent_none (lt_size_of_isA isDocument) (onTop id isDocument)

/-- What is in scope at a node lasts, unless a node above it is spared. -/
theorem Grows.scope {spared : NodeId → Prop} (grows : Grows spared before after)
    (onTop : before.DocumentsOnTop) (chain : before.Chain id path)
    (kept : ∀ member ∈ path, spared member → before.parent? member = none) :
    after.Settled id ∧ after.scope id = before.scope id := by
  refine chain.later onTop grows.size (fun member among => ?_) fun member among =>
    statedAt_eq_of_lasting (grows.content member (chain.lt_size member among))
  have inside := chain.lt_size member among
  rcases grows.parent member inside with same | ⟨gone, isSpared | below⟩
  · exact .inl same
  · exact .inl (gone.trans (kept member among isSpared).symm)
  · exact .inr ⟨gone, below⟩

end MarkupSpec.Forest
