import MarkupSpec.Proofs.Build.OutermostNodes
import MarkupSpec.Proofs.Forest.DocumentOrder

/-!
# What a build returns

A build gives the last node, in document order, of those that it made in the tree that
it builds into, and what it goes by if it made none (`compile_returns`).  Of a copy
only the topmost node counts.

Besides these nodes a build makes only fragments, which are left without a place and
without children.
-/

namespace MarkupSpec

open Forest Edit Build

/-- The nodes that are made at the visits, those of element maps and those without
parts. -/
def builtIn (scene : Scene) (visits : List Visit) : List NodeId :=
  visits.filterMap fun visit => visit.built? scene

/-- A visit makes the second node as part of a copy, below the first one. -/
def Visit.Includes (scene : Scene) (visit : Visit) (copy id : NodeId) : Prop :=
  ∃ node world made, visit.part? scene = some (.existing node, world) ∧
    makeLeaf scene visit.place.path (.existing node) world = .ok copy made ∧
    copy < id ∧ id < made.forest.size

section Built

variable {scene : Scene} {visit : Visit} {visits more : List Visit} {copy id : NodeId}

theorem builtIn_append :
    builtIn scene (visits ++ more) = builtIn scene visits ++ builtIn scene more :=
  List.filterMap_append

theorem builtIn_cons :
    builtIn scene (visit :: visits) = (visit.built? scene).toList ++ builtIn scene visits := by
  unfold builtIn
  rw [List.filterMap_cons]
  cases visit.built? scene <;> rfl

/-- The node on top of a copy is one of those that are made. -/
theorem Visit.Includes.mem_builtIn (includes : visit.Includes scene copy id) (among : visit ∈ visits) :
    copy ∈ builtIn scene visits := by
  obtain ⟨node, world, made, part, makes, -⟩ := includes
  exact List.mem_filterMap.mpr ⟨visit, among, built?_of_leaf part rfl makes⟩

theorem Visit.Includes.not_made {made : Made} {after : World}
    (isMade : visit.made? scene = some (made, after)) : ¬ visit.Includes scene copy id := by
  rintro ⟨node, world, _, part, -⟩
  rw [made?_of_part? part fun _ _ _ => nofun] at isMade
  cases isMade

end Built

/-- The nodes that were made are in document order, the last of them is given, and all
the other new nodes are parts of copies or have no place. -/
structure Orders (scene : Scene) (level : Nat) (before : Forest) (visits : List Visit)
    (last : Option NodeId) (after : Forest) : Prop where
  size : before.size ≤ after.size
  arranged : Arranged after (builtAt scene level visits) (builtIn scene visits)
  last : last = (builtIn scene visits).getLast?
  new : ∀ id ∈ builtIn scene visits, before.size ≤ id ∧ id < after.size
  included : ∀ visit ∈ visits, ∀ copy id, visit.Includes scene copy id →
    (before.size ≤ id ∧ id < after.size ∧ id ∉ builtIn scene visits) ∧
      ∃ home, after.parent? id = some home ∧ copy ≤ home ∧ home < id
  covered : ∀ id, before.size ≤ id → id < after.size → id ∈ builtIn scene visits ∨
    (∃ visit ∈ visits, ∃ copy, visit.Includes scene copy id) ∨ after.parent? id = none

namespace Orders

variable {scene : Scene} {visit : Visit} {visits more : List Visit} {level : Nat}
  {home node : NodeId} {target : Target} {before middle after : Forest} {last later : Option NodeId}

/-- Where nothing is made nothing is new. -/
theorem nothing (none : visit.part? scene = none) : Orders scene level before [visit] .none before where
  size := Nat.le_refl _
  arranged := by
    simp only [builtAt, builtIn, List.filterMap_cons, Visit.built?_of_none none, ite_self,
      List.filterMap_nil]
    exact .nothing
  last := by simp [builtIn, Visit.built?_of_none none]
  new := by simp [builtIn, Visit.built?_of_none none]
  included other among copy id includes := by
    obtain ⟨_, _, _, part, -⟩ := includes
    rw [List.mem_singleton.mp among, none] at part
    cases part
  covered id new inside := absurd inside (Nat.not_lt.mpr new)

/-- Where nothing is visited nothing is made. -/
theorem done (level : Nat) (before : Forest) : Orders scene level before [] .none before where
  size := Nat.le_refl _
  arranged := .nothing
  last := rfl
  new _ among := absurd among List.not_mem_nil
  included _ among := absurd among List.not_mem_nil
  covered _ new inside := absurd inside (Nat.not_lt.mpr new)

/-- A node without parts, or a copy with what is below it, is put at the target. -/
theorem leaf {spec : Spec} {world made after : World}
    (site : visit.place.target.Site world.forest home)
    (part : visit.part? scene = some (spec, world)) (isLeaf : spec.isLeaf)
    (simple : visit.isSimple scene)
    (makes : makeLeaf scene visit.place.path spec world = .ok node made)
    (attaches : attach visit.place.target node made = .ok () after) :
    Orders scene visit.enclosing.length world.forest [visit] (some node) after.forest := by
  obtain ⟨fresh, -, alters⟩ := Visit.puts_of_leaf site part simple makes attaches
  have size := ((lasts_attach visit.place.target node made).of_ok attaches).1
  have isBuilt := Visit.built?_of_leaf part isLeaf makes
  have list : builtIn scene [visit] = [node] := by simp [builtIn, isBuilt]
  have top : builtAt scene visit.enclosing.length [visit] = [node] := by simp [builtAt, isBuilt]
  refine
    { size := size ▸ fresh.intact.size, arranged := by rw [list, top]; exact .single node
      last := by simp [list]
      new := fun id among => ?_, included := fun other among copy id includes => ?_
      covered := fun id new inside => ?_ }
  · rw [list, List.mem_singleton] at among
    rw [among]
    exact ⟨Nat.le_of_eq fresh.number.symm, size ▸ fresh.inside⟩
  · obtain ⟨original, world', made', part', makes', above, inside⟩ := includes
    rw [List.mem_singleton.mp among] at part' makes'
    cases part.symm.trans part'
    cases makes.symm.trans makes'
    have new : world.forest.size ≤ id := fresh.number ▸ Nat.le_of_lt above
    have other : id ∉ [node] := fun same => by
      rw [List.mem_singleton.mp same] at above
      exact Nat.lt_irrefl _ above
    obtain ⟨home, there⟩ := fresh.held id above inside
    obtain ⟨inHome, lower⟩ := fresh.intact.under id home new there
    refine ⟨⟨new, size ▸ inside, list ▸ other⟩, home, ?_, fresh.number ▸ inHome, lower⟩
    rw [site.parent_new alters inside new other, there]
  · rw [size] at inside
    rcases Nat.eq_or_lt_of_le new with same | above
    · exact .inl (by rw [list, ← same, fresh.number]; simp)
    · rw [← fresh.number] at above
      by_cases copied : ∃ original, spec = .existing original
      · obtain ⟨original, rfl⟩ := copied
        exact .inr (.inl ⟨visit, by simp, node, original, world, made, part, makes, above, inside⟩)
      · -- Nothing else than the node was made.
        obtain ⟨-, number, content, -, added⟩ := (addsLeaf_makeLeaf scene visit.place.path
          (fun original same => copied ⟨original, same⟩) world).of_ok makes
        rw [added, size_add, ← number] at inside
        exact absurd above (Nat.not_lt.mpr (Nat.le_of_lt_succ inside))

/-- An element is put at the target, and then what is below it. -/
theorem below {made : Made} {world : World}
    (founds : visit.Founds home made world) (isMade : visit.made? scene = some (made, world))
    (sets : Sets scene (visit.enclosing.length + 1) (.under made.element) made.element world.forest
      visits last after)
    (inner : Orders scene (visit.enclosing.length + 1) world.forest visits last after) :
    Orders scene visit.enclosing.length visit.world.forest (visit :: visits)
      (last <|> some made.element) after := by
  have isBuilt := Visit.built?_of_made? isMade
  have list : builtIn scene (visit :: visits) = made.element :: builtIn scene visits := by
    rw [builtIn_cons, isBuilt]
    rfl
  have top : builtAt scene visit.enclosing.length (visit :: visits) = [made.element] := by
    rw [builtAt_cons rfl, isBuilt, builtAt_eq_nil sets.deep]
    rfl
  have row : after.children made.element = builtAt scene (visit.enclosing.length + 1) visits := by
    rw [(sets.puts.appends rfl).row, founds.empty, List.nil_append]
  have grown : visit.world.forest.size < world.forest.size := by simp [founds.size]
  have later {id : NodeId} (inside : world.forest.size ≤ id) :
      visit.world.forest.size ≤ id ∧ id ≠ made.element := by
    rw [founds.element]
    have above := Nat.lt_of_lt_of_le grown inside
    exact ⟨Nat.le_of_lt above, Nat.ne_of_gt above⟩
  refine
    { size := Nat.le_trans (Nat.le_of_lt grown) inner.size, arranged := ?_, last := ?_
      new := fun id among => ?_, included := fun other among copy id includes => ?_
      covered := fun id new inside => ?_ }
  · rw [list, top]
    exact .element made.element (row ▸ inner.arranged)
  · rw [list, inner.last, List.getLast?_cons]
    cases (builtIn scene visits).getLast? <;> rfl
  · rw [list] at among
    rcases List.mem_cons.mp among with rfl | inside
    · rw [founds.element]
      exact ⟨Nat.le_refl _, Nat.lt_of_lt_of_le grown inner.size⟩
    · obtain ⟨new, inside⟩ := inner.new id inside
      exact ⟨(later new).1, inside⟩
  · rcases List.mem_cons.mp among with rfl | inside
    · exact absurd includes (Visit.Includes.not_made isMade)
    · obtain ⟨⟨new, inside, other⟩, under⟩ := inner.included other inside copy id includes
      obtain ⟨new, differ⟩ := later new
      exact ⟨⟨new, inside, by simp [list, differ, other]⟩, under⟩
  · rw [list]
    rcases Nat.eq_or_lt_of_le new with same | above
    · exact .inl (by rw [← same, founds.element]; exact List.mem_cons_self)
    · rcases inner.covered id (founds.size ▸ above) inside with isBuilt | ⟨other, among, copied⟩ | top
      · exact .inl (List.mem_cons_of_mem _ isBuilt)
      · exact .inr (.inl ⟨other, List.mem_cons_of_mem _ among, copied⟩)
      · exact .inr (.inr top)

/-- A visit that makes nothing by itself makes what those inside of it do. -/
theorem around (isBuilt : visit.built? scene = none)
    (noCopy : ∀ node world, visit.part? scene ≠ some (.existing node, world))
    (inner : Orders scene visit.enclosing.length before visits last after) :
    Orders scene visit.enclosing.length before (visit :: visits) last after := by
  have list : builtIn scene (visit :: visits) = builtIn scene visits := by
    rw [builtIn_cons, isBuilt]
    rfl
  have top : builtAt scene visit.enclosing.length (visit :: visits) =
      builtAt scene visit.enclosing.length visits := by
    rw [builtAt_cons rfl, isBuilt]
    rfl
  refine
    { size := inner.size, arranged := by rw [list, top]; exact inner.arranged
      last := by rw [list]; exact inner.last
      new := by rw [list]; exact inner.new
      included := fun other among copy id includes => ?_, covered := fun id new inside => ?_ }
  · rw [list]
    rcases List.mem_cons.mp among with rfl | inside
    · obtain ⟨node, world, _, part, -⟩ := includes
      exact absurd part (noCopy node world)
    · exact inner.included other inside copy id includes
  · rw [list]
    rcases inner.covered id new inside with isBuilt | ⟨other, among, copied⟩ | top
    · exact .inl isBuilt
    · exact .inr (.inl ⟨other, List.mem_cons_of_mem _ among, copied⟩)
    · exact .inr (.inr top)

/-- Under a home what is made later comes behind what was made before. -/
theorem next (isUnder : target.isUnder) (site : target.Site before home)
    (sets : Sets scene level target home before visits last middle)
    (first : Orders scene level before visits last middle)
    (sets' : Sets scene level target home middle more later after)
    (rest : Orders scene level middle more later after) :
    Orders scene level before (visits ++ more) (later <|> last) after := by
  have appends := sets'.puts.appends isUnder
  have agrees := (sets.puts.appends isUnder).agrees
  have earlier {id : NodeId} (inside : id < middle.size) : id ∉ builtIn scene more := fun among =>
    absurd inside (Nat.not_lt.mpr (rest.new id among).1)
  refine
    { size := Nat.le_trans first.size rest.size, arranged := ?_, last := ?_
      new := fun id among => ?_, included := fun other among copy id includes => ?_
      covered := fun id new inside => ?_ }
  · rw [builtAt_append, builtIn_append]
    refine .next (first.arranged.later fun id among => ?_) rest.arranged
    obtain ⟨new, inside⟩ := first.new id among
    exact appends.children id inside (Nat.ne_of_gt (Nat.lt_of_lt_of_le site.inside new))
      (Option.some_ne_none _).symm
  · rw [builtIn_append, List.getLast?_append, first.last, rest.last]
    cases (builtIn scene more).getLast? <;> rfl
  · rw [builtIn_append] at among
    rcases List.mem_append.mp among with early | late
    · obtain ⟨new, inside⟩ := first.new id early
      exact ⟨new, Nat.lt_of_lt_of_le inside rest.size⟩
    · obtain ⟨new, inside⟩ := rest.new id late
      exact ⟨Nat.le_trans first.size new, inside⟩
  · rw [builtIn_append, List.mem_append, not_or]
    rcases List.mem_append.mp among with early | late
    · obtain ⟨⟨new, inside, other⟩, home, there, under⟩ := first.included other early copy id includes
      refine ⟨⟨new, Nat.lt_of_lt_of_le inside rest.size, other, earlier inside⟩, home, ?_, under⟩
      rw [appends.parent_eq agrees inside, there]
    · obtain ⟨⟨new, inside, other⟩, under⟩ := rest.included other late copy id includes
      refine ⟨⟨Nat.le_trans first.size new, inside, fun among => ?_, other⟩, under⟩
      exact absurd (first.new id among).2 (Nat.not_lt.mpr new)
  · rw [builtIn_append]
    rcases Nat.lt_or_ge id middle.size with known | late
    · rcases first.covered id new known with isBuilt | ⟨other, among, copied⟩ | top
      · exact .inl (List.mem_append_left _ isBuilt)
      · exact .inr (.inl ⟨other, List.mem_append_left _ among, copied⟩)
      · exact .inr (.inr ((appends.parent_eq agrees known).trans top))
    · rcases rest.covered id late inside with isBuilt | ⟨other, among, copied⟩ | top
      · exact .inl (List.mem_append_right _ isBuilt)
      · exact .inr (.inl ⟨other, List.mem_append_right _ among, copied⟩)
      · exact .inr (.inr top)

/-- What was made in a new fragment keeps its order where that is attached.  The fragment
has no place. -/
theorem closing {document : Option NodeId} {built after : World} (site : target.Site before home)
    (beside : target.isUnder = false)
    (sets : Sets scene level (.under before.size) before.size
      (before.add { content := .fragment, owner := document }) visits last built.forest)
    (inner : Orders scene level (before.add { content := .fragment, owner := document }) visits last
      built.forest)
    (closes : closeSequence target before.size last built = .ok () after) :
    Orders scene level before visits last after.forest := by
  obtain ⟨size, -, ends⟩ := sets.closes site beside closes
  have grown : before.size < (before.add { content := .fragment, owner := document }).size := by
    simp
  have later {id : NodeId}
      (inside : (before.add { content := .fragment, owner := document }).size ≤ id) :
      before.size ≤ id ∧ id ≠ before.size :=
    have above := Nat.lt_of_lt_of_le grown inside
    ⟨Nat.le_of_lt above, Nat.ne_of_gt above⟩
  -- Of the new nodes only those that are attached get another parent.
  have parent {id : NodeId} (inside : id < built.forest.size) (new : before.size ≤ id)
      (other : id ∉ builtIn scene visits) : after.forest.parent? id = built.forest.parent? id := by
    rcases ends with same | alters
    · rw [same]
    · exact site.parent_new alters inside new fun among =>
        other (inner.arranged.outermost_subset among)
  have children {id : NodeId} (among : id ∈ builtIn scene visits) :
      after.forest.children id = built.forest.children id := by
    obtain ⟨new, inside⟩ := inner.new id among
    obtain ⟨new, notHolder⟩ := later new
    rcases ends with same | alters
    · rw [same]
    · exact alters.children id inside (Nat.ne_of_gt (Nat.lt_of_lt_of_le site.inside new))
        fun same => notHolder (Option.some.inj same).symm
  have holder : built.forest.parent? before.size = none := by
    rw [(sets.puts.appends rfl).parent_eq (site.agrees.add _ _) grown]
    simp [parent?]
  refine
    { size := size ▸ Nat.le_trans (Nat.le_of_lt grown) inner.size
      arranged := inner.arranged.later fun id among => children among, last := inner.last
      new := fun id among => ?_, included := fun other among copy id includes => ?_
      covered := fun id new inside => ?_ }
  · obtain ⟨new, inside⟩ := inner.new id among
    exact ⟨(later new).1, size ▸ inside⟩
  · obtain ⟨⟨new, inside, other⟩, home, there, under⟩ := inner.included other among copy id includes
    refine ⟨⟨(later new).1, size ▸ inside, other⟩, home, ?_, under⟩
    rw [parent inside (later new).1 other, there]
  · rw [size] at inside
    by_cases isBuilt : id ∈ builtIn scene visits
    · exact .inl isBuilt
    · rw [parent inside new isBuilt]
      rcases Nat.eq_or_lt_of_le new with same | above
      · exact .inr (.inr (same ▸ holder))
      · rcases inner.covered id (by rw [size_add]; exact above) inside with isBuilt | copied | top
        · exact .inl isBuilt
        · exact .inr (.inl copied)
        · exact .inr (.inr top)

end Orders

/-- In every way that a build succeeds the nodes that it makes are in document order. -/
theorem putting_orders (scene : Scene) : Putting scene fun level target home before visits last after =>
    Sets scene level target home before visits last after ∧
      Orders scene level before visits last after where
  nothing visit target home before none site :=
    ⟨(putting_sets scene).nothing visit target home before none site, .nothing none⟩
  leaf visit spec world node made after home part isLeaf simple makes attaches site :=
    ⟨(putting_sets scene).leaf visit spec world node made after home part isLeaf simple makes
      attaches site, .leaf site part isLeaf simple makes attaches⟩
  bare visit made after home isMade site := by
    have founds := Visit.founds_of_made? site isMade
    have sets : Sets scene (visit.enclosing.length + 1) (.under made.element) made.element
      after.forest [] none after.forest := (putting_sets scene).done _ _ _ _ founds.site
    have inner : Orders scene (visit.enclosing.length + 1) after.forest [] none after.forest :=
      .done _ _
    exact ⟨(putting_sets scene).bare visit made after home isMade site,
      .below founds isMade sets inner⟩
  element visit made middle home visits last after isMade site inner :=
    ⟨(putting_sets scene).element visit made middle home visits last after isMade site inner.1,
      .below (Visit.founds_of_made? site isMade) isMade inner.1 inner.2⟩
  around visit target home before visits last after isBuilt noCopy inner :=
    ⟨(putting_sets scene).around visit target home before visits last after isBuilt noCopy inner.1,
      .around isBuilt noCopy inner.2⟩
  closing level target home before document visits last built after site beside inner closes :=
    ⟨(putting_sets scene).closing level target home before document visits last built after site
      beside inner.1 closes, .closing site beside inner.1 inner.2 closes⟩
  done level target home before site :=
    ⟨(putting_sets scene).done level target home before site, .done level before⟩
  site level target home before visits last after isUnder site inner :=
    (putting_sets scene).site level target home before visits last after isUnder site inner.1
  next level target home before first node middle rest last after isUnder site here later :=
    ⟨(putting_sets scene).next level target home before first node middle rest last after isUnder site
      here.1 later.1, .next isUnder site here.1 here.2 later.1 later.2⟩

/-! ## The whole build -/

/-- A node was made that is in the tree of another one now. -/
def Forest.AddedTo (before after : Forest) (home id : NodeId) : Prop :=
  before.size ≤ id ∧ ∃ top, after.Reaches top home ∧ after.Reaches top id

/-- The node is no part of a copy that was made at one of the visits, but for its
topmost node. -/
def Counts (scene : Scene) (visits : List Visit) (id : NodeId) : Prop :=
  ∀ visit ∈ visits, ∀ copy, ¬ visit.Includes scene copy id

section Trees

variable {forest before after : Forest} {top home id : NodeId} {target : Target}
  {nodes : List NodeId}

theorem Forest.Reaches.eq_or_parent (agrees : forest.Agrees) (reaches : forest.Reaches top id) :
    top = id ∨ ∃ home, forest.parent? id = some home ∧ forest.Reaches top home := by
  cases reaches with
  | here => exact .inl rfl
  | child reaches among => exact .inr ⟨_, agrees.parent _ _ among, reaches⟩

/-- From a new node only new nodes are reached. -/
theorem Target.Puts.new_of_reaches (puts : target.Puts home nodes before after)
    (site : target.Site before home) (new : ∀ id ∈ nodes, before.size ≤ id)
    (isNew : before.size ≤ top) (reaches : after.Reaches top id) : before.size ≤ id := by
  induction reaches with
  | here => exact isNew
  | @child parent id _ among ih =>
      by_contra known
      have known := Nat.lt_of_not_le known
      have there := puts.agrees.parent parent id among
      rw [puts.parent_eq site new known] at there
      split at there
      · cases there
      · exact site.agrees.parent_ne ih id there

/-- A new node without a parent is in another tree than the home. -/
theorem Target.Puts.not_addedTo (puts : target.Puts home nodes before after)
    (site : target.Site before home) (new : ∀ id ∈ nodes, before.size ≤ id)
    (alone : after.parent? id = none) : ¬ AddedTo before after home id := by
  rintro ⟨isNew, top, toHome, toNode⟩
  rcases toNode.eq_or_parent puts.agrees with rfl | ⟨parent, there, -⟩
  · exact absurd site.inside (Nat.not_lt.mpr (puts.new_of_reaches site new isNew toHome))
  · rw [alone] at there
    cases there

theorem Forest.Reaches.lt_size (agrees : forest.Agrees) (reaches : forest.Reaches top id)
    (inside : top < forest.size) : id < forest.size := by
  rcases reaches.eq_or_parent agrees with rfl | ⟨home, there, -⟩
  · exact inside
  · exact lt_size_of_parent? there

/-- What is above a node that there is, is there too. -/
theorem Forest.Reaches.top_lt_size (agrees : forest.Agrees) (reaches : forest.Reaches top id)
    (inside : id < forest.size) : top < forest.size := by
  induction reaches with
  | here => exact inside
  | child _ among ih => exact ih (agrees.fits _ _ (agrees.parent _ _ among)).homeInside

end Trees

section Orders

variable {scene : Scene} {visits : List Visit} {level : Nat} {home copy id : NodeId}
  {target : Target} {before after : Forest} {last : Option NodeId}

/-- The nodes that were made are in the tree of the home. -/
theorem Orders.addedTo (orders : Orders scene level before visits last after)
    (sets : Sets scene level target home before visits last after) (site : target.Site before home)
    (among : id ∈ builtIn scene visits) : AddedTo before after home id := by
  obtain ⟨top, isTop, reaches⟩ := orders.arranged.reached id among
  have isChild := (sets.puts.sublist site).subset isTop
  exact ⟨(orders.new id among).1, home, .here, (Reaches.here.child isChild).trans reaches⟩

/-- A new node in the tree of the home was made, or is part of a copy. -/
theorem Orders.built_of_addedTo (orders : Orders scene level before visits last after)
    (sets : Sets scene level target home before visits last after) (site : target.Site before home)
    (added : AddedTo before after home id) :
    id ∈ builtIn scene visits ∨ ∃ visit ∈ visits, ∃ copy, visit.Includes scene copy id := by
  obtain ⟨new, top, toHome, toNode⟩ := added
  have homeInside := Nat.lt_of_lt_of_le site.inside sets.puts.size
  have topInside := toHome.top_lt_size sets.puts.agrees homeInside
  rcases orders.covered id new (toNode.lt_size sets.puts.agrees topInside) with isBuilt | copied | alone
  · exact .inl isBuilt
  · exact .inr copied
  · exact absurd ⟨new, top, toHome, toNode⟩ (sets.puts.not_addedTo site sets.new alone)

/-- The nodes that are part of a copy are below its topmost node. -/
theorem Orders.reaches_of_includes (orders : Orders scene level before visits last after)
    (agrees : after.Agrees) {visit : Visit} (among : visit ∈ visits) :
    ∀ id, visit.Includes scene copy id → after.Reaches copy id := by
  intro id
  induction id using Nat.strongRecOn with
  | ind id ih =>
      intro includes
      obtain ⟨-, parent, there, above, lower⟩ := orders.included visit among copy id includes
      refine Reaches.child ?_ (agrees.child id parent there)
      rcases Nat.eq_or_lt_of_le above with rfl | inside
      · exact .here
      · obtain ⟨node, world, made, part, makes, -, bound⟩ := includes
        exact ih parent lower ⟨node, world, made, part, makes, inside, Nat.lt_trans lower bound⟩

/-- Nothing was built exactly if no node was made in the tree of the home. -/
theorem Orders.none_iff (orders : Orders scene level before visits last after)
    (sets : Sets scene level target home before visits last after) (site : target.Site before home) :
    last = none ↔ ∀ id, ¬ AddedTo before after home id := by
  rw [orders.last, List.getLast?_eq_none_iff]
  refine ⟨fun none id added => ?_, fun none => ?_⟩
  · rcases orders.built_of_addedTo sets site added with isBuilt | ⟨visit, among, copy, includes⟩
    · rw [none] at isBuilt
      cases isBuilt
    · have isBuilt := includes.mem_builtIn among
      rw [none] at isBuilt
      cases isBuilt
  · exact List.eq_nil_iff_forall_not_mem.mpr fun id among =>
      none id (orders.addedTo sets site among)

/-- The node that was built last comes behind all the others. -/
theorem Orders.is_last {node : NodeId} (orders : Orders scene level before visits (some node) after)
    (sets : Sets scene level target home before visits (some node) after)
    (site : target.Site before home) :
    AddedTo before after home node ∧ Counts scene visits node ∧
      ∀ other, AddedTo before after home other → Counts scene visits other → other ≠ node →
        after.Precedes other node := by
  have isLast := orders.last.symm
  have among := List.mem_of_getLast? isLast
  refine ⟨orders.addedTo sets site among, fun visit isVisit copy includes =>
    (orders.included visit isVisit copy node includes).1.2.2 among, fun other added counts differ => ?_⟩
  rcases orders.built_of_addedTo sets site added with isBuilt | ⟨visit, isVisit, copy, includes⟩
  · exact precedes_getLast? (orders.arranged.pairwise home (sets.puts.sublist site)) isLast isBuilt
      differ
  · exact absurd includes (counts visit isVisit copy)

end Orders

section Compile

variable {settings : Settings} {spec document arguments result : Value}
  {where? : Option (Mode × Value)} {before start after : World} {task : Task} {home : NodeId}

/-- A build returns what it goes by exactly if it made no node in the tree of the home.
If it made any, it returns the last of them in document order.  Of a copy only the topmost
node counts, which is above all its other nodes. -/
theorem compile_returns (isHome : task.Home before.forest home)
    (prepared : prepare settings where? document arguments before = .ok task start)
    (simple : Simple task.scene (task.visits spec start))
    (run : compile settings spec where? document arguments before = .ok result after) :
    (result = .node task.target.reference ↔ ∀ id, ¬ AddedTo before.forest after.forest home id) ∧
      (∀ id, AddedTo before.forest after.forest home id →
        ∃ last, result = .node last ∧ AddedTo before.forest after.forest home last ∧
          Counts task.scene (task.visits spec start) last ∧
          ∀ other, AddedTo before.forest after.forest home other →
            Counts task.scene (task.visits spec start) other → other ≠ last →
            after.forest.Precedes other last) ∧
      ∀ visit ∈ task.visits spec start, ∀ copy id, visit.Includes task.scene copy id →
        after.forest.Reaches copy id := by
  have site := isHome.site
  obtain ⟨last, rfl, sets, orders⟩ :=
    (putting_orders task.scene).of_compile isHome prepared simple run
  refine ⟨?_, fun id added => ?_, fun visit isVisit copy id includes =>
    orders.reaches_of_includes sets.puts.agrees isVisit id includes⟩
  · rw [← orders.none_iff sets site]
    cases last with
    | none => exact ⟨fun _ => rfl, fun _ => rfl⟩
    | some node =>
        refine ⟨fun same => ?_, nofun⟩
        -- What was made is not what there was to go by.
        obtain rfl : node = task.target.reference := by simpa [resultOr] using same
        have new := (orders.is_last sets site).1.1
        exact absurd site.lt_size (Nat.not_lt.mpr new)
  · cases last with
    | none => exact absurd added ((orders.none_iff sets site).mp rfl id)
    | some node => exact ⟨node, rfl, orders.is_last sets site⟩

end Compile

/-- An element around a text, and a copy of the element that both go into. -/
def returned : Value := .list [.map [(.null, .list [.text "c", .text "v"])], .node 1]

/-- Behind the element and its text comes the copy, which is given. -/
theorem compile_returns_returned :
    let world := worldAfter {} linkedRequests
    ∃ task start after,
      prepare {} (some (.after, .node 4)) .null (.list []) world = .ok task start ∧
      compile {} returned (some (.after, .node 4)) .null (.list []) world = .ok (.node 11) after ∧
      after.forest.children 1 = [4, 9, 11, 5] ∧ AddedTo world.forest after.forest 1 10 ∧
      ∀ other, AddedTo world.forest after.forest 1 other →
        Counts task.scene (task.visits returned start) other → other ≠ 11 →
        after.forest.Precedes other 11 := by
  intro world
  have intact : Intact {} world.forest :=
    ((Reached.start rfl).requests (by decide +kernel)).intact
  have ready : endsIn (prepare {} (some (.after, .node 4)) .null (.list [])) world
      (fun task start => task.target = { mode := .after, reference := 4 } ∧
        Simple task.scene (task.visits returned start)) fun _ _ => False := by decide +kernel
  have gives : endsIn (compile {} returned (some (.after, .node 4)) .null (.list [])) world
      (fun result after => result.node? = some 11 ∧ after.forest.children 1 = [4, 9, 11, 5] ∧
        after.forest.children 9 = [10]) fun _ _ => False := by decide +kernel
  have known : world.forest.size = 8 := by decide +kernel
  cases prepared : prepare {} (some (.after, .node 4)) .null (.list []) world with
  | error => exact (failed_of_endsIn ready prepared).elim
  | ok task start =>
      cases run : compile {} returned (some (.after, .node 4)) .null (.list []) world with
      | error => exact (failed_of_endsIn gives run).elim
      | ok result after =>
          obtain ⟨isTarget, simple⟩ := done_of_endsIn ready prepared
          obtain ⟨isResult, row, inner⟩ := done_of_endsIn gives run
          have isHome : task.Home world.forest 1 :=
            { isHome := by rw [isTarget]; decide +kernel
              kind := .inl (by decide +kernel)
              agrees := intact.agrees
              linked := intact.linked 1 (Nat.zero_le 1) }
          have isChild : 9 ∈ after.forest.children 1 := by simp [row]
          have isBelow : 10 ∈ after.forest.children 9 := by simp [inner]
          have added : AddedTo world.forest after.forest 1 10 :=
            ⟨by rw [known]; decide, 1, .here, (Reaches.here.child isChild).child isBelow⟩
          obtain ⟨last, rfl, -, -, others⟩ :=
            (compile_returns isHome prepared simple run).2.1 10 added
          obtain rfl : 11 = last := (Option.some.inj isResult).symm
          exact ⟨task, start, after, rfl, rfl, row, added, others⟩

end MarkupSpec
