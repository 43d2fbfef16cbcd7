import MarkupSpec.Proofs.Build.TargetCourse
import MarkupSpec.Proofs.Forest.KeptNodeEdits
import MarkupSpec.Proofs.Namespace.BuiltElements
import MarkupSpec.Proofs.Session.WellLinked

/-!
# What a build loses

A build that succeeds keeps all that it made, but for elements under a document
(`compile_keeps`).  There an element takes the place of the one before, and so an
element of the build may be displaced by a later one, with what is below it
(`displaced_displacing`).  Nodes that are put at one target have the same parent and
are in their order.

A build under a node, or in the fragment of a sequence, retains what was made before it
and puts its own behind that (`Retains`).  Beside a node it is enough to say where its own
nodes are, since all comes there at once (`Retained`).
-/

namespace MarkupSpec

open Forest Edit Build

/-! ## The nodes that the visits put at a target -/

/-- The nodes that a visit by itself puts at its target: an element, a node without parts,
or the children of a fragment that it copies. -/
def Visit.placed (scene : Scene) (visit : Visit) : List NodeId :=
  match visit.made? scene, visit.part? scene with
  | some (made, _), _ => [made.element]
  | none, some (spec, world) =>
      if spec.isLeaf then
        match makeLeaf scene visit.place.path spec world with
        | .ok node made => made.forest.bundle node
        | .error _ _ => []
      else []
  | none, none => []

/-- The nodes that are put at a target, in the order of the visits.  The members of a
sequence are all visited at the same target. -/
def placedAt (scene : Scene) (target : Target) (visits : List Visit) : List NodeId :=
  visits.flatMap fun visit => if visit.place.target = target then visit.placed scene else []

section Placed

variable {scene : Scene} {visit : Visit} {visits more : List Visit} {target : Target} {spec : Spec}
  {world made : World} {node : NodeId}

theorem Visit.placed_of_made? {element : Made}
    (isMade : visit.made? scene = some (element, made)) : visit.placed scene = [element.element] := by
  simp [placed, isMade]

theorem Visit.placed_of_leaf (part : visit.part? scene = some (spec, world)) (isLeaf : spec.isLeaf)
    (makes : makeLeaf scene visit.place.path spec world = .ok node made) :
    visit.placed scene = made.forest.bundle node := by
  have notMade : visit.made? scene = none := by
    refine made?_of_part? part fun name attributes children same => ?_
    subst same
    cases isLeaf
  simp [placed, notMade, part, isLeaf, makes]

theorem Visit.placed_of_part? (part : visit.part? scene = some (spec, world))
    (other : ∀ name attributes children, spec ≠ .element name attributes children)
    (notLeaf : spec.isLeaf = false) : visit.placed scene = [] := by
  simp [placed, made?_of_part? part other, part, notLeaf]

theorem Visit.placed_of_none (part : visit.part? scene = none) : visit.placed scene = [] := by
  have notMade : visit.made? scene = none := by simp [made?, part]
  simp [placed, notMade, part]

theorem placedAt_append : placedAt scene target (visits ++ more) =
    placedAt scene target visits ++ placedAt scene target more :=
  List.flatMap_append

theorem placedAt_cons : placedAt scene target (visit :: visits) =
    (if visit.place.target = target then visit.placed scene else []) ++
      placedAt scene target visits :=
  List.flatMap_cons

theorem placedAt_eq_nil (elsewhere : ∀ visit ∈ visits, visit.place.target ≠ target) :
    placedAt scene target visits = [] :=
  List.flatMap_eq_nil_iff.mpr fun visit among => if_neg (elsewhere visit among)

end Placed

/-- The rows of the nodes that visits put under other nodes. -/
def placedUnder (scene : Scene) (visits : List Visit) : NodeId → List NodeId :=
  fun id => placedAt scene (.under id) visits

theorem placedUnder_concat {scene : Scene} {past : List Visit} {visit : Visit} {bearer : NodeId}
    (isTarget : visit.place.target = .under bearer) :
    placedUnder scene (past ++ [visit]) = extend (placedUnder scene past) bearer (visit.placed scene) := by
  funext id
  have same : visit.place.target = .under id ↔ id = bearer := by
    rw [isTarget]
    constructor
    · intro same
      cases same
      rfl
    · rintro rfl
      rfl
  unfold placedUnder extend
  rw [placedAt_append, placedAt_cons]
  simp only [same, placedAt, List.flatMap_nil, List.append_nil]
  split <;> simp

/-! ## What a build keeps -/

section Builds

variable (scene : Scene) (target : Target) (home start : NodeId)

/-- A forest in which the nodes that were made are kept, and those that the visits so far
put under other nodes are there in their order. -/
structure Holding (pending : List NodeId) (past : List Visit) (forest : Forest) : Prop where
  intact : Intact {} forest
  known : start ≤ forest.size
  kept : Kept target home start pending (placedUnder scene past) forest

/-- A build under a node that bears its nodes keeps what was made, and puts its own behind
that. -/
structure Retains (pending : List NodeId) (past : List Visit) (before : Forest)
    (visits : List Visit) (last : Option NodeId) (after : Forest) : Prop where
  holding : Holding scene target home start pending (past ++ visits) after
  grows : Grows (fun _ => True) before after
  idle : last = none → after = before
  under : ∀ visit ∈ visits, ∃ bearer, visit.place.target = .under bearer ∧
    Bears target home start pending after bearer

/-- A build beside a node keeps what it made, and the nodes that are put at one target have
the same parent. -/
structure Retained (visits : List Visit) (after : Forest) : Prop where
  kept : Kept target home start [] (fun _ => []) after
  siblings : ∀ target, ∃ parent, (placedAt scene target visits).Sublist (after.children parent)

end Builds

section Steps

variable {scene : Scene} {target : Target} {home start bearer : NodeId} {pending : List NodeId}
  {past visits more : List Visit} {visit : Visit} {before middle after forest : Forest}
  {last later : Option NodeId} {world : World}

theorem Forest.Bears.grown (bears : Bears target home start pending before bearer)
    (grows : Grows (fun _ => True) before after) : Bears target home start pending after bearer where
  inside := Nat.lt_of_lt_of_le bears.inside grows.size
  isHome := by
    rw [grows.isDocument]
    exact bears.isHome
  holder := by
    rw [grows.isA_of_lt Content.isFragment_lasting bears.inside]
    exact bears.holder

/-- A visit that puts nothing at its target only gets itself counted. -/
theorem Holding.pass (holding : Holding scene target home start pending past forest)
    (nothing : visit.placed scene = []) :
    Holding scene target home start pending (past ++ [visit]) forest where
  intact := holding.intact
  known := holding.known
  kept := by
    have same : placedUnder scene (past ++ [visit]) = placedUnder scene past := by
      funext id
      simp [placedUnder, placedAt, nothing]
    rw [same]
    exact holding.kept

namespace Retains

/-- Nothing is done. -/
theorem refl (holding : Holding scene target home start pending past before) :
    Retains scene target home start pending past before [] last before where
  holding := by
    rw [List.append_nil]
    exact holding
  grows := .refl _
  idle _ := rfl
  under _ none := absurd none List.not_mem_nil

/-- One build follows another one. -/
theorem trans (first : Retains scene target home start pending past before visits last middle)
    (rest : Retains scene target home start pending (past ++ visits) middle more later after) :
    Retains scene target home start pending past before (visits ++ more) (later <|> last) after where
  holding := by
    rw [← List.append_assoc]
    exact rest.holding
  grows := first.grows.trans rest.grows fun _ _ => trivial
  idle none := by
    cases later with
    | some => cases none
    | none => rw [rest.idle rfl, first.idle (by simpa using none)]
  under visit among := by
    rcases List.mem_append.mp among with early | late
    · obtain ⟨bearer, isTarget, bears⟩ := first.under visit early
      exact ⟨bearer, isTarget, bears.grown rest.grows⟩
    · exact rest.under visit late

/-- A visit that puts nothing at its target is counted before those inside of it. -/
theorem around (isTarget : visit.place.target = .under bearer)
    (bears : Bears target home start pending before bearer)
    (inner : Retains scene target home start pending (past ++ [visit]) before visits last after) :
    Retains scene target home start pending past before (visit :: visits) last after where
  holding := by
    rw [← List.singleton_append, ← List.append_assoc]
    exact inner.holding
  grows := inner.grows
  idle := inner.idle
  under other among := by
    rcases List.mem_cons.mp among with rfl | inside
    · exact ⟨bearer, isTarget, bears.grown inner.grows⟩
    · exact inner.under other inside

end Retains

/-! ## The steps -/

/-- A doctype comes into its document, in the place of another one. -/
theorem holding_buildDoctype {children : List Value} {attributes : RawAttributes} {node : NodeId}
    {after : World} (inside : visit.place.target.reference < world.forest.size)
    (holding : Holding scene target home start pending past world.forest)
    (part : visit.part? scene = some (.doctype children attributes, world))
    (run : buildDoctype scene (.doctype children attributes) visit.place.path children attributes
      world = .ok node after) :
    Holding scene target home start pending past after.forest ∧
      Grows (fun _ => True) world.forest after.forest := by
  have grows := ((makes_buildDoctype scene _ _ _ _ world).of_ok run).1
  have within : visit.place.target.Within {} visit.world.forest :=
    ⟨Nat.zero_le _, Visit.forest_of_part? part ▸ inside⟩
  have intact : Intact {} after.forest :=
    ((Visit.keeps_intact within fun _ _ _ _ => Nat.zero_le _).doctype children attributes world part
      holding.intact).of_ok run
  refine ⟨⟨intact, Nat.le_trans holding.known grows.size, ?_⟩, grows.mono fun _ _ => trivial⟩
  exact (kept_buildDoctype holding.kept holding.intact.agrees holding.known _ _ _ _).of_ok run

/-- A node that was just made is put under the one that bears it. -/
theorem retains_attach {node : NodeId} {after : World} (early : home < start)
    (isTarget : visit.place.target = .under bearer)
    (holding : Holding scene target home start pending past before)
    (bears : Bears target home start pending before bearer) (fresh : Fresh before node world.forest)
    (rising : (world.forest.children node).Pairwise (· < ·))
    (grew : Grows Nobody before world.forest)
    (attaches : attach visit.place.target node world = .ok () after)
    (isPlaced : visit.placed scene = world.forest.bundle node) :
    Retains scene target home start pending past before [visit] (some node) after.forest := by
  have within : visit.place.target.Within {} before := by
    rw [isTarget]
    exact ⟨Nat.zero_le _, bears.inside⟩
  have grows : Grows (fun _ => True) before after.forest :=
    ((grows_attach (grew.mono fun _ => False.elim) (Nat.le_of_eq fresh.number.symm)).of_ok
      attaches).mono fun _ _ => trivial
  have intact : Intact {} after.forest :=
    (intact_attach_fresh holding.intact within fresh).of_ok attaches
  rw [isTarget] at attaches
  have kept := (kept_attach early holding.intact holding.kept bears holding.known fresh rising
    grew.noDocument).of_ok attaches
  refine ⟨⟨intact, Nat.le_trans holding.known grows.size, ?_⟩, grows, nofun, fun other among => ?_⟩
  · rw [placedUnder_concat isTarget, isPlaced]
    exact kept
  · obtain rfl := List.mem_singleton.mp among
    exact ⟨bearer, isTarget, bears.grown grows⟩

/-- An element is made and attached to the target of its visit. -/
structure Visit.Attaches (visit : Visit) (made : Made) (grown after : World) : Prop where
  fresh : Fresh visit.world.forest made.element grown.forest
  grew : Grows Nobody visit.world.forest grown.forest
  isElement : grown.forest.isA Content.isElement made.element
  empty : grown.forest.children made.element = []
  attaches : attach visit.place.target made.element grown = .ok () after
  inside : made.inside.target = .under made.element

theorem Visit.attaches_of_made? {made : Made} {after : World} (agrees : visit.world.forest.Agrees)
    (isMade : visit.made? scene = some (made, after)) : ∃ grown, visit.Attaches made grown after := by
  obtain ⟨spec, name, attributes, world, same, run⟩ := makeElement_of_made? isMade
  rw [← same] at agrees
  have attaches : Ensures (makeElement scene visit.place spec name attributes) world
      (fun made after => ∃ grown, Visit.Attaches { visit with world } made grown after)
      fun _ _ => True := by
    refine ensures_makeElement_attach agrees (fun near resolution tag grown added => ?_)
      fun _ _ _ => trivial
    refine Ensures.of_run (fun _ after attaches => ⟨grown, ?_⟩) fun _ _ _ => trivial
    exact
      { fresh := added ▸ fresh_add agrees _ _, grew := added ▸ grows_add rfl
        isElement := by simp [added, isA, content?, Content.isElement]
        empty := by simp [added, children]
        attaches, inside := rfl }
  obtain ⟨grown, holds⟩ := attaches.of_ok run
  exact ⟨grown, same ▸ holds.fresh, same ▸ holds.grew, holds.isElement, holds.empty,
    holds.attaches, holds.inside⟩

namespace Visit.Attaches

variable {made : Made} {grown after : World}

theorem bundle (attaches : visit.Attaches made grown after) :
    grown.forest.bundle made.element = [made.element] := by
  rw [Forest.bundle, isA_of_isA Content.isFragment_of_isElement attaches.isElement, if_neg Bool.false_ne_true]

/-- The element bears what comes into it. -/
theorem bears (attaches : visit.Attaches made grown after)
    (known : start ≤ visit.world.forest.size) :
    Bears target home start pending after.forest made.element := by
  obtain ⟨size, lasts⟩ := (lasts_attach _ _ _).of_ok attaches.attaches
  have inside := attaches.fresh.inside
  have isElement : after.forest.isA Content.isElement made.element :=
    (isA_of_lasting (lasts.content _ inside) Content.isElement_lasting).trans attaches.isElement
  exact
    { inside := size ▸ inside
      isHome := .inr ⟨attaches.fresh.number ▸ known, isDocument_of_isElement isElement⟩
      holder := fun _ isFragment => by
        rw [isA_of_isA Content.isFragment_of_isElement isElement] at isFragment
        cases isFragment }

/-- The element is put under the node that bears it. -/
theorem retains (attaches : visit.Attaches made grown after) (early : home < start)
    (isTarget : visit.place.target = .under bearer)
    (holding : Holding scene target home start pending past visit.world.forest)
    (bears : Bears target home start pending visit.world.forest bearer)
    (isMade : visit.made? scene = some (made, after)) :
    Retains scene target home start pending past visit.world.forest [visit] (some made.element)
      after.forest := by
  refine retains_attach early isTarget holding bears attaches.fresh ?_ attaches.grew
    attaches.attaches ((Visit.placed_of_made? isMade).trans attaches.bundle.symm)
  rw [attaches.empty]
  exact .nil

end Visit.Attaches

/-- Where the visits of a build under a node put nodes, these have the same parent, but
for a document. -/
theorem Retains.siblings
    (retains : Retains scene target home start pending [] before visits last after)
    (other : Target)
    (noDocument : target.isUnder → other.isUnder →
      after.isA Content.isDocument other.reference = false) :
    ∃ parent, (placedAt scene other visits).Sublist (after.children parent) := by
  by_cases some : ∃ visit ∈ visits, visit.place.target = other
  · obtain ⟨visit, among, rfl⟩ := some
    obtain ⟨bearer, isTarget, bears⟩ := retains.under visit among
    rw [isTarget] at noDocument ⊢
    refine ⟨bearer, retains.holding.kept.rows bearer ?_⟩
    exact bears.isHome.elim (fun isHome => noDocument isHome.1 rfl) And.right
  · refine ⟨home, ?_⟩
    rw [placedAt_eq_nil fun visit among same => some ⟨visit, among, same⟩]
    exact List.nil_sublist _

/-! ## Beside a node -/

/-- A visit that puts nothing at its target only gets itself counted. -/
theorem Retained.around (nothing : visit.placed scene = [])
    (inner : Retained scene target home start visits after) :
    Retained scene target home start (visit :: visits) after where
  kept := inner.kept
  siblings other := by
    rw [placedAt_cons, nothing, ite_self]
    exact inner.siblings other

theorem Retained.nothing (nothing : visit.placed scene = [])
    (kept : Kept target home start [] (fun _ => []) after) :
    Retained scene target home start [visit] after :=
  .around nothing { kept, siblings := fun _ => ⟨home, List.nil_sublist _⟩ }

/-- A node that was just made is put beside one. -/
theorem retained_attach {node : NodeId} {after : World} (intact : Intact {} before)
    (beside : target.isUnder = false) (isTarget : visit.place.target = target)
    (there : before.parent? target.reference = some home) (old : target.reference < start)
    (early : home < start) (known : start ≤ before.size)
    (kept : Kept target home start [] (fun _ => []) before) (fresh : Fresh before node world.forest)
    (grew : Grows Nobody before world.forest)
    (attaches : attach visit.place.target node world = .ok () after)
    (isPlaced : visit.placed scene = world.forest.bundle node) :
    Retained scene target home start [visit] after.forest := by
  rw [isTarget] at attaches
  obtain ⟨kept, sublist⟩ := (kept_attach_beside intact beside there old early known kept fresh
    grew.noDocument).of_ok attaches
  refine ⟨kept, fun other => ⟨home, ?_⟩⟩
  rw [placedAt_cons, isPlaced]
  split
  · simpa [placedAt] using sublist
  · exact List.nil_sublist _

namespace Visit.Attaches

variable {made : Made} {grown middle : World}

/-- The element is put beside a node. -/
theorem retained (attaches : visit.Attaches made grown middle) (beside : target.isUnder = false)
    (isTarget : visit.place.target = target)
    (there : visit.world.forest.parent? target.reference = some home)
    (old : target.reference < start) (early : home < start)
    (holding : Holding scene target home start [] [] visit.world.forest)
    (isMade : visit.made? scene = some (made, middle)) :
    Retained scene target home start [visit] middle.forest :=
  retained_attach holding.intact beside isTarget there old early holding.known holding.kept
    attaches.fresh attaches.grew attaches.attaches
    ((Visit.placed_of_made? isMade).trans attaches.bundle.symm)

/-- The element stays beside the node while nodes come into it. -/
theorem retained_inside (attaches : visit.Attaches made grown middle)
    (beside : target.isUnder = false) (isTarget : visit.place.target = target)
    (known : start ≤ visit.world.forest.size) (isMade : visit.made? scene = some (made, middle))
    (inner : Retains scene target home start [] [] middle.forest visits last after) :
    Retained scene target home start (visit :: visits) after where
  kept := inner.holding.kept.fewer fun _ => List.nil_sublist _
  siblings other := by
    rw [placedAt_cons]
    split
    · rename_i isOther
      have elsewhere : placedAt scene other visits = [] := by
        refine placedAt_eq_nil fun visit among same => ?_
        obtain ⟨bearer, isTarget', -⟩ := inner.under visit among
        rw [← isTarget, isOther, ← same, isTarget'] at beside
        cases beside
      obtain ⟨size, lasts⟩ := (lasts_attach _ _ _).of_ok attaches.attaches
      have isElement : after.isA Content.isElement made.element := by
        rw [inner.grows.isA_of_lt Content.isElement_lasting (size ▸ attaches.fresh.inside),
          isA_of_lasting (lasts.content _ attaches.fresh.inside) Content.isElement_lasting]
        exact attaches.isElement
      rw [elsewhere, Visit.placed_of_made? isMade, List.append_nil]
      rcases inner.holding.kept.placed made.element (attaches.fresh.number ▸ known)
        (isInner_of_isElement isElement) List.not_mem_nil with ⟨parent, there, -⟩ | ⟨isUnder, -⟩
      · exact ⟨parent, List.singleton_sublist.mpr (inner.holding.intact.agrees.child _ _ there)⟩
      · rw [beside] at isUnder
        cases isUnder
    · refine inner.siblings other fun isUnder => ?_
      rw [beside] at isUnder
      cases isUnder

end Visit.Attaches

/-- What was built in a fragment is put beside a node. -/
theorem retained_close {built final : World} {document : NodeId}
    (beside : target.isUnder = false)
    (there : before.parent? target.reference = some home) (old : target.reference < start)
    (early : home < start) (known : start ≤ before.size)
    (inner : Retains scene target home start [before.size] []
      (before.add { content := .fragment, owner := some document }) visits last built.forest)
    (closes : closeSequence target before.size last built = .ok () final) :
    Retained scene target home start visits final.forest := by
  have isFragment : built.forest.isA Content.isFragment before.size := by
    rw [inner.grows.isA_of_lt Content.isFragment_lasting (by simp)]
    simp [isA, content?, Content.isFragment]
  have siblings (other : Target) (noDocument : target.isUnder → other.isUnder →
      built.forest.isA Content.isDocument other.reference = false) :
      ∃ parent, (placedAt scene other visits).Sublist (built.forest.children parent) :=
    inner.siblings other noDocument
  rw [closeSequence, beside, Bool.not_false, Bool.and_true] at closes
  cases last with
  | none =>
      -- Nothing was built, and the fragment is left as empty as it was.
      cases closes
      have notInner := isA_of_isA Content.isInner_of_isFragment isFragment
      refine ⟨(inner.holding.kept.fewer fun _ => List.nil_sublist _).settle notInner fun _ => ?_,
        fun other => siblings other fun isUnder => ?_⟩
      · rw [inner.idle rfl, children_add, children_eq_nil (Nat.le_refl _)]
      · rw [beside] at isUnder
        cases isUnder
  | some node =>
      have closes : attach target before.size built = .ok () final := closes
      have there' : built.forest.parent? target.reference = some home := by
        have known : target.reference < before.size := Nat.lt_of_lt_of_le old known
        have isHome : Ensures (attach target before.size) built
            (fun _ _ => ∃ home, target.home? built.forest = some home) fun _ _ => True :=
          ensures_attach (fun home _ isHome _ => Ensures.of_run (fun _ _ _ => ⟨home, isHome⟩)
            fun _ _ _ => trivial) fun _ _ _ => trivial
        obtain ⟨found, isFound⟩ := isHome.of_ok closes
        rw [Target.home?, if_neg (by simp [beside])] at isFound
        rcases inner.grows.parent _ (by rw [size_add]; exact Nat.lt_succ_of_lt known) with same | ⟨gone, -⟩
        · rw [same, parent?_add]
          exact there
        · rw [gone] at isFound
          cases isFound
      have bearer {visit : Visit} (among : visit ∈ visits) : ∃ bearer,
          visit.place.target = .under bearer ∧ bearer < built.forest.size ∧ start ≤ bearer ∧
            built.forest.isA Content.isDocument bearer = false := by
        obtain ⟨bearer, isTarget, bears⟩ := inner.under visit among
        refine ⟨bearer, isTarget, bears.inside, bears.isHome.resolve_left fun isHome => ?_⟩
        rw [beside] at isHome
        cases isHome.1
      have noRow : placedUnder scene ([] ++ visits) home = [] := by
        refine placedAt_eq_nil fun visit among same => ?_
        obtain ⟨bearer, isTarget, -, new, -⟩ := bearer among
        rw [isTarget] at same
        cases same
        exact absurd early (Nat.not_lt.mpr new)
      obtain ⟨kept, sublist⟩ := (kept_attach_fragment inner.holding.intact beside there' old early
        noRow known isFragment inner.holding.kept).of_ok closes
      refine ⟨kept.fewer fun _ => List.nil_sublist _, fun other => ?_⟩
      by_cases some : ∃ visit ∈ visits, visit.place.target = other
      · obtain ⟨visit, among, rfl⟩ := some
        obtain ⟨bearer, isTarget, inside, -, noDocument⟩ := bearer among
        rw [isTarget]
        by_cases isHolder : bearer = before.size
        · refine ⟨home, (inner.holding.kept.rows bearer noDocument).trans ?_⟩
          exact isHolder ▸ sublist
        · obtain ⟨-, lasts⟩ := (lasts_attach _ _ _).of_ok closes
          have row := kept.rows bearer (by
            rw [isA_of_lasting (lasts.content bearer inside) Content.isDocument_lasting]
            exact noDocument)
          rw [if_neg isHolder] at row
          exact ⟨bearer, row⟩
      · rw [placedAt_eq_nil fun visit among same => some ⟨visit, among, same⟩]
        exact ⟨home, List.nil_sublist _⟩

end Steps

/-! ## Builds -/

/-- A build under a node that bears what comes there retains what was made. -/
def RetainsUnder (scene : Scene) (target : Target) (home start : NodeId) (isTarget : Target)
    (before : Forest) (visits : List Visit) (last : Option NodeId) (after : Forest) : Prop :=
  ∀ pending past bearer, isTarget = .under bearer →
    Holding scene target home start pending past before →
    Bears target home start pending before bearer →
    Retains scene target home start pending past before visits last after

/-- The nodes that a build makes are kept, by what is said of the ways in which it
succeeds. -/
theorem retaining (scene : Scene) {target : Target} {home start : NodeId} (early : home < start)
    (old : target.reference < start) : Course scene
    (fun visit visits last after =>
      RetainsUnder scene target home start visit.place.target visit.world.forest visits last
        after.forest ∧
      (target.isUnder = false → visit.place.target = target →
        visit.world.forest.parent? target.reference = some home →
        Holding scene target home start [] [] visit.world.forest →
        Retained scene target home start visits after.forest))
    (fun _ inside world visits last after =>
      RetainsUnder scene target home start inside.target world.forest visits last after.forest) where
  nothing visit after part same := by
    have placed := Visit.placed_of_none part
    rw [same]
    exact ⟨fun pending past bearer isTarget holding bears =>
      .around isTarget bears (.refl (holding.pass placed)),
      fun _ _ _ holding => .nothing placed holding.kept⟩
  leaf visit spec world node made after part isLeaf makes attaches := by
    have isPlaced := Visit.placed_of_leaf part isLeaf makes
    rw [← Visit.forest_of_part? part]
    have grew := ((makes_makeLeaf scene visit.place.path spec world).of_ok makes).1
    refine ⟨fun pending past bearer isTarget holding bears => ?_,
      fun beside isTarget there holding => ?_⟩
    · obtain ⟨fresh, rising, -⟩ :=
        (fresh_rising_makeLeaf scene visit.place.path spec holding.intact.agrees).of_ok makes
      exact retains_attach early isTarget holding bears fresh rising grew attaches isPlaced
    · have fresh := (fresh_makeLeaf scene visit.place.path spec holding.intact.agrees).of_ok makes
      exact retained_attach holding.intact beside isTarget there old early holding.known holding.kept
        fresh grew attaches isPlaced
  doctype visit children attributes world node after part run := by
    have placed := Visit.placed_of_part? part (fun _ _ _ => nofun) rfl
    rw [← Visit.forest_of_part? part]
    refine ⟨fun pending past bearer isTarget holding bears => ?_,
      fun beside isTarget there holding => ?_⟩
    · obtain ⟨holding, grows⟩ := holding_buildDoctype (isTarget ▸ bears.inside) holding part run
      refine ⟨holding.pass placed, grows, nofun, fun other among => ?_⟩
      obtain rfl := List.mem_singleton.mp among
      exact ⟨bearer, isTarget, bears.grown grows⟩
    · have inside := isTarget ▸ Nat.lt_of_lt_of_le old holding.known
      exact .nothing placed (holding_buildDoctype inside holding part run).1.kept
  bare visit made after isMade := by
    refine ⟨fun pending past bearer isTarget holding bears => ?_,
      fun beside isTarget there holding => ?_⟩
    · obtain ⟨grown, attaches⟩ := Visit.attaches_of_made? holding.intact.agrees isMade
      exact attaches.retains early isTarget holding bears isMade
    · obtain ⟨grown, attaches⟩ := Visit.attaches_of_made? holding.intact.agrees isMade
      exact attaches.retained beside isTarget there old early holding isMade
  element visit made children middle visits last after isMade inner := by
    refine ⟨fun pending past bearer isTarget holding bears => ?_,
      fun beside isTarget there holding => ?_⟩
    · obtain ⟨grown, attaches⟩ := Visit.attaches_of_made? holding.intact.agrees isMade
      have first := attaches.retains early isTarget holding bears isMade
      exact first.trans (inner.1 pending _ made.element attaches.inside first.holding
        (attaches.bears holding.known))
    · obtain ⟨grown, attaches⟩ := Visit.attaches_of_made? holding.intact.agrees isMade
      have first := attaches.retained beside isTarget there old early holding isMade
      have within : visit.place.target.Within {} visit.world.forest :=
        ⟨Nat.zero_le _, isTarget ▸ Nat.lt_of_lt_of_le old holding.known⟩
      have intact : Intact {} middle.forest :=
        (intact_attach_fresh holding.intact within attaches.fresh).of_ok attaches.attaches
      have known : start ≤ middle.forest.size := by
        obtain ⟨size, -⟩ := (lasts_attach _ _ _).of_ok attaches.attaches
        exact size ▸ Nat.le_trans holding.known attaches.grew.size
      exact attaches.retained_inside beside isTarget holding.known isMade
        (inner.1 [] [] made.element attaches.inside ⟨intact, known, first.kept⟩
          (attaches.bears holding.known))
  callable visit function world value middle visits last after part calls inner := by
    have same : middle.forest = visit.world.forest :=
      ((Function.readsOnly_call function _).forest_of_ok calls).trans (Visit.forest_of_part? part)
    have placed := Visit.placed_of_part? part (fun _ _ _ => nofun) rfl
    rw [show (visit.called value middle).world.forest = visit.world.forest from same] at inner
    exact ⟨fun pending past bearer isTarget holding bears =>
      .around isTarget bears (inner.1 pending _ bearer isTarget (holding.pass placed) bears),
      fun beside isTarget there holding => .around placed (inner.2 beside isTarget there holding)⟩
  sequence visit items world inside opened visits last built after part opens inner closes := by
    have placed := Visit.placed_of_part? part (fun _ _ _ => nofun) rfl
    obtain ⟨-, opened'⟩ := (opens_openSequence scene visit.place world).of_ok opens
    rw [← Visit.forest_of_part? part]
    rcases opened' with ⟨isUnder, isInside, here⟩ | ⟨beside, isInside, added⟩
    · rw [isInside, here] at inner
      have idle : closeSequence visit.place.target inside.target.reference last =
          (pure () : Build Unit) := by
        unfold closeSequence
        rw [isUnder, Bool.not_true, Bool.and_false, if_neg Bool.false_ne_true]
      rw [idle] at closes
      cases closes
      refine ⟨fun pending past bearer isTarget holding bears =>
        .around isTarget bears (inner pending _ bearer isTarget (holding.pass placed) bears),
        fun beside isTarget => ?_⟩
      rw [isTarget, beside] at isUnder
      cases isUnder
    · rw [isInside, added] at inner
      rw [isInside] at closes
      refine ⟨fun pending past bearer isTarget => ?_, fun _ isTarget there holding => ?_⟩
      · rw [isTarget] at beside
        cases beside
      · subst isTarget
        have fresh := fresh_add holding.intact.agrees Content.fragment (some scene.document)
        have grew : Grows Nobody world.forest
          (world.forest.add { content := .fragment, owner := some scene.document }) := grows_add rfl
        have members := inner [world.forest.size] [] world.forest.size rfl
          ⟨holding.intact.trans fresh.intact, Nat.le_trans holding.known grew.size,
            holding.kept.fresh fresh holding.known grew.noDocument⟩
          ⟨fresh.inside, .inr ⟨holding.known, grew.noDocument _ (Nat.le_refl _)⟩,
            fun _ _ => List.mem_singleton_self _⟩
        exact .around placed (retained_close beside there old early holding.known members closes)
  done enclosing inside world pending past bearer isTarget holding bears := .refl holding
  next enclosing inside value segment world first node middle rest last after here later pending
      past bearer isTarget holding bears := by
    have first := here.1 pending past bearer isTarget holding bears
    exact first.trans (later pending _ bearer isTarget first.holding (bears.grown first.grows))

/-- Where the nodes that were made and are kept are: in the tree of the home, or of an
element that is displaced from it. -/
theorem Forest.Kept.reaches {target : Target} {home start : NodeId} {row : NodeId → List NodeId}
    {forest : Forest} (kept : Kept target home start [] row forest) (intact : Intact {} forest)
    (noDocument : ∀ id, start ≤ id → forest.isA Content.isDocument id = false) (id : NodeId)
    (new : start ≤ id) (isInner : forest.isA Content.isInner id) :
    forest.Reaches home id ∨
      target.isUnder ∧ ∃ top, start ≤ top ∧ forest.Displaced home top ∧ forest.Reaches top id := by
  induction id using Nat.strong_induction_on with
  | h id ih =>
      rcases kept.placed id new isInner List.not_mem_nil with
        ⟨parent, there, rfl | made⟩ | ⟨isUnder, displaced⟩
      · exact .inl (Reaches.here.child (intact.agrees.child id parent there))
      · have among := intact.agrees.child id parent there
        -- A fragment would be empty, and there is no new document.
        have holder : forest.isA Content.isInner parent := by
          obtain ⟨above, below, isAbove, -, holds⟩ := intact.agrees.fits id parent there
          have notDocument := noDocument parent made
          have emptied := kept.emptied parent made
          rw [isA, isAbove] at notDocument emptied ⊢
          cases above with
          | document => cases notDocument
          | fragment =>
              rw [emptied rfl List.not_mem_nil] at among
              cases among
          | element => rfl
          | _ => cases holds
        refine (ih parent (intact.under id parent (Nat.zero_le _) there).2 made holder).imp
          (fun reaches => reaches.child among) fun ends => ?_
        obtain ⟨isUnder, top, isNew, displaced, reaches⟩ := ends
        exact ⟨isUnder, top, isNew, displaced, reaches.child among⟩
      · exact .inr ⟨isUnder, id, new, displaced, .here⟩

/-- The doctypes that documents remember exist. -/
def Forest.KnowsDoctypes (forest : Forest) : Prop :=
  ∀ document doctype, forest.doctype? document = some doctype → doctype < forest.size

theorem Forest.KnowsDoctypes.add_document {forest : Forest} (knows : forest.KnowsDoctypes)
    (version : Value) :
    (forest.add { content := .document version none, owner := none }).KnowsDoctypes := by
  intro document doctype remembers
  rw [doctype?, content?_add] at remembers
  rw [size_add]
  by_cases last : document = forest.size
  · rw [if_pos last] at remembers
    cases remembers
  · rw [if_neg last] at remembers
    exact Nat.lt_succ_of_lt (knows document doctype remembers)

section Compile

variable {settings : Settings} {spec document arguments result : Value}
  {where? : Option (Mode × Value)} {before start after : World} {task : Task}

/-- All that a build makes and that can be inside of an element is in the tree that it goes
by when it ends.  The one exception are elements under a document, each of which takes the
place of the one before: there it may be in the tree of an element that a later one has
displaced.  What the build puts at one target, such as the members of a sequence, has the
same parent and is in its order, unless that is under a document. -/
theorem compile_keeps (intact : Intact {} before.forest)
    (doctypes : before.forest.KnowsDoctypes)
    (known : ∀ choice ∈ where?, ∀ id ∈ choice.2.node?, id < before.forest.size)
    (prepared : prepare settings where? document arguments before = .ok task start)
    (isDocument : start.forest.isA Content.isDocument task.scene.document)
    (run : compile settings spec where? document arguments before = .ok result after) :
    ∃ home, task.target.home? start.forest = some home ∧
      (∀ id, start.forest.size ≤ id → after.forest.isA Content.isInner id →
        after.forest.Reaches home id ∨
          task.target.isUnder ∧ ∃ top, start.forest.size ≤ top ∧ after.forest.Displaced home top ∧
            after.forest.Reaches top id) ∧
      ∀ target : Target,
        (target.isUnder → start.forest.isA Content.isDocument target.reference = false) →
        ∃ parent,
          (placedAt task.scene target (task.visits spec start)).Sublist
            (after.forest.children parent) := by
  have ready : Ensures (prepare settings where? document arguments) before _ _ :=
    stays_prepare (I := fun forest => Intact {} forest ∧ forest.KnowsDoctypes)
      (fun forest version ⟨intact, doctypes⟩ => ⟨intact.add _ _, doctypes.add_document version⟩)
      ⟨intact, doctypes⟩ known
  obtain ⟨⟨intact, doctypes⟩, rfl, inside, home, isHome⟩ := ready.of_ok prepared
  have old := inside isDocument
  obtain ⟨last, built, -⟩ := build_of_compile prepared run
  let first : Visit := { value := spec, place := { target := task.target }, world := start }
  have grows := (grows_buildWithin task.scene _ spec { target := task.target } start).of_ok built
  have placed {home : NodeId} (early : home < start.forest.size) :=
    ((retaining task.scene early old).of_build _ first).of_ok built
  have holding {home : NodeId} : Holding task.scene task.target home start.forest.size [] []
      start.forest :=
    { intact, known := Nat.le_refl _
      kept :=
        { placed := fun id new isInner => absurd (lt_size_of_isA isInner) (Nat.not_lt.mpr new)
          emptied := fun id new isFragment =>
            absurd (lt_size_of_isA isFragment) (Nat.not_lt.mpr new)
          rows := fun _ _ => List.nil_sublist _
          doctypes := fun document doctype remembers => .inl (doctypes document doctype remembers) } }
  have woven : Intact {} after.forest :=
    (Intact.stays_buildWithin first intact ⟨Nat.zero_le _, old⟩ fun _ _ _ _ _ _ =>
      Nat.zero_le _).of_ok built
  by_cases isUnder : task.target.isUnder
  · have retains := (placed old).1 [] [] _ (Target.eq_under isUnder) holding
      ⟨old, .inl ⟨isUnder, rfl⟩, fun new => absurd old (Nat.not_lt.mpr new)⟩
    refine ⟨_, by rw [Target.home?, if_pos isUnder],
      retains.holding.kept.reaches woven grows.noDocument, fun other none => ?_⟩
    refine retains.siblings other fun _ isUnder => ?_
    rw [grows.isDocument]
    exact none isUnder
  · rw [Target.home?, if_neg isUnder] at isHome ⊢
    have early := (intact.agrees.fits _ home isHome).homeInside
    have retained := (placed early).2 (by simpa using isUnder) rfl isHome holding
    exact ⟨home, isHome, retained.kept.reaches woven grows.noDocument,
      fun other _ => retained.siblings other⟩

end Compile

theorem woven_of_compile {settings : Settings} {spec document arguments result : Value}
    {where? : Option (Mode × Value)} {before after : World} (intact : Intact {} before.forest)
    (known : ∀ choice ∈ where?, ∀ id ∈ choice.2.node?, id < before.forest.size)
    (run : compile settings spec where? document arguments before = .ok result after) :
    Intact {} after.forest :=
  (intact_compile intact known).of_ok run

/-- A sequence of two elements. -/
def displacing : Value := .list [.map [(.null, .text "a")], .map [(.null, .text "b")]]

theorem Forest.Agrees.not_reaches {forest : Forest} {home id : NodeId} (agrees : forest.Agrees)
    (top : forest.parent? id = none) (differ : id ≠ home) : ¬ forest.Reaches home id := by
  intro reaches
  cases reaches with
  | here => exact differ rfl
  | child _ among =>
      rw [agrees.parent _ _ among] at top
      cases top

/-- In a new document the second element takes the place of the first one, which is not in
the tree any more. -/
theorem displaced_displacing : ∃ result after,
    compile {} displacing none .null (.list []) {} = .ok result after ∧
      after.forest.isA Content.isInner 1 ∧ ¬ after.forest.Reaches 0 1 ∧
      after.forest.children 0 = [2] := by
  have ends : endsIn (compile {} displacing none .null (.list [])) {}
      (fun _ after => after.forest.isA Content.isInner 1 ∧ after.forest.parent? 1 = none ∧
        after.forest.children 0 = [2]) fun _ _ => False := by decide +kernel
  have intact : Intact {} ({} : World).forest := Intact.refl wellNamed_empty.agrees
  cases run : compile {} displacing none .null (.list []) {} with
  | error => exact (failed_of_endsIn ends run).elim
  | ok result after =>
      obtain ⟨isInner, top, row⟩ := done_of_endsIn ends run
      have woven := woven_of_compile intact (by simp) run
      exact ⟨result, after, rfl, isInner, woven.agrees.not_reaches top (by decide), row⟩

/-- The first element is displaced. -/
theorem compile_keeps_displacing : ∃ result after top,
    compile {} displacing none .null (.list []) {} = .ok result after ∧
      after.forest.Displaced 0 top ∧ after.forest.Reaches top 1 := by
  have ready : endsIn (prepare {} none .null (.list [])) {}
      (fun task start => task.target = .under 0 ∧ start.forest.size = 1 ∧
        start.forest.isA Content.isDocument task.scene.document) fun _ _ => False := by
    decide +kernel
  have ends : endsIn (compile {} displacing none .null (.list [])) {}
      (fun _ after => after.forest.isA Content.isInner 1 ∧ after.forest.parent? 1 = none)
      fun _ _ => False := by decide +kernel
  have intact : Intact {} ({} : World).forest := Intact.refl wellNamed_empty.agrees
  cases prepared : prepare {} none .null (.list []) {} with
  | error => exact (failed_of_endsIn ready prepared).elim
  | ok task start =>
      cases run : compile {} displacing none .null (.list []) {} with
      | error => exact (failed_of_endsIn ends run).elim
      | ok result after =>
          obtain ⟨isTarget, size, isDocument⟩ := done_of_endsIn ready prepared
          obtain ⟨isInner, top⟩ := done_of_endsIn ends run
          have woven := woven_of_compile intact (by simp) run
          have doctypes : ({} : World).forest.KnowsDoctypes := by
            intro document doctype remembers
            rw [doctype?, content?_eq_none (Nat.zero_le _)] at remembers
            cases remembers
          obtain ⟨home, isHome, reached, -⟩ :=
            compile_keeps intact doctypes (by simp) prepared isDocument run
          obtain rfl : home = 0 := by
            rw [isTarget] at isHome
            exact (Option.some.inj isHome).symm
          rcases reached 1 (Nat.le_of_eq size) isInner with reaches | ⟨-, top', -, displaced, reaches⟩
          · exact absurd reaches (woven.agrees.not_reaches top (by decide))
          · exact ⟨result, after, top', rfl, displaced, reaches⟩

end MarkupSpec
