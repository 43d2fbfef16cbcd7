import MarkupSpec.Proofs.Build.TargetCourse
import MarkupSpec.Proofs.Namespace.BuiltElements
import MarkupSpec.Proofs.Session.WellLinked

/-!
# What a build leaves alone

A build splices its outermost nodes into the list of the home of its target, in the
order in which its visits make them, and leaves all the other nodes that were there as
they are (`compile_splices`).  If nothing is built, nothing changes.

This is said of specs that bring no doctype, which goes into a document wherever the
build is, and no fragment, of which only the children get a place.
-/

namespace MarkupSpec

open Forest Edit Build

section Sets

variable {scene : Scene} {visit : Visit} {visits more : List Visit} {level : Nat} {home node : NodeId}
  {target : Target} {before middle after : Forest} {last later : Option NodeId}

/-- The nodes that are made furthest out are put at the target. -/
structure Sets (scene : Scene) (level : Nat) (target : Target) (home : NodeId) (before : Forest)
    (visits : List Visit) (last : Option NodeId) (after : Forest) : Prop where
  deep : ∀ visit ∈ visits, level ≤ visit.enclosing.length
  last : last = none ↔ builtAt scene level visits = []
  new : ∀ id ∈ builtAt scene level visits, before.size ≤ id
  puts : target.Puts home (builtAt scene level visits) before after

/-- A visit that makes one node puts it at the target. -/
theorem Sets.one (own : visit.enclosing.length = level) (isBuilt : visit.built? scene = some node)
    (new : before.size ≤ node) (puts : target.Puts home [node] before after) :
    Sets scene level target home before [visit] (some node) after where
  deep other among := by
    obtain rfl := List.mem_singleton.mp among
    exact Nat.le_of_eq own.symm
  last := by simp [builtAt_cons own, isBuilt]
  new id among := by
    rw [builtAt_cons own, isBuilt] at among
    obtain rfl := List.mem_singleton.mp among
    exact new
  puts := by
    rw [builtAt_cons own, isBuilt]
    exact puts

/-- What is set under an element that was put at the target does not show there. -/
theorem Sets.below (own : visit.enclosing.length = level) (isBuilt : visit.built? scene = some node)
    (site : target.Site before home) (new : before.size ≤ node)
    (puts : target.Puts home [node] before middle)
    (inner : Sets scene (level + 1) (.under node) node middle visits last after) :
    Sets scene level target home before (visit :: visits) (last <|> some node) after := by
  have none : builtAt scene level visits = [] := builtAt_eq_nil inner.deep
  refine ⟨fun other among => ?_, ?_, fun id among => ?_, ?_⟩
  · rcases List.mem_cons.mp among with rfl | inside
    · exact Nat.le_of_eq own.symm
    · exact Nat.le_of_succ_le (inner.deep other inside)
  · rw [builtAt_cons own, isBuilt]
    cases last <;> simp
  · rw [builtAt_cons own, isBuilt, none] at among
    obtain rfl := List.mem_singleton.mp among
    exact new
  · rw [builtAt_cons own, isBuilt, none]
    exact puts.below site new (inner.puts.appends rfl)

/-- A visit that makes nothing by itself sets what the visits inside of it do. -/
theorem Sets.around (own : visit.enclosing.length = level) (isBuilt : visit.built? scene = none)
    (inner : Sets scene level target home before visits last after) :
    Sets scene level target home before (visit :: visits) last after where
  deep other among := by
    rcases List.mem_cons.mp among with rfl | inside
    · exact Nat.le_of_eq own.symm
    · exact inner.deep other inside
  last := by simp [builtAt_cons own, isBuilt, inner.last]
  new id among := by
    rw [builtAt_cons own, isBuilt] at among
    exact inner.new id among
  puts := by
    rw [builtAt_cons own, isBuilt]
    exact inner.puts

/-- Under a home what is set later comes behind what was set before. -/
theorem Sets.next (isUnder : target.isUnder) (site : target.Site before home)
    (first : Sets scene level target home before visits last middle)
    (rest : Sets scene level target home middle more later after) :
    Sets scene level target home before (visits ++ more) (later <|> last) after where
  deep other among := by
    rcases List.mem_append.mp among with inside | inside
    · exact first.deep other inside
    · exact rest.deep other inside
  last := by
    rw [builtAt_append, List.append_eq_nil_iff, ← first.last, ← rest.last]
    cases later <;> simp
  new id among := by
    rw [builtAt_append] at among
    rcases List.mem_append.mp among with early | late
    · exact first.new id early
    · exact Nat.le_trans first.puts.size (rest.new id late)
  puts := by
    unfold Target.Puts
    rw [if_pos isUnder, builtAt_append]
    exact (first.puts.appends isUnder).trans (rest.puts.appends isUnder) site.agrees

/-- The children of a new fragment are put where a sequence goes when that is closed,
if there are any. -/
theorem Sets.closes {document : Option NodeId} {built after : World}
    (site : target.Site before home) (beside : target.isUnder = false)
    (inner : Sets scene level (.under before.size) before.size
      (before.add { content := .fragment, owner := document }) visits last built.forest)
    (closes : closeSequence target before.size last built = .ok () after) :
    after.forest.size = built.forest.size ∧
      target.Puts home (builtAt scene level visits) before after.forest ∧
      (after.forest = built.forest ∨
        Alters home (target.splice (builtAt scene level visits) (before.children home))
          (target.gone (builtAt scene level visits)) (some before.size) built.forest
          after.forest) := by
  have opens := Appends.add site.agrees before.size .fragment document
  have appends := opens.trans (inner.puts.appends rfl) site.agrees
  unfold closeSequence at closes
  split at closes
  · rename_i attaches
    have nonempty : builtAt scene level visits ≠ [] := fun none => by
      rw [inner.last.mpr none] at attaches
      cases attaches
    have known : before.size < (before.add { content := .fragment, owner := document }).size := by
      simp
    have isFragment : built.forest.isA Content.isFragment before.size := by
      rw [isA, (inner.puts.appends rfl).content _ known]
      simp [content?, Content.isFragment]
    obtain ⟨puts, alters⟩ := (Target.puts_fragment site beside nonempty (Nat.le_refl _) isFragment
      (children_eq_nil (Nat.le_refl _)) appends).of_ok closes
    exact ⟨((lasts_attach target before.size built).of_ok closes).1, puts, .inr alters⟩
  · rename_i idle
    cases closes
    -- Nothing was built, and the fragment is left behind.
    have none : builtAt scene level visits = [] := by
      refine inner.last.mp ?_
      cases last with
      | none => rfl
      | some node => simp [beside] at idle
    have elsewhere : home ≠ before.size := Nat.ne_of_lt site.inside
    refine ⟨rfl, ?_, .inl rfl⟩
    rw [none] at appends ⊢
    unfold Target.Puts
    rw [beside, if_neg Bool.false_ne_true, Target.splice_nil, Target.gone_nil]
    exact appends.alters site.agrees (Nat.le_refl _)
      (.refl appends.agrees (appends.children home site.inside elsewhere
        (Option.some_ne_none _).symm))

/-- What was set in a new fragment is set where that is attached. -/
theorem Sets.closing {document : Option NodeId} {built after : World}
    (site : target.Site before home) (beside : target.isUnder = false)
    (inner : Sets scene level (.under before.size) before.size
      (before.add { content := .fragment, owner := document }) visits last built.forest)
    (closes : closeSequence target before.size last built = .ok () after) :
    Sets scene level target home before visits last after.forest where
  deep := inner.deep
  last := inner.last
  new id among := by
    have later := inner.new id among
    rw [size_add] at later
    exact Nat.le_of_succ_le later
  puts := (inner.closes site beside closes).2.1

end Sets

/-- In every way that a build succeeds it puts its outermost nodes at its target. -/
theorem putting_sets (scene : Scene) : Putting scene (Sets scene) where
  nothing visit _ _ _ part site :=
    { deep := fun other among => Nat.le_of_eq (List.mem_singleton.mp among ▸ rfl)
      last := by simp [Visit.built?_of_none part, builtAt]
      new := by simp [Visit.built?_of_none part, builtAt]
      puts := by
        rw [builtAt_cons rfl, Visit.built?_of_none part]
        exact .nothing site }
  leaf visit spec world node made after home part isLeaf simple makes attaches site := by
    obtain ⟨fresh, puts, -⟩ := Visit.puts_of_leaf site part simple makes attaches
    exact .one rfl (Visit.built?_of_leaf part isLeaf makes) (Nat.le_of_eq fresh.number.symm) puts
  bare visit made after home isMade site :=
    have founds := Visit.founds_of_made? site isMade
    .one rfl (Visit.built?_of_made? isMade) (Nat.le_of_eq founds.element.symm) founds.puts
  element visit made middle home visits last after isMade site inner :=
    have founds := Visit.founds_of_made? site isMade
    .below rfl (Visit.built?_of_made? isMade) site (Nat.le_of_eq founds.element.symm) founds.puts
      inner
  around _ _ _ _ _ _ _ isBuilt _ inner := .around rfl isBuilt inner
  closing _ _ _ _ _ _ _ _ _ site beside inner closes := .closing site beside inner closes
  done _ _ _ _ site :=
    { deep := fun _ none => absurd none List.not_mem_nil
      last := by simp [builtAt]
      new := fun _ none => absurd none List.not_mem_nil
      puts := .nothing site }
  site _ _ _ _ _ _ _ isUnder site sets := site.later isUnder (sets.puts.appends isUnder)
  next _ _ _ _ _ _ _ _ _ _ isUnder site first rest := .next isUnder site first rest

/-! ## The whole build -/

/-- A build that goes under or beside a node that there is begins in the forest as it
is, and goes by that node. -/
theorem prepare_inside (settings : Settings) (where? : Option (Mode × Value))
    (document arguments : Value) (before : World) :
    Ensures (prepare settings where? document arguments) before
      (fun task start => task.scene.settings = settings ∧
        ∀ home, task.target.home? before.forest = some home → home < before.forest.size →
          start.forest = before.forest ∧ task.fallback = .node task.target.reference)
      fun _ _ => True := by
  rw [prepare]
  refine (readsOnly_spread arguments).ensures_bind (fun arguments after _ same => ?_)
    fun _ _ _ => trivial
  cases where? with
  | none =>
      rw [MarkupSpec.ensures_bind, rootDocument]
      split
      · -- The home is the document that is made.
        rw [MarkupSpec.ensures_bind, ensures_edit, Edit.createDocument]
        refine ⟨rfl, fun home isHome inside => ?_⟩
        obtain rfl : after.forest.size = home := Option.some.inj isHome
        rw [same] at inside
        exact absurd inside (Nat.lt_irrefl _)
      · show Ensures (nodeOrNone document >>= _) after _ _
        cases document with
        | node id => exact ⟨rfl, fun _ _ _ => ⟨same, rfl⟩⟩
        | _ =>
            refine ⟨rfl, fun home isHome inside => ?_⟩
            obtain rfl : after.forest.size = home := Option.some.inj isHome
            rw [same] at inside
            exact absurd inside (Nat.lt_irrefl _)
  | some choice =>
      obtain ⟨mode, reference⟩ := choice
      cases reference with
      | node reference =>
          refine (readsOnly_documentFor document reference).ensures_bind
            (fun id final _ same' => ?_) fun _ _ _ => trivial
          rw [MarkupSpec.ensures_bind, ensures_discard]
          exact ensures_implicitParent
            (fun _ _ => ⟨rfl, fun _ _ _ => ⟨same'.trans same, rfl⟩⟩) fun _ => trivial
      | _ => exact (readsOnly_quoted _).ensures_bind (fun _ _ _ _ => trivial) fun _ _ _ => trivial

/-- The outermost nodes that a build makes, in the order of its visits. -/
def Task.outermost (task : Task) (spec : Value) (start : World) : List NodeId :=
  builtAt task.scene 0 (task.visits spec start)

section Compile

variable {settings : Settings} {spec document arguments result : Value}
  {where? : Option (Mode × Value)} {before start after : World} {task : Task} {home : NodeId}

/-- The home of a build is an element or a fragment, in a forest that is in order. -/
structure Task.Home (task : Task) (forest : Forest) (home : NodeId) : Prop where
  isHome : task.target.home? forest = some home
  kind : forest.isA Content.isElement home ∨ forest.isA Content.isFragment home
  agrees : forest.Agrees
  linked : forest.Linked home

theorem Task.Home.site (isHome : task.Home before.forest home) :
    task.target.Site before.forest home where
  isHome := isHome.isHome
  inside := isHome.kind.elim lt_size_of_isA lt_size_of_isA
  noDocument := isHome.kind.elim isDocument_of_isElement isDocument_of_isFragment
  agrees := isHome.agrees
  linked := isHome.linked

/-- What holds of each way in which nodes are put at a target holds of the whole build,
which gives its last node or what it goes by. -/
theorem Putting.of_compile
    {R : Nat → Target → NodeId → Forest → List Visit → Option NodeId → Forest → Prop}
    (putting : Putting task.scene R) (isHome : task.Home before.forest home)
    (prepared : prepare settings where? document arguments before = .ok task start)
    (simple : Simple task.scene (task.visits spec start))
    (run : compile settings spec where? document arguments before = .ok result after) :
    ∃ last, result = resultOr (.node task.target.reference) last ∧
      R 0 task.target home before.forest (task.visits spec start) last after.forest := by
  have site := isHome.site
  obtain ⟨rfl, known⟩ := (prepare_inside settings where? document arguments before).of_ok prepared
  obtain ⟨same, fallback⟩ := known home isHome.isHome site.inside
  obtain ⟨last, built, rfl⟩ := build_of_compile prepared run
  let first : Visit := { value := spec, place := { target := task.target }, world := start }
  have holds := (putting.course.of_build task.scene.settings.budget first).of_ok built simple home
    (show task.target.Site start.forest home from same ▸ site)
  rw [show first.world.forest = before.forest from same] at holds
  exact ⟨last, by rw [fallback], holds⟩

/-- A build splices its outermost nodes into the list of the home of its target.  All
the other nodes that were there keep what they are, their children and their parents,
but for a reference that is replaced. -/
theorem compile_splices (isHome : task.Home before.forest home)
    (prepared : prepare settings where? document arguments before = .ok task start)
    (simple : Simple task.scene (task.visits spec start))
    (run : compile settings spec where? document arguments before = .ok result after) :
    after.forest.children home =
        task.target.splice (task.outermost spec start) (before.forest.children home) ∧
      (∀ id ∈ task.outermost spec start, before.forest.size ≤ id) ∧
      ∀ id < before.forest.size,
        after.forest.content? id = before.forest.content? id ∧
        (id ≠ home → after.forest.children id = before.forest.children id) ∧
        after.forest.parent? id =
          if task.target.gone (task.outermost spec start) = some id then none
          else before.forest.parent? id := by
  obtain ⟨last, -, sets⟩ := (putting_sets task.scene).of_compile isHome prepared simple run
  have puts : task.target.Puts home (task.outermost spec start) before.forest after.forest :=
    sets.puts
  exact ⟨puts.row, sets.new, fun id known =>
    ⟨puts.content known, puts.children known, puts.parent_eq isHome.site sets.new known⟩⟩

end Compile

/-- An element around a text, and another text, in the place of an element. -/
def spliced : Value := .list [.map [(.null, .list [.text "c", .text "v"])], .text "w"]

/-- Two nodes take the place of the first of two children. -/
theorem compile_splices_spliced :
    let world := worldAfter {} linkedRequests
    ∃ result after,
      compile {} spliced (some (.replacing, .node 4)) .null (.list []) world = .ok result after ∧
      world.forest.children 1 = [4, 5] ∧ after.forest.children 1 = [9, 11, 5] ∧
      after.forest.parent? 4 = none ∧ after.forest.children 4 = world.forest.children 4 := by
  intro world
  have intact : Intact {} world.forest :=
    ((Reached.start rfl).requests (by decide +kernel)).intact
  have ready : endsIn (prepare {} (some (.replacing, .node 4)) .null (.list [])) world
      (fun task start => task.target = { mode := .replacing, reference := 4 } ∧
        task.outermost spliced start = [9, 11] ∧ Simple task.scene (task.visits spliced start))
      fun _ _ => False := by decide +kernel
  have succeeds : endsIn (compile {} spliced (some (.replacing, .node 4)) .null (.list [])) world
      (fun _ _ => True) fun _ _ => False := by decide +kernel
  cases prepared : prepare {} (some (.replacing, .node 4)) .null (.list []) world with
  | error => exact (failed_of_endsIn ready prepared).elim
  | ok task start =>
      cases run : compile {} spliced (some (.replacing, .node 4)) .null (.list []) world with
      | error => exact (failed_of_endsIn succeeds run).elim
      | ok result after =>
          obtain ⟨isTarget, outermost, simple⟩ := done_of_endsIn ready prepared
          have isHome : task.Home world.forest 1 :=
            { isHome := by rw [isTarget]; decide +kernel
              kind := .inl (by decide +kernel)
              agrees := intact.agrees
              linked := intact.linked 1 (Nat.zero_le 1) }
          obtain ⟨row, -, others⟩ := compile_splices isHome prepared simple run
          have list : world.forest.children 1 = [4, 5] := by decide +kernel
          obtain ⟨-, children, parent⟩ := others 4 (by decide +kernel)
          rw [isTarget, outermost] at row parent
          refine ⟨result, after, rfl, list, ?_, parent, children (by decide)⟩
          rw [row, list]
          rfl

end MarkupSpec
