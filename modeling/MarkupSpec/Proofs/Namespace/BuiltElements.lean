import MarkupSpec.Proofs.Namespace.ElementOrigins
import MarkupSpec.Proofs.Namespace.Lexical

/-!
# What a build does with namespaces

The main statement is `compile_lexical`.  After a build the new elements are those
that its visits make of element maps, and copies.  An element that a visit makes
is in the namespace that the maps around it declare for its qualifier, or else in
the one in scope where the build puts its nodes, and so are its attributes.

What a map declares is read off its flattened attributes (`declarationsIn`).
-/

namespace MarkupSpec

open Forest Edit Build

/-! ## What element maps declare -/

/-- What an element map declares, by its flattened attributes. -/
def declarationsIn (entries : List (String × String)) : List (Option String × String) :=
  (sortAttributes entries).declared.filter fun entry => entry.1 != xmlQualifier

/-- The resolution is of an element with this flattened name and these flattened
attributes. -/
structure Resolution.Of (name : String) (entries : List (String × String))
    (resolution : Resolution) : Prop where
  name : (resolution.qualifier, resolution.localName) = splitQualified name
  declarations : resolution.declarations = declarationsIn entries
  attributes : resolution.attributes = (sortAttributes entries).plain

theorem of_resolveIn {scope : List (String × String)} {name : String}
    {entries : List (String × String)} {resolution : Resolution}
    (found : resolveIn scope name (sortAttributes entries) = .ok resolution) :
    resolution.Of name entries := by
  unfold resolveIn at found
  dsimp only at found
  split at found
  · cases found
    exact ⟨rfl, rfl, rfl⟩
  · cases found

theorem ensures_resolveFlat (name : String) (entries : List (String × String))
    (nodes : List NodeId) (context : Option ErrorContext) (level : ErrorLevel) (world : World) :
    Ensures (resolveFlat name entries nodes context level) world
      (fun resolution _ => resolution.Of name entries) fun _ _ => True := by
  have judges (scope : List (String × String)) (final : World) :
      Ensures (resolutionOr name context level (resolveIn scope name (sortAttributes entries))) final
        (fun resolution _ => resolution.Of name entries) fun _ _ => True := by
    unfold resolutionOr
    split
    · rename_i resolution found
      exact of_resolveIn found
    · trivial
  rw [resolveFlat]
  dsimp only
  split
  · exact judges [] world
  · rw [MarkupSpec.ensures_bind]
    exact (ensures_scopeAt nodes).mono (fun scope final _ => judges scope final)
      fun _ _ _ => trivial

/-- The value of a visit is an element map with this flattened name and these
flattened attributes. -/
def Visit.Flattens (scene : Scene) (visit : Visit) (name : String)
    (entries : List (String × String)) : Prop :=
  ∃ given attributes children read named flat,
    visit.part? scene = some (.element given attributes children, read) ∧
    flatten scene.arguments given read = .ok (some name) named ∧
    flattenAttributes pure scene.arguments attributes named = .ok entries flat

theorem ensures_resolveElement_of (scene : Scene) (place : Place) (spec : Spec) (given : Value)
    (attributes : RawAttributes) (world : World) :
    Ensures (resolveElement scene place spec given attributes) world
      (fun found _ => ∃ name entries named flat,
        flatten scene.arguments given world = .ok (some name) named ∧
        flattenAttributes pure scene.arguments attributes named = .ok entries flat ∧
        found.2.Of name entries)
      fun _ _ => True := by
  rw [resolveElement, MarkupSpec.ensures_bind]
  show Ensures (flatten scene.arguments given >>= _) world _ _
  rw [MarkupSpec.ensures_bind]
  refine Ensures.of_run (fun text named run => ?_) fun _ _ _ => trivial
  cases text with
  | none => trivial
  | some name =>
      have unchanged : Ensures place.nearest named (fun _ after => after = named)
          fun _ _ => True := by
        unfold Place.nearest
        split
        · rfl
        · exact ensures_implicitParent (fun _ _ => rfl) fun _ => trivial
      show Ensures (place.nearest >>= _) named _ _
      rw [MarkupSpec.ensures_bind]
      refine unchanged.mono (fun near after same => ?_) fun _ _ _ => trivial
      subst same
      rw [MarkupSpec.ensures_bind, resolve, MarkupSpec.ensures_bind]
      refine Ensures.of_run (fun entries flat flattens => ?_) fun _ _ _ => trivial
      exact (ensures_resolveFlat name entries _ _ _ flat).mono
        (fun resolution _ isOf => ⟨name, entries, after, flat, run, flattens, isOf⟩)
        fun _ _ _ => trivial

/-- The element that a visit makes has the name and the declarations of its map. -/
theorem Visit.of_made? {scene : Scene} {visit : Visit} {made : Made} {after : World}
    (isMade : visit.made? scene = some (made, after)) :
    ∃ name entries, visit.Flattens scene name entries ∧ made.resolution.Of name entries := by
  unfold made? at isMade
  split at isMade
  · rename_i given attributes children read part
    split at isMade
    · rename_i run
      cases isMade
      have keeps : Ensures (makeElement scene visit.place (.element given attributes children)
          given attributes) read
          (fun made _ => ∃ name entries named flat,
            flatten scene.arguments given read = .ok (some name) named ∧
            flattenAttributes pure scene.arguments attributes named = .ok entries flat ∧
            made.resolution.Of name entries)
          fun _ _ => True := by
        rw [makeElement, MarkupSpec.ensures_bind]
        refine (ensures_resolveElement_of scene visit.place _ given attributes read).mono
          (fun found after isOf => ?_) fun _ _ _ => trivial
        obtain ⟨near, resolution⟩ := found
        rw [MarkupSpec.ensures_bind]
        refine Ensures.of_run (fun element _ _ => ?_) fun _ _ _ => trivial
        rw [MarkupSpec.ensures_bind]
        exact Ensures.of_run (fun _ _ _ => isOf) fun _ _ _ => trivial
      obtain ⟨name, entries, named, flat, flattens, flattens', isOf⟩ := keeps.of_ok run
      exact ⟨name, entries, ⟨given, attributes, children, read, named, flat, part, flattens,
        flattens'⟩, isOf⟩
    · cases isMade
  · cases isMade

/-! ## Getting ready -/

/-- A new document leaves the chains of parents as they are. -/
theorem Forest.Rooted.add_document {forest : Forest} (rooted : forest.Rooted) (version : Value) :
    (forest.add { content := .document version none, owner := none }).Rooted where
  settled id inside := by
    by_cases last : id = forest.size
    · exact ⟨_, .top inside (by simp [parent?, last])⟩
    · have old : id < forest.size := by
        rw [size_add] at inside
        exact Nat.lt_of_le_of_ne (Nat.le_of_lt_succ inside) last
      obtain ⟨path, chain⟩ := rooted.settled id old
      refine (chain.later rooted.onTop (by simp) (fun member among => .inl ?_) fun member among =>
        statedAt_eq_of_lasting ?_).1
      · simp [parent?, Nat.ne_of_lt (chain.lt_size member among)]
      · simp [content?, Nat.ne_of_lt (chain.lt_size member among)]
  onTop id isDocument := by
    by_cases last : id = forest.size
    · simp [parent?, last]
    · simp only [parent?, node?_add, if_neg last]
      refine rooted.onTop id ?_
      simpa [isA, content?, last] using isDocument

theorem rooted_rootDocument {world : World} (rooted : world.forest.Rooted) (settings : Settings)
    (document : Value) :
    Ensures (rootDocument settings document) world (fun _ after => after.forest.Rooted)
      fun _ _ => True := by
  rw [rootDocument]
  split
  · rw [MarkupSpec.ensures_bind, ensures_edit]
    exact rooted.add_document _
  · exact rooted

/-- A build that is ready has a home for its nodes, in a forest where chains end if
they did before. -/
theorem ensures_prepare (settings : Settings) (where? : Option (Mode × Value))
    (document arguments : Value) {world : World} (rooted : world.forest.Rooted) :
    Ensures (prepare settings where? document arguments) world
      (fun task start => start.forest.Rooted ∧ task.scene.settings = settings ∧
        ∃ home, task.target.home? start.forest = some home)
      fun _ _ => True := by
  rw [prepare]
  refine (readsOnly_spread arguments).ensures_bind (fun arguments after _ same => ?_)
    fun _ _ _ => trivial
  have rooted : after.forest.Rooted := same ▸ rooted
  cases where? with
  | none =>
      rw [MarkupSpec.ensures_bind]
      refine (rooted_rootDocument rooted settings document).mono (fun root made rooted => ?_)
        fun _ _ _ => trivial
      refine (readsOnly_nodeOrNone root).ensures_bind (fun id final _ same => ?_)
        fun _ _ _ => trivial
      exact ⟨same ▸ rooted, rfl, id, rfl⟩
  | some choice =>
      obtain ⟨mode, reference⟩ := choice
      cases reference with
      | node reference =>
          refine (readsOnly_documentFor document reference).ensures_bind
            (fun id final _ same => ?_) fun _ _ _ => trivial
          rw [MarkupSpec.ensures_bind, ensures_discard]
          exact ensures_implicitParent (fun home isHome => ⟨same ▸ rooted, rfl, home, isHome⟩)
            fun _ => trivial
      | _ =>
          exact (readsOnly_quoted _).ensures_bind (fun _ _ _ _ => trivial) fun _ _ _ => trivial

/-- A build that is ready has the settings that it was given, and its arguments one by one. -/
theorem scene_of_prepare {settings : Settings} {where? : Option (Mode × Value)}
    {document arguments : Value} {before start : World} {task : Task}
    (prepared : prepare settings where? document arguments before = .ok task start) :
    task.scene.settings = settings ∧
      ∃ read, spread arguments before = .ok task.scene.arguments read := by
  obtain ⟨given, read, spreads, rest⟩ := bind_eq_ok.mp prepared
  suffices same : task.scene.settings = settings ∧ task.scene.arguments = given from
    ⟨same.1, read, same.2 ▸ spreads⟩
  clear prepared spreads
  split at rest
  · obtain ⟨_, _, -, rest⟩ := bind_eq_ok.mp rest
    obtain ⟨_, _, -, rest⟩ := bind_eq_ok.mp rest
    cases rest
    exact ⟨rfl, rfl⟩
  · obtain ⟨_, _, -, rest⟩ := bind_eq_ok.mp rest
    obtain ⟨_, _, -, rest⟩ := bind_eq_ok.mp rest
    cases rest
    exact ⟨rfl, rfl⟩
  · cases rest

/-! ## Builds -/

/-- The visits of a build that is ready. -/
def Task.visits (task : Task) (spec : Value) (start : World) : List Visit :=
  visitsWithin task.scene task.scene.settings.budget
    { value := spec, place := { target := task.target }, world := start }

/-- Every element that is made at one of the visits is plain. -/
def PlainVisits (scene : Scene) (visits : List Visit) : Prop :=
  ∀ visit ∈ visits, ∀ found ∈ visit.made? scene, found.1.resolution.Plain

instance (scene : Scene) (visits : List Visit) : Decidable (PlainVisits scene visits) :=
  inferInstanceAs (Decidable (∀ visit ∈ visits, ∀ found ∈ visit.made? scene,
    found.1.resolution.Plain))

section Compile

variable {settings : Settings} {spec document arguments result : Value}
  {where? : Option (Mode × Value)} {before start after : World} {task : Task}

/-- Once it is ready, a build is that of the whole spec at its target. -/
theorem build_of_compile
    (prepared : prepare settings where? document arguments before = .ok task start)
    (run : compile settings spec where? document arguments before = .ok result after) :
    ∃ last, buildWithin task.scene settings.budget spec { target := task.target } start =
        .ok last after ∧ result = resultOr task.fallback last := by
  have built : Ensures (compile settings spec where? document arguments) before
      (fun result after => ∃ last, buildWithin task.scene settings.budget spec
          { target := task.target } start = .ok last after ∧ result = resultOr task.fallback last)
      fun _ _ => True := by
    rw [compile, compileWithin, MarkupSpec.ensures_bind, Ensures, prepared]
    dsimp only
    rw [MarkupSpec.ensures_bind]
    exact Ensures.of_run (fun last after run => ⟨last, run, rfl⟩) fun _ _ _ => trivial
  exact built.of_ok run

/-- Namespaces are lexical.  After a build each new element comes of a visit, and
the element that a visit makes of a map obeys what the maps around it declare. -/
theorem compile_lexical (rooted : before.forest.Rooted)
    (prepared : prepare settings where? document arguments before = .ok task start)
    (inside : task.target.reference < start.forest.size)
    (free : ∀ qualifier, qualifier ≠ xmlQualifier →
      task.target.surrounding start.forest qualifier ≠ some declarationNamespace)
    (plain : PlainVisits task.scene (task.visits spec start))
    (run : compile settings spec where? document arguments before = .ok result after) :
    Covered task.scene (task.visits spec start) start.forest after.forest ∧
      ∀ visit ∈ task.visits spec start, ∀ made world,
        visit.made? task.scene = some (made, world) →
        ∃ name entries tag, visit.Flattens task.scene name entries ∧
          made.resolution.Of name entries ∧
          after.forest.content? made.element = some (.element tag) ∧
          tag.name = made.resolution.name ∧
          tag.Obeys (lexical (declarationsIn entries :: visit.enclosing)
            (task.target.surrounding start.forest)) := by
  obtain ⟨rootedStart, rfl, home, isHome⟩ :=
    (ensures_prepare settings where? document arguments rooted).of_ok prepared
  obtain ⟨last, built, -⟩ := build_of_compile prepared run
  let first : Visit := { value := spec, place := { target := task.target }, world := start }
  have covered := (covered_buildWithin task.scene task.scene.settings.budget first).of_ok built
  refine ⟨covered, fun visit among made world isMade => ?_⟩
  obtain ⟨name, entries, flattens, isOf⟩ := Visit.of_made? isMade
  have sited : first.place.Sited (task.target.surrounding start.forest) start.forest [] home :=
    sited_target rootedStart inside isHome free
  obtain ⟨home', sited'⟩ := sited_of_visit sited
    (fun visit among made world isMade => plain visit among (made, world) isMade) among
  obtain ⟨-, tag, there, isName, obeys⟩ :=
    visit.obeys_of_made? sited' isMade (plain visit among (made, world) isMade)
  refine ⟨name, entries, tag, flattens, isOf, ?_, isName, isOf.declarations ▸ obeys⟩
  -- The tag lasts from the visit to the end of the build.
  have lasts (before after : World)
      (there : before.forest.content? made.element = some (.element tag))
      (lasts : Lasts before.forest after.forest) :
      after.forest.content? made.element = some (.element tag) := lasts.element there
  exact (ensures_of_visit lasts (Visit.ensures_of_made? isMade lasts there)
    task.scene.settings.budget first among).of_ok built

end Compile

/-- A document with an element that declares a qualifier, around a text. -/
def smallWorld : World where
  forest :=
    { nodes :=
        #[{ content := .document .null none, owner := none, children := [1] },
          { content := .element
              { name := "r", namespaceUri := none, qualifier := none, localName := "r"
                attributes := [Attribute.declaring (some "p", "urn:p")] }
            owner := some 0, parent := some 0, children := [2] },
          { content := .text "t", owner := some 0, parent := some 1 }] }

theorem rooted_smallWorld : smallWorld.forest.Rooted where
  settled := settled_of_descending fun id parent there => by
    have inside : id < 3 := lt_size_of_parent? there
    match id, inside with
    | 0, _ => cases there
    | 1, _ => cases there; decide
    | 2, _ => cases there; decide
  onTop id isDocument := by
    have inside : id < 3 := lt_size_of_isA isDocument
    match id, inside with
    | 0, _ => rfl
    | 1, _ => cases isDocument
    | 2, _ => cases isDocument

/-- A build beside the text, without arguments. -/
def smallTask (mode : Mode) : Task where
  scene := { settings := {}, document := 0, arguments := [] }
  target := { mode, reference := 2 }
  fallback := .node 2

/-- A sequence of an element that declares a qualifier, around another one. -/
def smallSpec : Value :=
  .list
    [.map [(.null, .list [.text "q:x", .map [(.null, .text "p:y"), (.text "q:b", .text "2")]]),
      (.text "xmlns:q", .text "urn:q"), (.text "p:a", .text "1")]]

/-- The two elements of the sequence, which is built before the text, have the
namespaces that are declared around them. -/
theorem compile_lexical_smallSpec :
    ((smallTask .before).visits smallSpec smallWorld).countP
        (fun visit => (visit.made? (smallTask .before).scene).isSome) = 2 ∧
      ∃ result after,
      compile {} smallSpec (some (.before, .node 2)) .null (.list []) smallWorld =
        .ok result after ∧
      ∀ visit ∈ (smallTask .before).visits smallSpec smallWorld, ∀ made world,
        visit.made? (smallTask .before).scene = some (made, world) →
        ∃ tag, after.forest.content? made.element = some (.element tag) ∧
          tag.Obeys (lexical (made.resolution.declarations :: visit.enclosing)
            ((smallTask .before).target.surrounding smallWorld.forest)) := by
  refine ⟨by decide +kernel, ?_⟩
  cases run : compile {} smallSpec (some (.before, .node 2)) .null (.list []) smallWorld with
  | error cause after =>
      have succeeds : endsIn (compile {} smallSpec (some (.before, .node 2)) .null (.list []))
          smallWorld (fun _ _ => True) fun _ _ => False := by decide +kernel
      exact (failed_of_endsIn succeeds run).elim
  | ok result after =>
      have free : ∀ qualifier, qualifier ≠ xmlQualifier →
          (smallTask .before).target.surrounding smallWorld.forest qualifier ≠
            some declarationNamespace := by
        intro qualifier _ same
        have known : (smallWorld.forest.declarations 1).lookup (declarationKey qualifier) =
          some declarationNamespace := same
        rw [show smallWorld.forest.declarations 1 = [("xmlns:p", "urn:p")] by decide +kernel]
          at known
        obtain ⟨front, back, whole, -⟩ := List.lookup_eq_some_iff.mp known
        have among : (declarationKey qualifier, declarationNamespace) ∈ [("xmlns:p", "urn:p")] := by
          rw [whole]
          simp
        have differ : declarationNamespace ≠ "urn:p" := by decide
        exact differ (congrArg Prod.snd (List.mem_singleton.mp among))
      have prepared : prepare {} (some (.before, .node 2)) .null (.list []) smallWorld =
          .ok (smallTask .before) smallWorld := rfl
      have lexical := (compile_lexical rooted_smallWorld prepared (by decide) free
        (by decide +kernel) run).2
      refine ⟨result, after, rfl, fun visit among made world isMade => ?_⟩
      obtain ⟨name, entries, tag, -, isOf, there, -, obeys⟩ :=
        lexical visit among made world isMade
      exact ⟨tag, there, isOf.declarations.symm ▸ obeys⟩

end MarkupSpec
