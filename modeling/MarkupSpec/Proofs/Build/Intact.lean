import MarkupSpec.Proofs.Build.Steps
import MarkupSpec.Proofs.Forest.NodeCreation

/-!
# Builds keep forests woven

A build that puts its nodes at a target of new nodes weaves them into these, however
it ends, and leaves all the other nodes alone (`Forest.Intact.stays_buildWithin`).  It
does so as each of its visits does, since the places inside of a place of new nodes
are places of new nodes as well.
-/

namespace MarkupSpec

open Forest Edit Build

/-- The target goes by a node that there is, and that was not there at the origin. -/
structure Target.Within (target : Target) (origin forest : Forest) : Prop where
  new : origin.size ≤ target.reference
  inside : target.reference < forest.size

theorem Target.Within.later {target : Target} {origin before after : Forest}
    (within : target.Within origin before) (grew : before.size ≤ after.size) :
    target.Within origin after :=
  ⟨within.new, Nat.lt_of_lt_of_le within.inside grew⟩

section Steps

variable {origin : Forest} {scene : Scene} {world : World}

/-- A new node gets its place at a target of new nodes. -/
theorem intact_attach {target : Target} {node : NodeId} (intact : Intact origin world.forest)
    (new : origin.size ≤ target.reference) (lower : target.reference < node)
    (movable : world.forest.Movable node) :
    Stays (Intact origin) (attach target node) world := by
  refine ensures_attach (fun _ after _ same => ?_) fun _ after same => same ▸ intact
  rw [ensures_edit, same]
  exact intact_place intact new lower movable

/-- A node that was just made gets its place. -/
theorem intact_attach_fresh {target : Target} {node : NodeId} {before : Forest}
    (intact : Intact origin before) (within : target.Within origin before)
    (fresh : Fresh before node world.forest) : Stays (Intact origin) (attach target node) world :=
  intact_attach (intact.trans fresh.intact) within.new (fresh.number ▸ within.inside)
    fresh.movable

theorem intact_makeElement (intact : Intact origin world.forest) {place : Place}
    (within : place.target.Within origin world.forest) (spec : Spec) (name : Value)
    (attributes : RawAttributes) :
    Stays (Intact origin) (makeElement scene place spec name attributes) world :=
  ensures_makeElement_attach intact.agrees
    (fun _ _ _ _ added =>
      intact_attach_fresh intact within (added ▸ fresh_add intact.agrees _ _))
    fun _ _ kept => intact.trans kept

theorem intact_buildLeaf (intact : Intact origin world.forest) {place : Place}
    (within : place.target.Within origin world.forest) (spec : Spec) :
    Stays (Intact origin) (buildLeaf scene place spec) world := by
  show Ensures (buildLeaf scene place spec) world _ _
  rw [buildLeaf, MarkupSpec.ensures_bind]
  refine (fresh_makeLeaf scene place.path spec intact.agrees).mono (fun node after fresh => ?_)
    fun _ _ kept => intact.trans kept
  rw [MarkupSpec.ensures_bind]
  exact (intact_attach_fresh intact within fresh).mono (fun _ _ intact => intact)
    fun _ _ intact => intact

/-- A document takes a doctype if it was not there at the origin. -/
theorem intact_giveDoctype (intact : Intact origin world.forest) {document : NodeId}
    (new : origin.size ≤ document) (root : Value) (publicId systemId : Option String) :
    Stays (Intact origin) (giveDoctype document root publicId systemId) world := by
  show Ensures (giveDoctype document root publicId systemId) world _ _
  rw [giveDoctype, MarkupSpec.ensures_bind, ensures_edit, ensures_checkDocument]
  refine ⟨fun isDocument => ?_, fun _ => intact⟩
  refine (readsOnly_doctypeName root).ensures_bind (fun asked after _ same => ?_)
    fun _ after same => same ▸ intact
  rw [MarkupSpec.ensures_bind, ensures_edit, same, createDoctype, ensures_create]
  refine ⟨fun _ => ?_, fun _ => intact⟩
  have fresh (content : Content) : Fresh world.forest world.forest.size
      (world.forest.add { content, owner := some document }) := fresh_add intact.agrees content _
  refine (readsOnly_noticeReplaced document root).ensures_bind (fun _ final _ same => ?_)
    fun _ final same => same ▸ intact.trans (fresh _).intact
  rw [MarkupSpec.ensures_bind, ensures_edit, same]
  exact (intact_placeDoctype (intact.trans (fresh _).intact) new
    { inside := (fresh _).inside, lower := lt_size_of_isA isDocument, movable := (fresh _).movable
      noFragment := by simp [isA, content?, Content.isFragment] }).mono
    (fun _ _ intact => intact) fun _ _ intact => intact

theorem intact_openSequence (intact : Intact origin world.forest) (place : Place) :
    Stays (Intact origin) (openSequence scene place) world := by
  show Ensures (openSequence scene place) world _ _
  rw [openSequence, MarkupSpec.ensures_bind]
  refine ensures_implicitParent (fun home _ => ?_) fun _ => intact
  rw [MarkupSpec.ensures_bind, holderFor]
  split
  · exact intact
  · rw [ensures_edit, ensures_create]
    exact ⟨fun _ => intact.add .fragment _, fun _ => intact⟩

/-- The fragment that holds what was built for a sequence has no place of its own. -/
theorem intact_closeSequence {place inside : Place} {opened built : World} {budget : Nat}
    {items : List Value} {last : Option NodeId}
    (within : place.target.Within origin world.forest)
    (opens : openSequence scene place world = .ok inside opened)
    (builds : buildMembers (buildWithin scene budget) inside 0 none items opened = .ok last built)
    (intact : Intact origin built.forest) :
    Stays (Intact origin) (closeSequence place.target inside.target.reference last) built := by
  show Ensures (closeSequence _ _ last) built _ _
  unfold closeSequence
  split
  · rename_i attaches
    have beside : place.target.isUnder = false := by
      simpa using (Bool.and_eq_true_iff.mp attaches).2
    obtain ⟨-, isHolder, added⟩ := ((grows_openSequence scene place world).of_ok opens).2.2.2 beside
    have grown :=
      (grows_buildMembers (grows_buildWithin scene budget) inside items 0 none opened).of_ok builds
    refine intact_attach intact within.new (isHolder ▸ within.inside) fun home there => ?_
    have noFragment := (intact.agrees.fits _ home there).isFragment
    rw [isHolder, grown.isA_of_lt Content.isFragment_lasting (by rw [added]; simp), added] at noFragment
    simp [isA, content?, Content.isFragment] at noFragment
  · exact intact

/-- A visit at a target of new nodes weaves its own into these. -/
theorem Visit.keeps_intact {visit : Visit}
    (within : visit.place.target.Within origin visit.world.forest)
    (doctypes : ∀ children attributes world,
      visit.part? scene = some (.doctype children attributes, world) →
      origin.size ≤ scene.document) :
    visit.Keeps scene (Intact origin) where
  leaf spec _ part _ intact :=
    intact_buildLeaf intact (Visit.forest_of_part? part ▸ within) spec
  doctype children attributes world part intact :=
    (readsOnly_leadingText _ _ _ _ _).stays_bind intact fun _ _ _ intact =>
      (readsOnly_identifier _ _ _ _ _).stays_bind intact fun _ _ _ intact =>
        (readsOnly_identifier _ _ _ _ _).stays_bind intact fun _ _ _ intact =>
          intact_giveDoctype intact (doctypes children attributes world part) _ _ _
  element name attributes _ _ part intact :=
    intact_makeElement intact (Visit.forest_of_part? part ▸ within) _ name attributes
  opens _ _ _ intact := intact_openSequence intact visit.place
  closes _ _ _ _ _ _ _ part _ opens builds intact :=
    intact_closeSequence (Visit.forest_of_part? part ▸ within) opens builds intact

end Steps

/-- A sequence is opened at a target of new nodes. -/
theorem within_openSequence {origin : Forest} {scene : Scene} {place : Place} {world : World}
    (size : origin.size ≤ world.forest.size) (within : place.target.Within origin world.forest) :
    Ensures (openSequence scene place) world
      (fun inside after => origin.size ≤ after.forest.size ∧
        inside.target.Within origin after.forest)
      fun _ _ => True := by
  refine ensures_openSequence (fun _ => ⟨size, within.new, within.inside⟩) (fun home _ _ _ => ?_)
    fun _ => trivial
  rw [size_add]
  exact ⟨Nat.le_succ_of_le size, size, by simp [Target.under]⟩

/-- Every visit of a build at a target of new nodes is at such a target. -/
theorem within_of_visit {origin : Forest} {scene : Scene} {start visit : Visit} {budget : Nat}
    (size : origin.size ≤ start.world.forest.size)
    (within : start.place.target.Within origin start.world.forest)
    (among : visit ∈ visitsWithin scene budget start) :
    visit.place.target.Within origin visit.world.forest := by
  refine (visits_induct (P := fun place world _ =>
      origin.size ≤ world.forest.size ∧ place.target.Within origin world.forest)
    (H := fun _ => True) (fun _ _ _ _ holds => holds) (fun _ _ _ _ holds same => same ▸ holds)
    (fun _ _ _ _ _ holds run => (within_openSequence holds.1 holds.2).of_ok run)
    ?_ ?_ budget start ⟨size, within⟩ (fun _ _ => trivial) visit among).2
  · intro budget value place segment world node after _ ⟨size, within⟩ _ run
    have grew := (grows_buildWithin scene budget value (place.deeper segment) world).of_ok run
    exact ⟨Nat.le_trans size grew.size, within.later grew.size⟩
  · intro visit made after ⟨size, within⟩ _ isMade
    obtain ⟨spec, name, attributes, world, same, run⟩ := Visit.makeElement_of_made? isMade
    obtain ⟨isNext, grown⟩ :=
      (size_makeElement scene visit.place spec name attributes world).of_ok run
    obtain ⟨-, -, isInside⟩ :=
      (grows_makeElement scene visit.place spec name attributes world).of_ok run
    rw [same] at isNext grown
    have above : origin.size ≤ after.forest.size := by
      rw [grown]
      exact Nat.le_succ_of_le size
    rw [isInside]
    refine ⟨above, ?_, ?_⟩
    · show origin.size ≤ made.element
      rw [isNext]
      exact size
    · show made.element < after.forest.size
      rw [isNext, grown]
      exact Nat.lt_succ_self _

/-- A build at a target of new nodes weaves its nodes into these and leaves all the
others alone, however it ends. -/
theorem Forest.Intact.stays_buildWithin {origin : Forest} {scene : Scene} {budget : Nat}
    (start : Visit) (intact : Intact origin start.world.forest)
    (within : start.place.target.Within origin start.world.forest)
    (doctypes : ∀ visit ∈ visitsWithin scene budget start, ∀ children attributes world,
      visit.part? scene = some (.doctype children attributes, world) →
      origin.size ≤ scene.document) :
    Stays (Intact origin) (buildWithin scene budget start.value start.place) start.world :=
  keeps_buildWithin budget start (fun visit among =>
    Visit.keeps_intact (within_of_visit intact.size within among) (doctypes visit among)) intact

end MarkupSpec
