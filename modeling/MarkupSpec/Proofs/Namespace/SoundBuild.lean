import MarkupSpec.Proofs.Namespace.ElementOrigins
import MarkupSpec.Proofs.Namespace.SoundForest

/-!
# What a build upholds

Every step of a build of tame visits keeps its forest sound, whether it ends well or
fails, and so does the build (`sound_buildWithin`).
-/

namespace MarkupSpec

open Forest Edit Build

variable {base : Nat} {ground home : NodeId} {outer : Meaning} {world : World}

/-- A node that is given its place moves to the home of the target, or loses the place
it had. -/
theorem moves_attach {target : Target} {homes placed : NodeId → Prop} {node : NodeId}
    (agrees : world.forest.Agrees) (may : placed node)
    (isHome : ∀ home, target.home? world.forest = some home → homes home)
    (loaded : Loaded homes placed world.forest) :
    Ensures (attach target node) world
      (fun _ after => Moves homes placed (fun _ => True) world.forest after.forest ∧
        after.forest.Agrees)
      fun _ after => Moves homes placed (fun _ => True) world.forest after.forest ∧
        after.forest.Agrees := by
  have shifts : Ensures (attach target node) world
      (fun _ after => Shifts homes placed (fun _ => True) world.forest after.forest)
      fun _ after => Shifts homes placed (fun _ => True) world.forest after.forest :=
    shifts_attach may isHome (fun _ _ _ => trivial) fun _ => trivial
  have agreeing : Ensures (attach target node) world (fun _ after => after.forest.Agrees)
      fun _ after => after.forest.Agrees := by
    refine ensures_attach (fun _ after _ same => ?_) fun _ after same => same ▸ agrees
    rw [ensures_edit, same]
    exact (keepsAgreement_place target node world.forest).mono (fun _ _ keeps => keeps agrees)
      fun _ _ keeps => keeps agrees
  exact (shifts.and agreeing).mono (fun _ _ ends => ⟨ends.1 loaded, ends.2⟩)
    fun _ _ ends => ⟨ends.1 loaded, ends.2⟩

/-- A node without a place takes nothing along, unless it is a fragment. -/
theorem Forest.loaded_single {forest : Forest} {node : NodeId}
    (noFragment : forest.isA Content.isFragment node = false)
    (top : forest.parent? node = none) : Loaded (· = home) (· = node) forest where
  children id isNode isFragment := by
    rw [isNode, noFragment] at isFragment
    cases isFragment
  parent id isNode parent there := by
    rw [isNode, top] at there
    cases there

/-- A node without a place is the only one to move. -/
theorem moves_attach_single {target : Target} {node : NodeId} (agrees : world.forest.Agrees)
    (isHome : target.home? world.forest = some home)
    (noFragment : world.forest.isA Content.isFragment node = false)
    (top : world.forest.parent? node = none) :
    Ensures (attach target node) world
      (fun _ after => Moves (· = home) (· = node) (fun _ => True) world.forest after.forest ∧
        after.forest.Agrees)
      fun _ after => Moves (· = home) (· = node) (fun _ => True) world.forest after.forest ∧
        after.forest.Agrees := by
  have only (other : NodeId) (there : target.home? world.forest = some other) : other = home := by
    rw [isHome] at there
    exact (Option.some.inj there).symm
  have loaded : Loaded (· = home) (· = node) world.forest := loaded_single noFragment top
  exact moves_attach agrees rfl only loaded

section Steps

variable {scene : Scene} {place : Place} {enclosing : Enclosing}

/-- The home of a sited place is there already. -/
theorem Place.Sited.home_lt (sited : place.Sited outer world.forest enclosing home) :
    home < world.forest.size :=
  sited.settledHome.lt_size

theorem sound_buildLeaf {spec : Spec} (noCopy : ∀ node, spec ≠ .existing node)
    (sited : place.Sited outer world.forest enclosing home)
    (sound : world.forest.Sound base ground outer) :
    Stays (Sound base ground outer) (buildLeaf scene place spec) world := by
  show Ensures (buildLeaf scene place spec) world _ _
  rw [buildLeaf, MarkupSpec.ensures_bind]
  refine (addsLeaf_makeLeaf scene place.path noCopy world).mono (fun node after adds => ?_)
    fun _ _ same => same ▸ sound
  obtain ⟨-, rfl, content, isLeaf, grown⟩ := adds
  have there : after.forest.content? world.forest.size = some content := by
    rw [grown, content?_add, if_pos rfl]
  have plain : content.isElement = false ∧ content.isFragment = false := by
    cases content <;> first | exact ⟨rfl, rfl⟩ | cases isLeaf
  have isElement : after.forest.isA Content.isElement world.forest.size = false := by
    rw [isA, there]
    exact plain.1
  have isFragment : after.forest.isA Content.isFragment world.forest.size = false := by
    rw [isA, there]
    exact plain.2
  have top : after.forest.parent? world.forest.size = none := by
    rw [grown, parent?_add, parent?_eq_none (Nat.le_refl _)]
  have sound' : after.forest.Sound base ground outer := by
    rw [grown]
    refine sound.add content _ fun tag isTag => ?_
    rw [isTag] at isLeaf
    cases isLeaf
  have isHome : place.target.home? after.forest = some home := by
    rw [← sited.isHome, grown]
    unfold Target.home?
    rw [parent?_add]
  rw [MarkupSpec.ensures_bind]
  refine (moves_attach_single sound'.agrees isHome isFragment top).mono (fun _ final ends => ?_)
    fun _ final ends => ?_
  · exact sound'.place_leaf ends.1 ends.2 sited.home_lt isElement
  · exact sound'.place_leaf ends.1 ends.2 sited.home_lt isElement

/-- A doctype is put under its document, which is there already. -/
theorem sound_giveDoctype (document : NodeId) (root : Value) (publicId systemId : Option String)
    (sound : world.forest.Sound base ground outer) :
    Stays (Sound base ground outer) (giveDoctype document root publicId systemId) world := by
  show Ensures (giveDoctype document root publicId systemId) world _ _
  rw [giveDoctype, MarkupSpec.ensures_bind, ensures_edit, ensures_checkDocument]
  refine ⟨fun isDocument => ?_, fun _ => sound⟩
  refine (readsOnly_doctypeName root).ensures_bind (fun asked after _ same => ?_)
    fun _ after same => same ▸ sound
  rw [MarkupSpec.ensures_bind, ensures_edit, same, createDoctype, ensures_create]
  refine ⟨fun _ => ?_, fun _ => sound⟩
  generalize grown : world.forest.add _ = forest
  have sound' : forest.Sound base ground outer :=
    grown ▸ sound.add (.doctype _ publicId systemId) (some document) fun _ isTag => by cases isTag
  refine (readsOnly_noticeReplaced document root).ensures_bind (fun _ final _ same => ?_)
    fun _ final same => same ▸ sound'
  rw [MarkupSpec.ensures_bind, ensures_edit, same]
  have kinds (test : Content → Bool)
      (fails : ∀ name publicId systemId, test (.doctype name publicId systemId) = false) :
      forest.isA test world.forest.size = false := by
    rw [isA, ← grown, content?_add, if_pos rfl]
    exact fails ..
  have top : forest.parent? world.forest.size = none := by
    rw [← grown, parent?_add, parent?_eq_none (Nat.le_refl _)]
  have loaded : Loaded (· = document) (· = world.forest.size) forest :=
    loaded_single (kinds Content.isFragment fun _ _ _ => rfl) top
  have placed (final : Forest)
      (shifted : Shifts (· = document) (· = world.forest.size) (fun _ => True) forest final)
      (keeps : forest.Agrees → final.Agrees) : final.Sound base ground outer :=
    sound'.place_leaf (shifted loaded) (keeps sound'.agrees) (lt_size_of_isA isDocument)
      (kinds Content.isElement fun _ _ _ => rfl)
  have shifts : Ensures (placeDoctype document world.forest.size) forest
      (fun _ => Shifts (· = document) (· = world.forest.size) (fun _ => True) forest)
      fun _ => Shifts (· = document) (· = world.forest.size) (fun _ => True) forest :=
    shifts_placeDoctype rfl rfl fun _ _ => trivial
  exact (shifts.and (keepsAgreement_placeDoctype document _ forest)).mono
    (fun _ final ends => placed final ends.1 ends.2) fun _ final ends => placed final ends.1 ends.2

theorem sound_buildDoctype (spec : Spec) (path : List String) (children : List Value)
    (attributes : RawAttributes) (sound : world.forest.Sound base ground outer) :
    Stays (Sound base ground outer) (buildDoctype scene spec path children attributes) world :=
  (readsOnly_leadingText _ _ _ _ _).stays_bind sound fun _ _ _ sound =>
    (readsOnly_identifier _ _ _ _ _).stays_bind sound fun _ _ _ sound =>
      (readsOnly_identifier _ _ _ _ _).stays_bind sound fun _ _ _ sound =>
        sound_giveDoctype _ _ _ _ sound

/-- An element that is made obeys what is written down on its way up, since its place
rises. -/
theorem sound_makeElement {spec : Spec} {name : Value} {attributes : RawAttributes}
    (sited : place.Sited outer world.forest enclosing home)
    (rises : place.Rises base ground outer world.forest enclosing home)
    (plain : ∀ found after, resolveElement scene place spec name attributes world = .ok found after →
      found.2.Plain)
    (sound : world.forest.Sound base ground outer) :
    Stays (Sound base ground outer) (makeElement scene place spec name attributes) world := by
  refine (readsOnly_resolveElement scene place spec name attributes).ensures_bind
    (fun found after run same => ?_) fun _ after same => same ▸ sound
  obtain ⟨near, resolution⟩ := found
  have plain : resolution.Plain := plain _ _ run
  obtain ⟨-, found⟩ := (ensures_resolveElement scene spec name attributes sited.isHome).of_ok run
  obtain ⟨tag, isTag, spells, obeys⟩ := sited.spells found plain
  have modest : tag.Modest := by
    refine obeys.modest ?_ (fun _ noXml => sited.free_inside plain noXml) fun entry among => ?_
    · rw [(Resolution.bare_of_tag isTag).2, found.split plain.name]
      exact found.qualified
    · rw [spells.declared_eq] at among
      obtain ⟨declared, member, rfl⟩ := List.mem_map.mp among
      exact (plain.declared declared ((Text.perm_sortByText _ _).mem_iff.mp member)).2
  rw [MarkupSpec.ensures_bind, ensures_edit, same, ensures_createResolved]
  refine ⟨fun _ => ?_, fun _ => sound⟩
  rw [isTag]
  dsimp only
  generalize grown : world.forest.add _ = forest
  have old {id : NodeId} (inside : id < world.forest.size) :
      forest.content? id = world.forest.content? id := by
    rw [← grown, content?_add, if_neg (Nat.ne_of_lt inside)]
  have there : forest.content? world.forest.size = some (.element tag) := by
    rw [← grown, content?_add, if_pos rfl]
  have parents (id : NodeId) : forest.parent? id = world.forest.parent? id := by
    rw [← grown, parent?_add]
  have sound' : forest.Sound base ground outer :=
    grown ▸ sound.add (.element tag) (some scene.document) fun tag' isTag' => by
      cases isTag'
      exact modest
  have top : forest.parent? world.forest.size = none := by
    rw [parents, parent?_eq_none (Nat.le_refl _)]
  have isFragment : forest.isA Content.isFragment world.forest.size = false := by
    rw [isA, there]
    rfl
  have isHome : place.target.home? forest = some home := by
    rw [← sited.isHome]
    unfold Target.home?
    rw [parents]
  have childless (id : NodeId) : forest.parent? id ≠ some world.forest.size := by
    rw [parents]
    exact sound.descends.childless (Nat.le_succ _) id
  -- The way up from the home of the place is as it was when the place rose.
  have grows : Grows Nobody world.forest forest := grown ▸ grows_add rfl
  have written (path : List NodeId) (ascent : forest.Ascent base ground home path) :
      tag.Obeys (forest.writtenOver (world.forest.size :: path) outer) := by
    obtain ⟨ascent, same⟩ := grows.ascent ascent sited.settledHome
    refine obeys.congr fun qualifier noXml => ?_
    rw [writtenOver_cons, writtenAt_of_content? there, same, spells.lookup_declared found.sorted,
      rises.written path ascent qualifier noXml]
    rfl
  rw [MarkupSpec.ensures_bind]
  have placed (final : Forest)
      (moves : Moves (· = home) (· = world.forest.size) (fun _ => True) forest final)
      (agrees : final.Agrees) : final.Sound base ground outer := by
    refine sound'.place_element moves agrees sited.home_lt rises.low rises.since childless top
      fun tag' isTag' path ascent => ?_
    rw [there] at isTag'
    cases isTag'
    exact written path ascent
  let next : World := { after with forest }
  have agrees : next.forest.Agrees := sound'.agrees
  exact (moves_attach_single agrees isHome isFragment top).mono
    (fun _ final ends => placed final.forest ends.1 ends.2)
    fun _ final ends => placed final.forest ends.1 ends.2

theorem sound_openSequence (sound : world.forest.Sound base ground outer) :
    Stays (Sound base ground outer) (openSequence scene place) world := by
  show Ensures (openSequence scene place) world _ _
  rw [openSequence, MarkupSpec.ensures_bind]
  refine ensures_implicitParent (fun home _ => ?_) fun _ => sound
  rw [MarkupSpec.ensures_bind, holderFor]
  split
  · exact sound
  · rw [ensures_edit, ensures_create]
    refine ⟨fun _ => ?_, fun _ => sound⟩
    exact sound.add .fragment _ fun _ isTag => by cases isTag

/-- The members of a fragment are moved to the ground, which is where a place beside a
node is. -/
theorem sound_closeSequence {target : Target} {holder : NodeId} {last : Option NodeId}
    (isGround : target.isUnder = false → ∀ home, target.home? world.forest = some home →
      home = ground)
    (new : target.isUnder = false → base ≤ holder)
    (isFragment : target.isUnder = false → world.forest.isA Content.isFragment holder)
    (sound : world.forest.Sound base ground outer) :
    Stays (Sound base ground outer) (closeSequence target holder last) world := by
  show Ensures (closeSequence target holder last) world _ _
  unfold closeSequence
  split
  · rename_i attaches
    have beside : target.isUnder = false := by simpa using (Bool.and_eq_true_iff.mp attaches).2
    have isFragment := isFragment beside
    have loaded : Loaded (fun id => id = ground ∨ id = holder)
        (fun id => id = holder ∨ world.forest.parent? id = some holder) world.forest := by
      refine ⟨fun id isPlaced isFragment' child among => ?_, fun id isPlaced parent there => ?_⟩
      · rcases isPlaced with rfl | there
        · exact .inr (sound.agrees.parent _ child among)
        · rw [(sound.agrees.fits id holder there).isFragment] at isFragment'
          cases isFragment'
      · rcases isPlaced with rfl | there'
        · rw [(sound.agrees.fits _ parent there).isFragment] at isFragment
          cases isFragment
        · rw [there] at there'
          exact .inr (Option.some.inj there')
    refine (moves_attach sound.agrees (.inl rfl)
      (fun home there => .inl (isGround beside home there)) loaded).mono
      (fun _ after ends => ?_) fun _ after ends => ?_
    · exact sound.place_members ends.1 ends.2 (new beside) isFragment
    · exact sound.place_members ends.1 ends.2 (new beside) isFragment
  · exact sound

end Steps

section Run

variable {scene : Scene} {visit : Visit}

/-- A tame visit at a place that rises keeps the forest sound. -/
theorem Visit.keeps_sound (tame : visit.Tame scene)
    (sited : visit.place.Sited outer visit.world.forest visit.enclosing home)
    (rises : visit.place.Rises base ground outer visit.world.forest visit.enclosing home) :
    visit.Keeps scene (Sound base ground outer) where
  leaf spec world part _ sound := by
    have same := Visit.forest_of_part? part
    refine sound_buildLeaf (fun node isCopy => ?_) (same.symm ▸ sited) sound
    exact tame.noNode node world (isCopy ▸ part)
  doctype children attributes world part sound := sound_buildDoctype _ _ _ _ sound
  element name attributes children world part sound := by
    have same := Visit.forest_of_part? part
    exact sound_makeElement (same.symm ▸ sited) (same.symm ▸ rises)
      (fun found after run => tame.plain _ (Visit.resolved?_of_run part run)) sound
  opens items world part sound := sound_openSequence sound
  closes items world inside opened budget last built part _ opens run sound := by
    have same := Visit.forest_of_part? part
    have grew := (grows_openSequence scene visit.place world).of_ok opens
    have grown := (grows_buildMembers (grows_buildWithin scene budget) inside items 0 none
      opened).of_ok run
    refine sound_closeSequence (fun beside home' isHome => ?_) (fun beside => ?_)
      (fun beside => ?_) sound
    · -- The reference may have lost its parent, but has no other one.
      have was := sited.isHome
      simp only [Target.home?, beside] at was isHome
      have inside := Nat.lt_of_lt_of_le sited.reference (same ▸ grew.1.size)
      rcases grown.parent _ inside with stays | ⟨gone, -⟩
      · rcases grew.1.parent _ (same ▸ sited.reference) with stays' | ⟨gone, -⟩
        · rw [stays, stays', same, was] at isHome
          exact (Option.some.inj isHome).symm.trans (rises.beside beside)
        · rw [stays, gone] at isHome
          cases isHome
      · rw [gone] at isHome
        cases isHome
    · rw [(grew.2.2.2 beside).2.1, same]
      exact rises.since
    · obtain ⟨-, isNew, added⟩ := grew.2.2.2 beside
      rw [isNew, grown.isA_of_lt Content.isFragment_lasting (by rw [added]; simp), added, isA,
        content?_add, if_pos rfl]
      rfl

/-- A build of tame visits keeps its forest sound, however it ends. -/
theorem sound_buildWithin (start : Visit) {budget : Nat}
    (sited : start.place.Sited outer start.world.forest start.enclosing home)
    (rises : start.place.Rises base ground outer start.world.forest start.enclosing home)
    (tame : ∀ visit ∈ visitsWithin scene budget start, visit.Tame scene)
    (sound : start.world.forest.Sound base ground outer) :
    Stays (Sound base ground outer) (buildWithin scene budget start.value start.place)
      start.world := by
  refine keeps_buildWithin budget start (fun visit among => ?_) sound
  obtain ⟨home, sited, rises⟩ := rises_of_visit sited rises (plainVisits_of_tame tame) among
  exact visit.keeps_sound (tame visit among) sited rises

end Run

end MarkupSpec
