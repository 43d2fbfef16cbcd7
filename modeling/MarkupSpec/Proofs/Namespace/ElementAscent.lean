import MarkupSpec.Proofs.Namespace.BuiltElements
import MarkupSpec.Proofs.Namespace.WrittenDeclarations

/-!
# Ways up from what is built

While a build runs, the elements that it has made are below the node it puts its
nodes under, its *ground*, or below a fragment, or nowhere.  The way up to there
leads over elements that the build has made (`Forest.Ascent`).

At each place that a build comes to, what is written down on the way up, over
what qualifiers mean at the ground, is the lexical meaning (`Place.Rises`).  So an
element that is made there obeys what is written down on its own way up.
-/

namespace MarkupSpec

open Forest Edit Build

namespace Forest

variable {base : Nat} {ground id : NodeId} {before after : Forest} {path : List NodeId}

/-- A way up over elements that were made since the forest had some size, to the
ground or to a fragment. -/
abbrev Ascent (base : Nat) (ground : NodeId) (forest : Forest) : NodeId → List NodeId → Prop :=
  forest.Climb (fun id => base ≤ id ∧ forest.isA Content.isElement id = true)
    fun id => id = ground ∨ forest.isA Content.isFragment id = true

/-- After a move there are no new ways up, apart from nodes that are left out, if
elements are only moved from a fragment to a node that no way leads over. -/
theorem Moves.ascent {homes placed dropped S : NodeId → Prop}
    (moves : Moves homes placed dropped before after) (ascent : after.Ascent base ground id path)
    (start : S id)
    (closed : ∀ id parent, S id → after.parent? id = some parent → S parent)
    (moved : ∀ id home, S id → placed id → before.isA Content.isElement id → homes home →
      ¬ (base ≤ home ∧ before.isA Content.isElement home = true) ∧
        ∃ fragment, before.parent? id = some fragment ∧
          before.isA Content.isFragment fragment = true) :
    before.Ascent base ground id path := by
  refine Climb.earlier ascent start closed (fun id _ isMember => ?_) (fun id _ isGoal => ?_)
    fun id parent inS isMember there => ?_
  · rwa [moves.isElement] at isMember
  · rwa [moves.isFragment] at isGoal
  · rw [moves.isElement] at isMember
    rcases moves.parent id with same | ⟨gone, -⟩ | ⟨home, there', isHome, isPlaced⟩
    · exact .inl (same ▸ there)
    · rw [there] at gone
      cases gone
    · rw [there] at there'
      cases there'
      obtain ⟨noMember, fragment, was, isFragment⟩ := moved id parent inS isPlaced isMember.2 isHome
      refine .inr ⟨?_, fragment, was, .inr isFragment⟩
      rwa [moves.isElement]

theorem Moves.writtenOver {homes placed dropped : NodeId → Prop}
    (moves : Moves homes placed dropped before after) (path : List NodeId) (outer : Meaning) :
    after.writtenOver path outer = before.writtenOver path outer :=
  writtenOver_congr fun id _ => writtenAt_eq_of_lasting (moves.content id)

/-- A way up from a node that was there before a build was there too, and the same is
written down on it. -/
theorem Grows.ascent {spared : NodeId → Prop} (grows : Grows spared before after)
    (ascent : after.Ascent base ground id path) (settled : before.Settled id) :
    before.Ascent base ground id path ∧
      ∀ outer, after.writtenOver path outer = before.writtenOver path outer := by
  have link {id parent : NodeId} (settled : before.Settled id)
      (there : after.parent? id = some parent) : before.parent? id = some parent := by
    rcases grows.parent id settled.lt_size with same | ⟨gone, -⟩
    · exact same ▸ there
    · rw [there] at gone
      cases gone
  have closed (id parent : NodeId) (settled : before.Settled id)
      (there : after.parent? id = some parent) : before.Settled parent :=
    settled.parent (link settled there)
  refine ⟨Climb.earlier ascent settled closed (fun id settled isMember => ?_)
    (fun id settled isGoal => ?_) fun id parent settled _ there => .inl (link settled there),
    fun outer => writtenOver_congr fun other among => ?_⟩
  · rwa [grows.isA_of_lt Content.isElement_lasting settled.lt_size] at isMember
  · rwa [grows.isA_of_lt Content.isFragment_lasting settled.lt_size] at isGoal
  · have inside := (ascent.forall_mem settled closed other among).lt_size
    exact writtenAt_eq_of_lasting (grows.content other inside)

end Forest

/-- A place whose lexical meaning is what is written down on the way up from it.  A
place beside a node is at the ground. -/
structure Place.Rises (base : Nat) (ground : NodeId) (outer : Meaning) (place : Place)
    (forest : Forest) (enclosing : Enclosing) (home : NodeId) : Prop where
  below : ground < base
  since : base ≤ forest.size
  low : home = ground ∨ base ≤ home
  beside : place.target.isUnder = false → home = ground
  written : ∀ path, forest.Ascent base ground home path → ∀ qualifier, qualifier ≠ xmlQualifier →
    forest.writtenOver path outer qualifier = lexical enclosing outer qualifier

namespace Place.Rises

variable {base : Nat} {ground : NodeId} {outer : Meaning} {place : Place} {forest after : Forest}
  {enclosing : Enclosing} {home : NodeId}

/-- A place still rises when something was built there. -/
theorem later (rises : place.Rises base ground outer forest enclosing home)
    (settled : forest.Settled home) {spared : NodeId → Prop} (grows : Grows spared forest after) :
    place.Rises base ground outer after enclosing home where
  below := rises.below
  since := Nat.le_trans rises.since grows.size
  low := rises.low
  beside := rises.beside
  written path ascent qualifier noXml := by
    obtain ⟨ascent, same⟩ := grows.ascent ascent settled
    rw [same]
    exact rises.written path ascent qualifier noXml

/-- The place of the members of a sequence rises as the sequence does.  From a new
fragment there is no way up. -/
theorem opens {scene : Scene} {world : World}
    (sited : place.Sited outer world.forest enclosing home)
    (rises : place.Rises base ground outer world.forest enclosing home) :
    Ensures (openSequence scene place) world
      (fun inside after => ∃ home, inside.Sited outer after.forest enclosing home ∧
        inside.Rises base ground outer after.forest enclosing home)
      fun _ _ => True := by
  have rising : Ensures (openSequence scene place) world
      (fun inside after => ∀ home, inside.target.home? after.forest = some home →
        inside.Rises base ground outer after.forest enclosing home)
      fun _ _ => True := by
    rw [openSequence, MarkupSpec.ensures_bind]
    refine ensures_implicitParent (fun other there => ?_) fun _ => trivial
    rw [sited.isHome] at there
    cases there
    rw [MarkupSpec.ensures_bind, holderFor]
    split
    · rename_i isUnder
      have same : some place.target.reference = some home := by
        rw [← sited.isHome, Target.home?, if_pos isUnder]
      intro home' isHome
      cases same
      cases isHome
      exact { rises with beside := fun beside => by cases beside }
    · rename_i beside
      have isGround : home = ground := rises.beside (by simpa using beside)
      rw [ensures_edit, ensures_create]
      refine ⟨fun _ home' isHome => ?_, fun _ => trivial⟩
      cases isHome
      refine
        { below := rises.below, since := by simpa using Nat.le_succ_of_le rises.since
          low := .inr rises.since, beside := fun beside => (by cases beside)
          written := fun path ascent qualifier noXml => ?_ }
      cases ascent with
      | here =>
          exact rises.written [] (.here (.inl isGround)) qualifier noXml
      | up isMember => simp [isA, content?, Target.under, Content.isElement] at isMember
  refine (Ensures.and (sited.opens scene) rising).mono (fun inside after ends => ?_)
    fun _ _ _ => trivial
  obtain ⟨⟨home, sited⟩, rises⟩ := ends
  exact ⟨home, sited, rises home sited.isHome⟩

/-- The place inside of an element that was made rises over the element. -/
theorem makes {made : Made} {tag : Tag} (sited : place.Sited outer forest enclosing home)
    (rises : place.Rises base ground outer forest enclosing home)
    (grows : Grows (place.target.Spares forest) forest after)
    (makes : place.Makes home forest made tag after) (plain : made.resolution.Plain) :
    made.inside.Rises base ground outer after (made.resolution.declarations :: enclosing)
      made.element := by
  obtain ⟨tag', isTag, spells, -⟩ := sited.spells makes.found plain
  obtain rfl : tag' = tag := congrArg Prod.snd (isTag.symm.trans makes.isTag)
  have new : base ≤ made.element := makes.element ▸ rises.since
  refine
    { below := rises.below, since := Nat.le_trans rises.since grows.size, low := .inr new
      beside := fun special => ?_, written := fun path ascent qualifier noXml => ?_ }
  · rw [makes.inside] at special
    cases special
  · cases ascent with
    | here isGoal =>
        rcases isGoal with isGround | isFragment
        · exact absurd rises.below (Nat.not_lt.mpr (isGround ▸ new))
        · simp [isA, makes.content, Content.isFragment] at isFragment
    | @up _ parent above _ there climb =>
        obtain rfl : parent = home := by
          rcases makes.lands with lands | ⟨top, -⟩
          · rw [there] at lands
            exact Option.some.inj lands
          · rw [there] at top
            cases top
        obtain ⟨climb, same⟩ := grows.ascent climb sited.settledHome
        rw [writtenOver_cons, writtenAt_of_content? makes.content, same,
          spells.lookup_declared makes.found.sorted, rises.written above climb qualifier noXml]
        rfl

end Place.Rises

section Visits

variable {scene : Scene} {base : Nat} {ground : NodeId} {outer : Meaning} {visit : Visit}

/-- Every visit of a build is at a place that rises with its lexical meaning. -/
theorem rises_of_visit {start : Visit} {home : NodeId} {budget : Nat}
    (sited : start.place.Sited outer start.world.forest start.enclosing home)
    (rises : start.place.Rises base ground outer start.world.forest start.enclosing home)
    (plain : PlainVisits scene (visitsWithin scene budget start))
    (among : visit ∈ visitsWithin scene budget start) :
    ∃ home, visit.place.Sited outer visit.world.forest visit.enclosing home ∧
      visit.place.Rises base ground outer visit.world.forest visit.enclosing home := by
  refine visits_induct (P := fun place world enclosing =>
      ∃ home, place.Sited outer world.forest enclosing home ∧
        place.Rises base ground outer world.forest enclosing home)
    (H := fun visit => ∀ found ∈ visit.made? scene, found.1.resolution.Plain)
    ?_ ?_ ?_ ?_ ?_ budget start ⟨home, sited, rises⟩ plain visit among
  · exact fun _ _ _ _ ⟨home, sited, rises⟩ => ⟨home, { sited with }, { rises with }⟩
  · exact fun _ _ _ _ ⟨home, sited, rises⟩ same => ⟨home, same.symm ▸ sited, same.symm ▸ rises⟩
  · exact fun _ _ _ _ _ ⟨home, sited, rises⟩ run => (rises.opens sited).of_ok run
  · intro budget value place segment world node after enclosing ⟨home, sited, rises⟩ isUnder run
    have grows := (grows_buildWithin scene budget value (place.deeper segment) world).of_ok run
    exact ⟨home, sited.later grows isUnder, rises.later sited.settledHome grows⟩
  · intro visit made after ⟨home, sited, rises⟩ plain isMade
    have plain := plain (made, after) isMade
    obtain ⟨spec, name, attributes, world, same, run⟩ := Visit.makeElement_of_made? isMade
    rw [← same] at sited rises
    have grows := ((grows_makeElement scene visit.place spec name attributes world).of_ok run).1
    obtain ⟨tag, makes⟩ :=
      (ensures_makeElement scene spec name attributes sited.isHome sited.reference).of_ok run
    exact ⟨made.element, (sited.makes grows makes plain).2, rises.makes sited grows makes plain⟩

end Visits

end MarkupSpec
