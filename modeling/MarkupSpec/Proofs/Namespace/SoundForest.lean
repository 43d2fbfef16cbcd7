import MarkupSpec.Proofs.Build.Steps
import MarkupSpec.Proofs.Forest.NodeAttachment
import MarkupSpec.Proofs.Namespace.ElementAscent

/-!
# Builds of specs without nodes

A visit is tame if its value is no node, and if an element that is resolved there
is plain (`Visit.Tame`).  All through a build of tame visits, the elements that it
has made obey what is written down on their way up (`Forest.Sound`).  Adding a node keeps
that, and so does giving it its place.

The elements in the fragment of a sequence obey what is written down on the way to
the fragment, over what qualifiers mean at the ground.  When they are moved to the
ground, their way up stays the same.
-/

namespace MarkupSpec

open Forest Edit Build

/-! ## Tame visits -/

namespace Visit

variable {scene : Scene} {visit : Visit}

/-- The value of the visit is a node, which is to be copied. -/
def copies (scene : Scene) (visit : Visit) : Bool :=
  match visit.part? scene with
  | some (.existing _, _) => true
  | _ => false

/-- The resolution of the element map that the visit comes to, be the element made
or not. -/
def resolved? (scene : Scene) (visit : Visit) : Option Resolution :=
  match visit.part? scene with
  | some (.element name attributes children, world) =>
      match resolveElement scene visit.place (.element name attributes children) name attributes
          world with
      | .ok found _ => some found.2
      | .error _ _ => none
  | _ => none

/-- The value is no node, and an element that is resolved is plain. -/
structure Tame (scene : Scene) (visit : Visit) : Prop where
  noCopy : visit.copies scene = false
  plain : ∀ resolution ∈ visit.resolved? scene, resolution.Plain

instance (scene : Scene) (visit : Visit) : Decidable (visit.Tame scene) :=
  decidable_of_iff
    (visit.copies scene = false ∧ ∀ resolution ∈ visit.resolved? scene, resolution.Plain)
    ⟨fun ⟨noCopy, plain⟩ => ⟨noCopy, plain⟩, fun tame => ⟨tame.noCopy, tame.plain⟩⟩

theorem resolved?_of_run {name : Value} {attributes : RawAttributes} {children : List Value}
    {world after : World} {found : NodeId × Resolution}
    (part : visit.part? scene = some (.element name attributes children, world))
    (run : resolveElement scene visit.place (.element name attributes children) name attributes
      world = .ok found after) : visit.resolved? scene = some found.2 := by
  simp only [resolved?, part, run]

theorem resolved?_of_made? {made : Made} {after : World}
    (isMade : visit.made? scene = some (made, after)) :
    visit.resolved? scene = some made.resolution := by
  unfold made? at isMade
  split at isMade
  · rename_i name attributes children world part
    split at isMade
    · rename_i run
      cases isMade
      have resolves : Ensures (makeElement scene visit.place (.element name attributes children)
          name attributes) world
          (fun made _ => visit.resolved? scene = some made.resolution) fun _ _ => True := by
        rw [makeElement, MarkupSpec.ensures_bind]
        refine Ensures.of_run (fun found read run => ?_) fun _ _ _ => trivial
        rw [MarkupSpec.ensures_bind]
        refine Ensures.of_run (fun element _ _ => ?_) fun _ _ _ => trivial
        rw [MarkupSpec.ensures_bind]
        exact Ensures.of_run (fun _ _ _ => resolved?_of_run part run) fun _ _ _ => trivial
      exact resolves.of_ok run
    · cases isMade
  · cases isMade

theorem Tame.noNode (tame : visit.Tame scene) (node : NodeId) (world : World) :
    visit.part? scene ≠ some (.existing node, world) := by
  intro part
  have noCopy := tame.noCopy
  simp [copies, part] at noCopy

end Visit

theorem plainVisits_of_tame {scene : Scene} {visits : List Visit}
    (tame : ∀ visit ∈ visits, visit.Tame scene) : PlainVisits scene visits :=
  fun visit among _ isMade =>
    (tame visit among).plain _ (Visit.resolved?_of_made? isMade)

/-! ## Sound forests -/

namespace Forest

/-- Parents have smaller numbers. -/
def Descends (forest : Forest) : Prop :=
  ∀ id parent, forest.parent? id = some parent → parent < id

/-- What holds all through a build that puts its nodes under the ground, of the
elements made since the forest had some size. -/
structure Sound (base : Nat) (ground : NodeId) (outer : Meaning) (forest : Forest) : Prop where
  below : ground < base
  agrees : forest.Agrees
  descends : forest.Descends
  low : ∀ id parent, base ≤ id → forest.isA Content.isElement id →
    forest.parent? id = some parent → parent = ground ∨ base ≤ parent
  modest : forest.Modest
  obey : ∀ id path tag, base ≤ id → forest.Ascent base ground id path →
    forest.content? id = some (.element tag) → tag.Obeys (forest.writtenOver path outer)

variable {base : Nat} {ground home node : NodeId} {outer : Meaning} {before after : Forest}

/-- A node that is the last one has no children where parents have smaller numbers. -/
theorem Descends.childless (descends : before.Descends) (last : before.size ≤ node + 1)
    (id : NodeId) : before.parent? id ≠ some node := by
  intro there
  have less : node < id := descends id node there
  have inside : id < node + 1 := Nat.lt_of_lt_of_le (lt_size_of_parent? there) last
  exact absurd less (Nat.not_lt.mpr (Nat.le_of_lt_succ inside))

theorem parent?_add (forest : Forest) (content : Content) (owner : Option NodeId) (id : NodeId) :
    (forest.add { content, owner }).parent? id = forest.parent? id := by
  by_cases last : id = forest.size
  · simp [parent?, last, node?_eq_none (Nat.le_refl forest.size)]
  · simp [parent?, last]

theorem content?_add (forest : Forest) (content : Content) (owner : Option NodeId) (id : NodeId) :
    (forest.add { content, owner }).content? id =
      if id = forest.size then some content else forest.content? id := by
  by_cases last : id = forest.size
  · simp [content?, last]
  · simp [content?, last]

/-- The way up from an old node stays the same when a node is added. -/
theorem Climb.of_add {content : Content} {owner : Option NodeId} {member goal : NodeId → Prop}
    {id : NodeId} {path : List NodeId} (descends : before.Descends)
    (climb : (before.add { content, owner }).Climb member goal id path) (inside : id < before.size)
    {member' goal' : NodeId → Prop} (members : ∀ id < before.size, member id → member' id)
    (goals : ∀ id < before.size, goal id → goal' id) :
    before.Climb member' goal' id path ∧ ∀ outer,
      (before.add { content, owner }).writtenOver path outer = before.writtenOver path outer := by
  have closed (id parent : NodeId) (inside : id < before.size)
      (there : (before.add { content, owner }).parent? id = some parent) : parent < before.size := by
    rw [parent?_add] at there
    exact Nat.lt_trans (descends id parent there) inside
  refine ⟨climb.earlier inside closed members goals fun id parent _ _ there => .inl ?_,
    fun outer => writtenOver_congr fun other among => writtenAt_eq_of_lasting ?_⟩
  · rwa [parent?_add] at there
  · have inside := climb.forall_mem inside closed other among
    rw [content?_add, if_neg (Nat.ne_of_lt inside)]

namespace Sound

/-- A new node may be added, if it is modest. -/
theorem add (sound : before.Sound base ground outer) (content : Content) (owner : Option NodeId)
    (modest : ∀ tag, content = .element tag → tag.Modest) :
    (before.add { content, owner }).Sound base ground outer := by
  have descends : (before.add { content, owner }).Descends := by
    intro id parent there
    rw [parent?_add] at there
    exact sound.descends id parent there
  have kinds {id : NodeId} (test : Content → Bool) (inside : id < before.size) :
      (before.add { content, owner }).isA test id = before.isA test id := by
    rw [isA, isA, content?_add, if_neg (Nat.ne_of_lt inside)]
  refine
    { below := sound.below, agrees := sound.agrees.add content owner, descends
      low := fun id parent new isElement there => ?_, modest := fun id tag there => ?_
      obey := fun id path tag new ascent there => ?_ }
  · rw [parent?_add] at there
    rw [kinds _ (lt_size_of_parent? there)] at isElement
    exact sound.low id parent new isElement there
  · rw [content?_add] at there
    split at there
    · exact modest tag (Option.some.inj there)
    · exact sound.modest id tag there
  · -- An old node has its way up as before, and a new one has none.
    rw [content?_add] at there
    split at there
    · rename_i last
      subst last
      cases ascent with
      | here isGoal =>
          rcases isGoal with isGround | isFragment
          · exact absurd sound.below (Nat.not_lt.mpr (isGround ▸ new))
          · rw [isA, content?_add, if_pos rfl, Option.any_some, Option.some.inj there] at isFragment
            cases isFragment
      | up _ there =>
          rw [parent?_add, parent?_eq_none (Nat.le_refl _)] at there
          cases there
    · rename_i notLast
      have inside : id < before.size := by
        rcases Nat.lt_or_ge id before.size with inside | beyond
        · exact inside
        · rw [content?_eq_none beyond] at there
          cases there
      have was : before.Ascent base ground id path ∧ ∀ outer, _ = before.writtenOver path outer :=
        ascent.of_add sound.descends inside
          (fun id inside isMember => by rwa [kinds _ inside] at isMember)
          fun id inside isGoal => by rwa [kinds _ inside] at isGoal
      obtain ⟨ascent, same⟩ := was
      rw [same]
      exact sound.obey id path tag new ascent there

section Moves

variable {homes placed dropped : NodeId → Prop}

/-- Nodes may be moved, if the elements among them obey what is written down on the
ways up that they come to have. -/
theorem moved (sound : before.Sound base ground outer)
    (moves : Moves homes placed dropped before after) (agrees : after.Agrees)
    (less : ∀ id parent, placed id → homes parent → after.parent? id = some parent → parent < id)
    (low : ∀ id parent, placed id → before.isA Content.isElement id → homes parent →
      parent = ground ∨ base ≤ parent)
    (obey : ∀ id path tag, base ≤ id → after.Ascent base ground id path →
      before.content? id = some (.element tag) →
      before.Ascent base ground id path ∨ tag.Obeys (before.writtenOver path outer)) :
    after.Sound base ground outer := by
  have element {id : NodeId} {tag : Tag} (there : after.content? id = some (.element tag)) :
      before.content? id = some (.element tag) := by
    have same := moves.content id
    rw [there] at same
    obtain ⟨content, here, lasting⟩ := Option.map_eq_some_iff.mp same.symm
    rw [here, Content.eq_of_lasting_eq_element lasting]
  refine
    { below := sound.below, agrees, descends := fun id parent there => ?_
      low := fun id parent new isElement there => ?_
      modest := fun id tag there => sound.modest id tag (element there)
      obey := fun id path tag new ascent there => ?_ }
  · rcases moves.parent id with same | ⟨gone, -⟩ | ⟨home, here, isHome, isPlaced⟩
    · exact sound.descends id parent (same ▸ there)
    · rw [there] at gone
      cases gone
    · rw [there] at here
      cases here
      exact less id parent isPlaced isHome there
  · rw [moves.isElement] at isElement
    rcases moves.parent id with same | ⟨gone, -⟩ | ⟨home, here, isHome, isPlaced⟩
    · exact sound.low id parent new isElement (same ▸ there)
    · rw [there] at gone
      cases gone
    · rw [there] at here
      cases here
      exact low id parent isPlaced isElement isHome
  · rw [moves.writtenOver]
    rcases obey id path tag new ascent (element there) with ascent' | obeys
    · exact sound.obey id path tag new ascent' (element there)
    · exact obeys

/-- A node that is no element may be put under any node before it. -/
theorem place_leaf (sound : before.Sound base ground outer)
    (moves : Moves (· = home) (· = node) dropped before after) (agrees : after.Agrees)
    (less : home < node) (noElement : before.isA Content.isElement node = false) :
    after.Sound base ground outer := by
  refine sound.moved moves agrees (fun id parent isNode isHome _ => ?_)
    (fun id parent isNode isElement _ => ?_) fun id path tag _ ascent _ => .inl ?_
  · rw [isNode, isHome]
    exact less
  · rw [isNode, noElement] at isElement
    cases isElement
  · refine moves.ascent (S := fun _ => True) ascent trivial (fun _ _ _ _ => trivial)
      fun id home _ isNode isElement _ => ?_
    rw [isNode, noElement] at isElement
    cases isElement

/-- An element without children may be put under a node, if it obeys what is written
down from there. -/
theorem place_element (sound : before.Sound base ground outer)
    (moves : Moves (· = home) (· = node) dropped before after) (agrees : after.Agrees)
    (less : home < node) (low : home = ground ∨ base ≤ home) (new : base ≤ node)
    (childless : ∀ id, before.parent? id ≠ some node)
    (top : before.parent? node = none)
    (obeys : ∀ tag, before.content? node = some (.element tag) →
      ∀ path, before.Ascent base ground home path →
        tag.Obeys (before.writtenOver (node :: path) outer)) :
    after.Sound base ground outer := by
  -- Only the element itself has a new way up.
  have others {id : NodeId} {path : List NodeId} (ascent : after.Ascent base ground id path)
      (differ : id ≠ node) : before.Ascent base ground id path := by
    refine moves.ascent (S := (· ≠ node)) ascent differ (fun id parent differ there => ?_)
      fun id home differ isNode => absurd isNode differ
    rintro rfl
    rcases moves.parent id with same | ⟨gone, -⟩ | ⟨_, -, -, isNode⟩
    · exact childless id (same ▸ there)
    · rw [there] at gone
      cases gone
    · exact differ isNode
  refine sound.moved moves agrees (fun id parent isNode isHome _ => ?_)
    (fun id parent _ _ isHome => isHome ▸ low) fun id path tag _ ascent there => ?_
  · rw [isNode, isHome]
    exact less
  · by_cases here : id = node
    · subst here
      cases ascent with
      | here isGoal =>
          rcases isGoal with isGround | isFragment
          · exact absurd sound.below (Nat.not_lt.mpr (isGround ▸ new))
          · rw [moves.isFragment, isA, there] at isFragment
            cases isFragment
      | @up _ parent above _ there' climb =>
          have isHome : parent = home := by
            rcases moves.parent id with same | ⟨gone, -⟩ | ⟨_, here, isHome, -⟩
            · rw [same, top] at there'
              cases there'
            · rw [there'] at gone
              cases gone
            · rw [there'] at here
              cases here
              exact isHome
          subst isHome
          have notSelf : parent ≠ id := Nat.ne_of_lt less
          exact .inr (obeys tag there above (others climb notSelf))
    · exact .inl (others ascent here)

/-- The nodes in a fragment may be moved to the ground. -/
theorem place_members {fragment : NodeId} (sound : before.Sound base ground outer)
    (moves : Moves (fun id => id = ground ∨ id = fragment)
      (fun id => id = fragment ∨ before.parent? id = some fragment) dropped before after)
    (agrees : after.Agrees) (new : base ≤ fragment)
    (isFragment : before.isA Content.isFragment fragment) : after.Sound base ground outer := by
  have noElement : before.isA Content.isElement fragment = false := by
    unfold isA at isFragment ⊢
    cases kind : before.content? fragment with
    | none => rfl
    | some content =>
        rw [kind] at isFragment
        cases content <;> first | rfl | cases isFragment
  refine sound.moved moves agrees (fun id parent isPlaced isHome there => ?_)
    (fun id parent _ _ isHome => ?_) fun id path tag _ ascent _ => .inl ?_
  · have behind : fragment ≤ id := by
      rcases isPlaced with same | there
      · exact Nat.le_of_eq same.symm
      · exact Nat.le_of_lt (sound.descends id fragment there)
    rcases isHome with isGround | isFragment'
    · rw [isGround]
      exact Nat.lt_of_lt_of_le sound.below (Nat.le_trans new behind)
    · subst isFragment'
      refine Nat.lt_of_le_of_ne behind fun same => ?_
      -- No fragment is a child.
      subst same
      have noFragment := (agrees.fits _ _ there).isFragment
      rw [moves.isFragment, isFragment] at noFragment
      cases noFragment
  · rcases isHome with isGround | isFragment'
    · exact .inl isGround
    · exact .inr (isFragment' ▸ new)
  · refine moves.ascent (S := fun _ => True) ascent trivial (fun _ _ _ _ => trivial)
      fun id home _ isPlaced isElement isHome => ⟨fun isMember => ?_, fragment, ?_, isFragment⟩
    · rcases isHome with isGround | isFragment'
      · exact absurd sound.below (Nat.not_lt.mpr (isGround ▸ isMember.1))
      · rw [isFragment', noElement] at isMember
        cases isMember.2
    · rcases isPlaced with same | there
      · rw [same, noElement] at isElement
        cases isElement
      · exact there

end Moves

end Sound

end Forest

end MarkupSpec
