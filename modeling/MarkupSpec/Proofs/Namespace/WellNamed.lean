import MarkupSpec.Proofs.Namespace.SoundBuild

/-!
# Well-named forests

In a well-named forest every element below a document obeys the declarations that
are written down on it and above it (`Forest.WellNamed`).  A new document keeps a
forest well-named, and so does a build of tame visits, however it ends
(`WellNamed.stays_buildWithin`).

At its beginning a build has made no elements, so that the forest is sound.  At its
end an element that it has made has a way up of two parts: to the ground over
elements that were made too, and from there over older ones to the document.
-/

namespace MarkupSpec

open Forest Edit Build

namespace Forest

/-- Parents and children agree, and what is below a document obeys what is written
down there. -/
structure WellNamed (forest : Forest) : Prop where
  agrees : forest.Agrees
  descends : forest.Descends
  modest : forest.Modest
  obey : forest.AllObey

section Forest

variable {before after forest : Forest} {base : Nat} {ground id : NodeId} {path : List NodeId}
  {outer : Meaning}

theorem wellNamed_empty : WellNamed {} := by
  have nothing (id : NodeId) : node? {} id = none := node?_eq_none (Nat.zero_le id)
  refine
    { agrees := ⟨fun child home there => ?_, fun home child among => ?_, fun child home there => ?_,
        fun home => ?_⟩
      descends := fun id parent there => ?_, modest := fun id tag there => ?_
      obey := fun id path tag _ there => ?_ }
  · simp [parent?, nothing] at there
  · simp [children, nothing] at among
  · simp [parent?, nothing] at there
  · simp [children, nothing]
  · simp [parent?, nothing] at there
  · simp [content?, nothing] at there
  · simp [content?, nothing] at there

theorem WellNamed.rooted (wellNamed : forest.WellNamed) : forest.Rooted where
  settled := settled_of_descending wellNamed.descends
  onTop id isDocument := by
    cases there : forest.parent? id with
    | none => rfl
    | some parent =>
        rw [(wellNamed.agrees.fits id parent there).isDocument] at isDocument
        cases isDocument

theorem WellNamed.add_document (wellNamed : forest.WellNamed) (version : Value) :
    (forest.add { content := .document version none, owner := none }).WellNamed := by
  have old {id : NodeId} {tag : Tag}
      (there : (forest.add { content := .document version none, owner := none }).content? id =
        some (.element tag)) : forest.content? id = some (.element tag) := by
    rw [content?_add] at there
    split at there
    · cases there
    · exact there
  refine
    { agrees := wellNamed.agrees.add _ _, descends := fun id parent there => ?_
      modest := fun id tag there => wellNamed.modest id tag (old there)
      obey := fun id path tag hung there => ?_ }
  · rw [parent?_add] at there
    exact wellNamed.descends id parent there
  · have inside : id < forest.size := by
      rcases Nat.lt_or_ge id forest.size with inside | beyond
      · exact inside
      · have nothing := old there
        rw [content?_eq_none beyond] at nothing
        cases nothing
    have was : forest.Hung id path ∧ ∀ outer, _ = forest.writtenOver path outer :=
      hung.of_add wellNamed.descends inside (fun _ _ _ => trivial) fun id inside isDocument => by
        rwa [isA, content?_add, if_neg (Nat.ne_of_lt inside)] at isDocument
    obtain ⟨hung, same⟩ := was
    rw [same]
    exact wellNamed.obey id path tag hung (old there)

theorem writtenOver_append (forest : Forest) (front back : List NodeId) (outer : Meaning) :
    forest.writtenOver (front ++ back) outer =
      forest.writtenOver front (forest.writtenOver back outer) := by
  funext qualifier
  show ((forest.written (front ++ back)).lookup _).or _ = _
  rw [written, List.flatMap_append, List.lookup_append, Option.or_assoc]
  rfl

/-- The way up from an element that was made leads over the ground. -/
theorem Sound.split (sound : after.Sound base ground outer)
    (noDocument : ∀ id, base ≤ id → after.isA Content.isDocument id = false)
    (hung : after.Hung id path) (new : base ≤ id) (isElement : after.isA Content.isElement id) :
    ∃ front back, path = front ++ back ∧ after.Ascent base ground id front ∧
      after.Hung ground back := by
  induction hung with
  | here isDocument =>
      rw [noDocument _ new] at isDocument
      cases isDocument
  | @up id parent above _ there climb ih =>
      rcases sound.low id parent new isElement there with isGround | made
      · subst isGround
        exact ⟨[id], above, rfl, .up ⟨new, isElement⟩ there (.here (.inl rfl)), climb⟩
      · -- What has a child and a parent is an element.
        have isParent : after.isA Content.isElement parent := by
          cases climb with
          | here isDocument =>
              rw [noDocument _ made] at isDocument
              cases isDocument
          | up _ there' =>
              have noFragment := (sound.agrees.fits _ _ there').isFragment
              obtain ⟨kind, below, isKind, -, holds⟩ := sound.agrees.fits _ _ there
              have noDocument := noDocument _ made
              rw [isA, isKind] at noFragment noDocument ⊢
              exact Content.isElement_of_holds holds noDocument noFragment
        obtain ⟨front, back, rfl, ascent, hung⟩ := ih made isParent
        exact ⟨id :: front, back, rfl, .up ⟨new, isElement⟩ there ascent, hung⟩

/-- Where a sound forest has grown from a well-named one, it is well-named. -/
theorem Sound.wellNamed {spared : NodeId → Prop} (sound : after.Sound before.size ground outer)
    (wellNamed : before.WellNamed) (grows : Grows spared before after)
    (means : ∀ qualifier, qualifier ≠ xmlQualifier →
      (before.scope ground).lookup (declarationKey qualifier) = outer qualifier) :
    after.WellNamed := by
  -- An old node below a document was there before.
  have older {id : NodeId} {path : List NodeId} (hung : after.Hung id path)
      (inside : id < before.size) :
      before.Hung id path ∧
        after.writtenOver path Unmeant = before.writtenOver path Unmeant := by
    have link {id parent : NodeId} (inside : id < before.size)
        (there : after.parent? id = some parent) : before.parent? id = some parent := by
      rcases grows.parent id inside with same | ⟨gone, -⟩
      · exact same ▸ there
      · rw [there] at gone
        cases gone
    have closed (id parent : NodeId) (inside : id < before.size)
        (there : after.parent? id = some parent) : parent < before.size :=
      Nat.lt_trans (wellNamed.descends id parent (link inside there)) inside
    refine ⟨hung.earlier inside closed (fun _ _ _ => trivial) (fun id _ isDocument => ?_)
      fun id parent inside _ there => .inl (link inside there),
      writtenOver_congr fun other among => ?_⟩
    · rwa [grows.isDocument] at isDocument
    · exact writtenAt_eq_of_lasting (grows.content other (hung.forall_mem inside closed other among))
  refine
    { agrees := sound.agrees, descends := sound.descends, modest := sound.modest
      obey := fun id path tag hung there => ?_ }
  rcases Nat.lt_or_ge id before.size with inside | new
  · obtain ⟨hung, same⟩ := older hung inside
    have lasting := grows.content id inside
    rw [there] at lasting
    obtain ⟨content, here, isElement⟩ := Option.map_eq_some_iff.mp lasting.symm
    rw [Content.eq_of_lasting_eq_element isElement] at here
    rw [same]
    exact wellNamed.obey id path tag hung here
  · have isElement : after.isA Content.isElement id := by
      rw [isA, there]
      rfl
    obtain ⟨front, back, rfl, ascent, hung⟩ := sound.split grows.noDocument hung new isElement
    obtain ⟨hung, same⟩ := older hung sound.below
    refine (sound.obey id front tag new ascent there).congr fun qualifier noXml => ?_
    rw [writtenOver_append, same]
    unfold writtenOver
    rw [← means qualifier noXml, scope_of_hung wellNamed.rooted wellNamed.modest wellNamed.obey hung
      noXml]
    rfl

end Forest

end Forest

/-! ## Builds -/

section Run

variable {scene : Scene} {world : World}

/-- A build of tame visits keeps its forest well-named, however it ends. -/
theorem Forest.WellNamed.stays_buildWithin {target : Target} {home : NodeId} {budget : Nat}
    {value : Value} (wellNamed : world.forest.WellNamed)
    (inside : target.reference < world.forest.size)
    (isHome : target.home? world.forest = some home)
    (tame : ∀ visit ∈ visitsWithin scene budget { value, place := { target }, world },
      visit.Tame scene) :
    Stays WellNamed (buildWithin scene budget value { target }) world := by
  have free (qualifier : Option String) (_ : qualifier ≠ xmlQualifier) :
      target.surrounding world.forest qualifier ≠ some declarationNamespace := by
    simp only [Target.surrounding, isHome, lookup_declarations]
    exact wellNamed.modest.lookup_scope home _
  let start : Visit := { value, place := { target }, world }
  have sited : start.place.Sited (target.surrounding world.forest) world.forest [] home :=
    sited_target wellNamed.rooted inside isHome free
  have rises : start.place.Rises world.forest.size home (target.surrounding world.forest)
      world.forest [] home := by
    refine
      { below := sited.home_lt, since := Nat.le_refl _, low := .inl rfl, beside := fun _ => rfl
        written := fun path ascent qualifier _ => ?_ }
    cases ascent with
    | here => rfl
    | up isMember => exact absurd sited.home_lt (Nat.not_lt.mpr isMember.1)
  have sound : world.forest.Sound world.forest.size home (target.surrounding world.forest) := by
    refine
      { below := sited.home_lt, agrees := wellNamed.agrees, descends := wellNamed.descends
        low := fun id parent new isElement => ?_, modest := wellNamed.modest
        obey := fun id path tag new _ there => ?_ }
    · exact absurd (lt_size_of_isA isElement) (Nat.not_lt.mpr new)
    · rw [content?_eq_none new] at there
      cases there
  have means (qualifier : Option String) (_ : qualifier ≠ xmlQualifier) :
      (world.forest.scope home).lookup (declarationKey qualifier) =
        target.surrounding world.forest qualifier := by
    simp only [Target.surrounding, isHome, lookup_declarations]
  have upheld := sound_buildWithin start sited rises tame sound
  exact (upheld.and (grows_buildWithin scene budget value { target } world)).mono
    (fun _ _ ends => ends.1.wellNamed wellNamed ends.2 means)
    fun _ _ ends => ends.1.wellNamed wellNamed ends.2 means

end Run

end MarkupSpec
