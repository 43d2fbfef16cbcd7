import MarkupSpec.Proofs.Forest.IntactEdits
import MarkupSpec.Proofs.Namespace.ElementOrigins

/-!
# What making a node leaves alone

A step that makes a node leaves all there was as it was, and the node has no place
yet (`Forest.Fresh`).  With the node come those that are made for it, as in a copy
with what is below it, and each of these has its place.

A failed copy leaves nodes behind, but it leaves all there was alone too.
-/

namespace MarkupSpec

open Forest Edit Build

namespace Forest

/-- A node was made, with the nodes below it, and has no place yet. -/
structure Fresh (before : Forest) (node : NodeId) (after : Forest) : Prop where
  intact : Intact before after
  number : node = before.size
  inside : node < after.size
  top : after.parent? node = none
  held : ∀ id, node < id → id < after.size → ∃ home, after.parent? id = some home

variable {before after : Forest} {node : NodeId}

theorem Fresh.movable (fresh : Fresh before node after) : after.Movable node := by
  intro home there
  rw [fresh.top] at there
  cases there

/-- A node is made by itself. -/
theorem fresh_add (agrees : before.Agrees) (content : Content) (owner : Option NodeId) :
    Fresh before before.size (before.add { content, owner }) where
  intact := (Intact.refl agrees).add content owner
  number := rfl
  inside := by simp
  top := by simp [parent?]
  held id above inside := by
    rw [size_add] at inside
    exact absurd above (Nat.not_lt.mpr (Nat.le_of_lt_succ inside))

/-- A copy is a fragment if it is a copy of one, and its children were made in their
order. -/
structure Copies (before : Forest) (id copy : NodeId) (after : Forest) : Prop extends
    Fresh before copy after where
  kind : after.isA Content.isFragment copy = before.isA Content.isFragment id
  rising : (after.children copy).Pairwise (· < ·)

/-- A node that was made so far holds what was made for it. -/
structure Holds (before : Forest) (content : Content) (after : Forest) : Prop extends
    Fresh before before.size after where
  kind : after.isA Content.isFragment before.size = content.isFragment
  rising : (after.children before.size).Pairwise (· < ·)

/-- A copy comes under the node that was made for it. -/
theorem Holds.joins {before middle middle' after : Forest} {content : Content} {id copy : NodeId}
    (holds : Holds before content middle) (copies : Copies middle id copy middle')
    (intact : Intact before after) (joins : Joins before.size copy none middle' after) :
    Holds before content after := by
  have early : before.size < middle'.size := Nat.lt_of_lt_of_le holds.inside copies.intact.size
  have differ : before.size ≠ copy := copies.number ▸ Nat.ne_of_lt holds.inside
  refine
    { intact, number := rfl, inside := joins.size ▸ early
      top := by rw [joins.parent, if_neg differ, copies.intact.parent _ holds.inside, holds.top]
      held := fun id above inside => ?_
      kind := ?_
      rising := ?_ }
  · rw [joins.parent]
    by_cases isCopy : id = copy
    · exact ⟨_, if_pos isCopy⟩
    · rw [if_neg isCopy]
      rcases Nat.lt_or_ge id middle.size with known | late
      · rw [copies.intact.parent id known]
        exact holds.held id above known
      · exact copies.held id (Nat.lt_of_le_of_ne (copies.number ▸ late) (Ne.symm isCopy))
          (joins.size ▸ inside)
  · rw [isA, joins.content, copies.intact.content _ holds.inside]
    exact holds.kind
  · obtain ⟨last, front, back, -, detached, isEnd, gains⟩ := joins
    obtain rfl : last = middle' := by
      rcases detached with ⟨-, same⟩ | ⟨home, -, -, was, -⟩
      · exact same
      · rw [copies.top] at was
        cases was
    obtain rfl : back = [] := List.head?_eq_none_iff.mp isEnd
    have row : middle.children before.size = front := by
      rw [← copies.intact.children _ holds.inside, gains.split, List.append_nil]
    rw [gains.children, if_pos rfl, ← row]
    refine List.pairwise_append.mpr ⟨holds.rising, by simp, fun early among late isLate => ?_⟩
    rw [List.mem_singleton.mp isLate, copies.number]
    exact holds.intact.agrees.lt_size_of_mem among

end Forest

namespace Edit

theorem copies_copyInto {copy : NodeId → Edit NodeId} {before : Forest} {content : Content}
    (copies : ∀ (id : NodeId) (forest : Forest), forest.Agrees →
      Ensures (copy id) forest (fun made => Copies forest id made) fun _ => Intact forest) :
    ∀ (members : List NodeId) {middle : Forest}, Holds before content middle →
      (∀ id ∈ members, id < before.size ∧ before.isA Content.isFragment id = false) →
      Ensures (copyInto copy before.size members) middle (fun _ => Holds before content)
        fun _ => Intact before
  | [], _, holds, _ => holds
  | child :: rest, middle, holds, known => by
      obtain ⟨inside, noFragment⟩ := known child List.mem_cons_self
      rw [copyInto, ensures_bind]
      refine (copies child middle holds.intact.agrees).mono (fun made middle' copied => ?_)
        fun _ _ intact => holds.intact.trans intact
      have intact := holds.intact.trans copied.intact
      have ready : middle'.Ready before.size made :=
        { inside := copied.inside, lower := copied.number ▸ holds.inside
          movable := copied.movable
          noFragment := by
            rw [copied.kind, isA, holds.intact.content child inside]
            exact noFragment }
      rw [ensures_bind]
      refine ((ensures_appendChild intact.agrees ready).and
        (tends_appendChild intact (Nat.le_refl _) ready)).mono (fun _ after ends => ?_)
        fun _ _ failed => failed.2
      obtain ⟨joins, tends⟩ := ends
      exact copies_copyInto copies rest (holds.joins copied tends.intact joins)
        fun id among => known id (List.mem_cons_of_mem _ among)

theorem copies_copyWithin (document : NodeId) (deep : Bool) :
    ∀ (depth : Nat) (id : NodeId) (forest : Forest), forest.Agrees →
      Ensures (copyWithin document deep depth id) forest (fun copy => Copies forest id copy)
        fun _ => Intact forest
  | 0, _, _, agrees => Intact.refl agrees
  | depth + 1, id, forest, agrees => by
      rw [copyWithin, ensures_bind, ensures_look]
      refine ⟨fun node there => ?_, fun _ => Intact.refl agrees⟩
      have kind : forest.isA Content.isFragment id = node.content.isFragment := isA_of_node? there
      have known (child : NodeId) (among : child ∈ node.children) :
          child < forest.size ∧ forest.isA Content.isFragment child = false := by
        rw [← children_of_node? there] at among
        have fits := agrees.fits child id (agrees.parent id child among)
        exact ⟨fits.lt_size, fits.isFragment⟩
      have holds (content : Content) (same : content.isFragment = node.content.isFragment) :
          Holds forest content (forest.add { content, owner := some document }) :=
        { fresh_add agrees content _ with
          kind := by simp [isA, content?]
          rising := by simp [children] }
      have below {content : Content} {middle : Forest} (holds : Holds forest content middle)
          (same : content.isFragment = node.content.isFragment) :
          Ensures (do
            if deep then copyInto (copyWithin document deep depth) forest.size node.children
            pure forest.size : Edit NodeId) middle
            (fun copy => Copies forest id copy) fun _ => Intact forest := by
        split
        · rw [ensures_bind]
          exact (copies_copyInto (copies_copyWithin document deep depth) node.children holds
            known).mono
            (fun _ _ holds => { holds.toFresh with
            kind := holds.kind.trans (same.trans kind.symm), rising := holds.rising })
            fun _ _ intact => intact
        · exact { holds.toFresh with
            kind := holds.kind.trans (same.trans kind.symm), rising := holds.rising }
      dsimp only
      split
      · rename_i tag isElement
        rw [ensures_bind, createElement, ensures_create]
        refine ⟨fun _ => ?_, fun _ => Intact.refl agrees⟩
        rw [ensures_bind, ensures_setAll]
        split
        · exact below (holds _ (by rw [isElement]; rfl)) (by rw [isElement]; rfl)
        · exact (holds (.element _) (by rw [isElement]; rfl)).intact
      · rename_i isFragment
        rw [ensures_bind, ensures_create]
        exact ⟨fun _ => below (holds _ (by rw [isFragment])) (by rw [isFragment]),
          fun _ => Intact.refl agrees⟩
      · exact Intact.refl agrees
      · exact Intact.refl agrees
      · rw [ensures_create]
        refine ⟨fun _ => ?_, fun _ => Intact.refl agrees⟩
        exact { (holds node.content rfl).toFresh with
          kind := (holds _ rfl).kind.trans kind.symm, rising := (holds node.content rfl).rising }

/-- A copy leaves all there was alone, and so does one that fails. -/
theorem copies_copy (document : NodeId) (deep : Bool) (id : NodeId) {forest : Forest}
    (agrees : forest.Agrees) :
    Ensures (copy document deep id) forest (fun copy => Copies forest id copy)
      fun _ => Intact forest := by
  rw [copy, ensures_bind, ensures_checkDocument]
  refine ⟨fun _ => ?_, fun _ => Intact.refl agrees⟩
  rw [ensures_bind, ensures_get]
  exact copies_copyWithin document deep _ id forest agrees

end Edit

/-- Making a node without parts leaves all there was alone. -/
theorem fresh_makeLeaf (scene : Scene) (path : List String) (spec : Spec) {world : World}
    (agrees : world.forest.Agrees) :
    Ensures (makeLeaf scene path spec) world
      (fun node after => Fresh world.forest node after.forest)
      fun _ after => Intact world.forest after.forest := by
  by_cases copied : ∃ node, spec = .existing node
  · obtain ⟨node, rfl⟩ := copied
    show Ensures (edit (Edit.copy scene.document true node)) world _ _
    rw [ensures_edit]
    exact (copies_copy scene.document true node agrees).mono (fun _ _ copies => copies.toFresh)
      fun _ _ intact => intact
  · refine (addsLeaf_makeLeaf scene path (fun node same => copied ⟨node, same⟩) world).mono
      (fun node after adds => ?_) fun _ after same => ?_
    · obtain ⟨-, rfl, content, -, added⟩ := adds
      rw [added]
      exact fresh_add agrees content _
    · rw [same]
      exact Intact.refl agrees

/-- What is made without parts is no fragment, unless it is a copy of one. -/
theorem isFragment_makeLeaf (scene : Scene) (path : List String) {spec : Spec} {world : World}
    (agrees : world.forest.Agrees)
    (noFragment : ∀ id, spec = .existing id → world.forest.isA Content.isFragment id = false) :
    Ensures (makeLeaf scene path spec) world
      (fun node after => after.forest.isA Content.isFragment node = false) fun _ _ => True := by
  by_cases copied : ∃ id, spec = .existing id
  · obtain ⟨id, rfl⟩ := copied
    show Ensures (edit (Edit.copy scene.document true id)) world _ _
    rw [ensures_edit]
    exact (copies_copy scene.document true id agrees).mono
      (fun _ _ copies => copies.kind.trans (noFragment id rfl)) fun _ _ _ => trivial
  · refine (addsLeaf_makeLeaf scene path (fun id same => copied ⟨id, same⟩) world).mono
      (fun node after adds => ?_) fun _ _ _ => trivial
    obtain ⟨-, rfl, content, isLeaf, added⟩ := adds
    rw [added]
    cases content <;> simp_all [isA, content?, Content.isLeaf, Content.isFragment]

/-- An element is made, and then it gets its place. -/
theorem ensures_makeElement_attach {scene : Scene} {place : Place} {spec : Spec} {name : Value}
    {attributes : RawAttributes} {world : World} (agrees : world.forest.Agrees)
    {done : Made → World → Prop} {failed : Failure → World → Prop}
    (onMade : ∀ near resolution tag made,
      made.forest = world.forest.add { content := .element tag, owner := some scene.document } →
      Ensures (attach place.target world.forest.size) made
        (fun _ => done
          { element := world.forest.size, resolution
            inside := place.within near world.forest.size resolution })
        failed)
    (onFailed : ∀ cause after, Intact world.forest after.forest → failed cause after) :
    Ensures (makeElement scene place spec name attributes) world done failed := by
  refine (readsOnly_resolveElement scene place spec name attributes).ensures_bind
    (fun found after _ same => ?_) fun cause after same => ?_
  · obtain ⟨near, resolution⟩ := found
    rw [MarkupSpec.ensures_bind, ensures_edit, same, ensures_createResolved]
    refine ⟨fun _ => ?_, fun _ => onFailed _ _ (Intact.refl agrees)⟩
    split
    · rename_i tag _
      rw [MarkupSpec.ensures_bind]
      exact (onMade near resolution tag { after with forest := _ } rfl).mono
        (fun _ _ holds => holds) fun _ _ holds => holds
    · exact onFailed _ _ (fresh_add agrees _ _).intact
  · exact onFailed cause after (by rw [same]; exact Intact.refl agrees)

end MarkupSpec
