import MarkupSpec.Proofs.Namespace.Lexical

/-!
# What is written down

A declaration that is written down is an attribute.  What is in scope at a node
comes from attributes and also from the namespaces that elements have themselves
(`Forest.scope`).  Where every element obeys the attributes along the way to its
document, the two are the same (`scope_of_hung`).

Ways up are climbs (`Forest.Climb`) over nodes of one kind to a node of another.
-/

namespace MarkupSpec

/-- A tag with a qualifier, if any, that is not empty, and that gives no qualifier the
namespace of declarations. -/
structure Tag.Modest (tag : Tag) : Prop where
  qualified : tag.qualifier ≠ some ""
  apart : ∀ entry ∈ tag.stated, entry.2 ≠ declarationNamespace

/-- A tag is modest if it obeys a meaning that does not give the namespace of
declarations, nor declares it. -/
theorem Tag.Obeys.modest {meaning : Meaning} {tag : Tag} (obeys : tag.Obeys meaning)
    (qualified : tag.qualifier ≠ some "")
    (free : ∀ qualifier, qualifier ≠ xmlQualifier →
      meaning qualifier ≠ some declarationNamespace)
    (declared : ∀ entry ∈ tag.declared, entry.2 ≠ declarationNamespace) : tag.Modest := by
  refine ⟨qualified, fun entry among => ?_⟩
  rcases List.mem_append.mp among with among | own
  · exact declared entry among
  · unfold Tag.own at own
    cases isIn : tag.namespaceUri with
    | none => simp [isIn] at own
    | some uri =>
        have element := obeys.element
        simp only [isIn] at own element
        split at own
        · cases own
        · rw [List.mem_singleton.mp own]
          rintro rfl
          unfold Meaning.ofElement at element
          split at element
          · exact absurd (Option.some.inj element) (by decide)
          · rename_i noXml
            exact free _ noXml (Option.filter_eq_some_iff.mp element.symm).1

namespace Forest

/-- The declarations among the attributes of a node. -/
def writtenAt (forest : Forest) (id : NodeId) : List (String × String) :=
  match forest.content? id with
  | some (.element tag) => tag.declared
  | _ => []

/-- The declarations among the attributes of several nodes, nearest first. -/
def written (forest : Forest) (path : List NodeId) : List (String × String) :=
  path.flatMap forest.writtenAt

/-- What qualifiers mean by the attributes along a path, and by another meaning
behind them. -/
def writtenOver (forest : Forest) (path : List NodeId) (outer : Meaning) : Meaning :=
  fun qualifier => ((forest.written path).lookup (declarationKey qualifier)).or (outer qualifier)

/-- A meaning of nothing. -/
abbrev Unmeant : Meaning := fun _ => none

/-- A way up over members to a goal, which is not on the way. -/
inductive Climb (forest : Forest) (member goal : NodeId → Prop) : NodeId → List NodeId → Prop where
  | here {id : NodeId} (isGoal : goal id) : Climb forest member goal id []
  | up {id parent : NodeId} {above : List NodeId} (isMember : member id)
      (there : forest.parent? id = some parent) (climb : Climb forest member goal parent above) :
      Climb forest member goal id (id :: above)

section Climb

variable {before after forest : Forest} {member goal member' goal' : NodeId → Prop} {id : NodeId}
  {path : List NodeId} {outer : Meaning}

/-- A climb whose links were there before is a climb from before.  Its last link may
have led to another goal. -/
theorem Climb.earlier {S : NodeId → Prop} (climb : after.Climb member goal id path) (start : S id)
    (closed : ∀ id parent, S id → after.parent? id = some parent → S parent)
    (members : ∀ id, S id → member id → member' id)
    (goals : ∀ id, S id → goal id → goal' id)
    (links : ∀ id parent, S id → member id → after.parent? id = some parent →
      before.parent? id = some parent ∨
        ¬ member parent ∧ ∃ other, before.parent? id = some other ∧ goal' other) :
    before.Climb member' goal' id path := by
  induction climb with
  | here isGoal => exact .here (goals _ start isGoal)
  | up isMember there climb ih =>
      have isMember' := members _ start isMember
      rcases links _ _ start isMember there with there' | ⟨last, other, there', isGoal⟩
      · exact .up isMember' there' (ih (closed _ _ start there))
      · cases climb with
        | here => exact .up isMember' there' (.here isGoal)
        | up isMember => exact absurd isMember last

/-- The nodes of a climb have what its start has, if that is passed on to parents. -/
theorem Climb.forall_mem {S : NodeId → Prop} (climb : forest.Climb member goal id path)
    (start : S id) (closed : ∀ id parent, S id → forest.parent? id = some parent → S parent) :
    ∀ other ∈ path, S other := by
  induction climb with
  | here => exact fun _ none => absurd none List.not_mem_nil
  | up isMember there climb ih =>
      intro other among
      rcases List.mem_cons.mp among with rfl | among
      · exact start
      · exact ih (closed _ _ start there) other among

theorem writtenAt_of_content? {tag : Tag} (there : forest.content? id = some (.element tag)) :
    forest.writtenAt id = tag.declared := by
  rw [writtenAt, there]

/-- What an element writes depends on its tag, which lasts. -/
theorem writtenAt_eq_of_lasting
    (same : (after.content? id).map Content.lasting = (before.content? id).map Content.lasting) :
    after.writtenAt id = before.writtenAt id := by
  unfold writtenAt
  cases atEnd : after.content? id <;> cases atStart : before.content? id <;>
    simp only [atEnd, atStart, Option.map_some, Option.map_none, reduceCtorEq,
      Option.some.injEq] at same
  · rfl
  · rename_i content content'
    cases content <;> cases content' <;> simp_all [Content.lasting]

theorem written_congr (same : ∀ id ∈ path, after.writtenAt id = before.writtenAt id) :
    after.written path = before.written path := by
  induction path with
  | nil => rfl
  | cons first rest ih =>
      show after.writtenAt first ++ after.written rest = before.writtenAt first ++ before.written rest
      rw [same first (by simp), ih fun id among => same id (by simp [among])]

theorem writtenOver_congr (same : ∀ id ∈ path, after.writtenAt id = before.writtenAt id) :
    after.writtenOver path outer = before.writtenOver path outer := by
  unfold writtenOver
  rw [written_congr same]

/-- The nearest node of a path comes first. -/
theorem writtenOver_cons (forest : Forest) (id : NodeId) (path : List NodeId) (outer : Meaning)
    (qualifier : Option String) :
    forest.writtenOver (id :: path) outer qualifier =
      ((forest.writtenAt id).lookup (declarationKey qualifier)).or
        (forest.writtenOver path outer qualifier) := by
  show ((forest.writtenAt id ++ forest.written path).lookup _).or _ = _
  rw [List.lookup_append, Option.or_assoc]
  rfl

end Climb

/-! ## Below documents -/

/-- The way from a node up to a document. -/
abbrev Hung (forest : Forest) : NodeId → List NodeId → Prop :=
  forest.Climb (fun _ => True) fun id => forest.isA Content.isDocument id = true

/-- Every element below a document obeys the attributes on its way up. -/
def AllObey (forest : Forest) : Prop :=
  ∀ id path tag, forest.Hung id path → forest.content? id = some (.element tag) →
    tag.Obeys (forest.writtenOver path Unmeant)

/-- All elements have modest tags. -/
def Modest (forest : Forest) : Prop :=
  ∀ id tag, forest.content? id = some (.element tag) → tag.Modest

section Hung

variable {forest : Forest} {id : NodeId} {path : List NodeId}

/-- Below a document all that is in scope is written down. -/
theorem scope_of_hung (rooted : forest.Rooted) (modest : forest.Modest) (obey : forest.AllObey)
    (hung : forest.Hung id path) {qualifier : Option String} (noXml : qualifier ≠ xmlQualifier) :
    (forest.scope id).lookup (declarationKey qualifier) =
      forest.writtenOver path Unmeant qualifier := by
  induction hung generalizing qualifier with
  | here isDocument =>
      rw [scope_of_top (lt_size_of_isA isDocument) (rooted.onTop _ isDocument),
        statedAt_of_isDocument isDocument]
      rfl
  | @up id parent above isMember there climb ih =>
      have settled : forest.Settled parent := (rooted.settled id (lt_size_of_parent? there)).parent there
      rw [scope_of_parent there settled, List.lookup_append, ih noXml]
      cases content : forest.content? id with
      | none => simp [statedAt, writtenOver_cons, writtenAt, content]
      | some content' =>
          cases content' with
          | element tag =>
              -- What the element says besides what it writes is what is written anyway.
              have stated : forest.statedAt id = tag.stated := by rw [statedAt, content]
              have obeys := obey id (id :: above) tag (.up isMember there climb) content
              rw [stated]
              refine Tag.lookup_stated obeys (fun qualifier _ => ?_)
                (modest id tag content).qualified noXml
              rw [writtenOver_cons, writtenAt_of_content? content]
          | _ => simp [statedAt, writtenOver_cons, writtenAt, content]

/-- No qualifier has the namespace of declarations where all tags are modest. -/
theorem Modest.lookup_scope (modest : forest.Modest) (id : NodeId) (key : String) :
    (forest.scope id).lookup key ≠ some declarationNamespace := by
  intro known
  obtain ⟨above, -, among⟩ := List.mem_flatMap.mp (mem_of_lookup known)
  unfold statedAt at among
  split at among
  · rename_i tag there
    exact (modest above tag there).apart _ among rfl
  · cases among

end Hung

end Forest

end MarkupSpec
