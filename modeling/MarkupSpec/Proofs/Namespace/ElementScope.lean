import MarkupSpec.Proofs.Namespace.ElementAttributes

/-!
# What an element says to those inside of it

Whatever becomes of the attributes of an element as they are set, each one goes by a name and has a
value that were set together (`Tag.putAll_holds`).  So an element without a qualifier that declares
a default namespace says nothing else of the default (`lookup_stated_default`), and an element
inside of it that has no qualifier and declares no default is in that namespace
(`Visit.namespace_of_stated`).
-/

namespace MarkupSpec

open Forest Edit Build

/-! ## What is flattened -/

section Flattened

variable {arguments : List Value} {attributes : RawAttributes} {entries : List (String × String)}
  {before after : World}

/-- What is flattened was given under the same key. -/
theorem Flattened.exists_of_mem (flattened : Flattened arguments attributes before entries after)
    {entry : String × String} (among : entry ∈ entries) :
    ∃ value start final, (entry.1, value) ∈ attributes ∧
      flatten arguments value start = .ok (some entry.2) final := by
  induction flattened with
  | nil => cases among
  | absent _ _ ih =>
      obtain ⟨value, start, final, given, flattens⟩ := ih among
      exact ⟨value, start, final, List.mem_cons_of_mem _ given, flattens⟩
  | present flattens _ ih =>
      rcases List.mem_cons.mp among with rfl | later
      · exact ⟨_, _, _, List.mem_cons_self, flattens⟩
      · obtain ⟨value, start, final, given, flattens⟩ := ih later
        exact ⟨value, start, final, List.mem_cons_of_mem _ given, flattens⟩

/-- A value that comes to one text always is there with that text. -/
theorem Flattened.mem_of_mem (flattened : Flattened arguments attributes before entries after)
    {key text : String} {value : Value}
    (always : flatten arguments value = pure (some text)) (given : (key, value) ∈ attributes) :
    (key, text) ∈ entries := by
  induction flattened with
  | nil => cases given
  | absent flattens _ ih =>
      rcases List.mem_cons.mp given with isFirst | later
      · cases isFirst
        rw [always] at flattens
        cases flattens
      · exact ih later
  | present flattens _ ih =>
      rcases List.mem_cons.mp given with isFirst | later
      · cases isFirst
        rw [always] at flattens
        cases flattens
        exact List.mem_cons_self
      · exact List.mem_cons_of_mem _ (ih later)

end Flattened

/-! ## What is declared -/

section Declared

variable {entries : List (String × String)} {qualifier : Option String} {uri : String}

theorem declaredFor_eq_none
    (silent : ∀ entry ∈ entries, declaredQualifier? entry.1 ≠ some qualifier) :
    declaredFor entries qualifier = none := by
  unfold declaredFor
  split
  · rfl
  · rw [List.getLast?_eq_none_iff, List.map_eq_nil_iff, List.filter_eq_nil_iff]
    exact fun entry among => by simpa using silent entry among

/-- A qualifier that is declared by one namespace only stands for it. -/
theorem declaredFor_eq_some (noXml : qualifier ≠ xmlQualifier)
    (only : ∀ entry ∈ entries, declaredQualifier? entry.1 = some qualifier → entry.2 = uri)
    (declares : ∃ entry ∈ entries, declaredQualifier? entry.1 = some qualifier) :
    declaredFor entries qualifier = some uri := by
  rw [declaredFor, if_neg noXml]
  obtain ⟨entry, among, isOf⟩ := declares
  have isThere : entry.2 ∈ (entries.filter fun entry =>
      declaredQualifier? entry.1 = some qualifier).map Prod.snd :=
    List.mem_map_of_mem (List.mem_filter.mpr ⟨among, by simpa using isOf⟩)
  cases last : ((entries.filter fun entry =>
      declaredQualifier? entry.1 = some qualifier).map Prod.snd).getLast? with
  | none =>
      rw [List.getLast?_eq_none_iff.mp last] at isThere
      cases isThere
  | some found =>
      obtain ⟨other, member, rfl⟩ := List.mem_map.mp (List.mem_of_getLast? last)
      obtain ⟨member, isOf⟩ := List.mem_filter.mp member
      rw [only other member (by simpa using isOf)]

variable {name : String} {scope : Option String → Option String} {resolution : Resolution}

/-- The name of an element is in use, and stands for what is declared, or else in scope. -/
theorem Resolution.Exact.elementNamespace_eq (exact : resolution.Exact name entries scope)
    (unqualified : (splitQualified name).1 = none) :
    resolution.elementNamespace =
      ((declaredFor entries none).or (scope none)).filter (· != "") := by
  have isNone : resolution.qualifier = none := (congrArg Prod.fst exact.split).trans unqualified
  have used : none ∈ usedQualifiers name entries := by
    refine List.mem_filter.mpr ⟨?_, by decide⟩
    rw [List.map_cons, unqualified]
    exact List.mem_cons_self
  have same : resolution.bindings.lookup none = (declaredFor entries none).or (scope none) := by
    refine Option.ext fun uri => ?_
    rw [exact.bindings.lookup]
    cases declaredFor entries none <;> simp [used]
  rw [Resolution.elementNamespace, isNone, if_neg (by decide), same]

end Declared

/-! ## What is set -/

/-- Each attribute, be it a lost one, goes by its qualifier and local name, and its name and value
are as they may be set. -/
def Tag.Holds (may : String → String → Prop) (tag : Tag) : Prop :=
  ∀ attr ∈ tag.attributes ++ tag.lost,
    attr.name = Text.joinColon attr.qualifier attr.localName ∧ may attr.name attr.value

section Set

variable {may : String → String → Prop} {tag : Tag} {name value : String}
  {namespaceUri : Option String}

/-- Two changes in the same place are one. -/
theorem Tag.changeIn_changeIn {localName : String} {edit again : Attribute → Attribute}
    (keeps : ∀ attr, attr.isAt namespaceUri localName → (edit attr).isAt namespaceUri localName) :
    ∀ attributes : List Attribute,
      changeIn namespaceUri localName again (changeIn namespaceUri localName edit attributes) =
        changeIn namespaceUri localName (fun attr => again (edit attr)) attributes
  | [] => rfl
  | attr :: rest => by
      by_cases here : attr.isAt namespaceUri localName
      · simp [changeIn, here, keeps attr here]
      · simp [changeIn, here, changeIn_changeIn keeps rest]

theorem Tag.change_change {localName : String} {edit again : Attribute → Attribute}
    (keeps : ∀ attr, attr.isAt namespaceUri localName → (edit attr).isAt namespaceUri localName) :
    (tag.change namespaceUri localName edit).change namespaceUri localName again =
      tag.change namespaceUri localName fun attr => again (edit attr) := by
  simp only [change, changeIn_changeIn keeps]

theorem Tag.mem_change {localName : String} {edit : Attribute → Attribute} {attr : Attribute}
    (among : attr ∈ (tag.change namespaceUri localName edit).attributes ++
      (tag.change namespaceUri localName edit).lost) :
    attr ∈ tag.attributes ++ tag.lost ∨
      ∃ old ∈ tag.attributes ++ tag.lost, old.isAt namespaceUri localName ∧ attr = edit old := by
  have sides {attributes : List Attribute} (part : attributes ⊆ tag.attributes ++ tag.lost)
      (among : attr ∈ changeIn namespaceUri localName edit attributes) :
      attr ∈ tag.attributes ++ tag.lost ∨
        ∃ old ∈ tag.attributes ++ tag.lost, old.isAt namespaceUri localName ∧ attr = edit old :=
    (mem_changeIn among).imp (fun same => part same)
      fun ⟨old, member, isAt, edited⟩ => ⟨old, part member, isAt, edited⟩
  rcases List.mem_append.mp among with kept | lost
  · exact sides (List.subset_append_left _ _) kept
  · exact sides (List.subset_append_right _ _) lost

theorem Tag.mem_makeRoom {after : Tag} {key : String} {attr : Attribute}
    (room : tag.makeRoom key = .ok after) (among : attr ∈ after.attributes ++ after.lost) :
    attr ∈ tag.attributes ++ tag.lost := by
  unfold makeRoom at room
  split at room
  · cases room
    exact among
  · split at room
    · cases room
    · rename_i gone found
      cases room
      rcases List.mem_append.mp among with kept | lost
      · exact List.mem_append_left _ (List.mem_filter.mp kept).1
      · dsimp only at lost
        split at lost
        · exact List.mem_append_right _ lost
        · rcases List.mem_append.mp lost with old | new
          · exact List.mem_append_right _ old
          · rw [List.mem_singleton.mp new]
            exact List.mem_append_left _ (List.mem_of_find?_eq_some found)

theorem Tag.mem_append {new attr : Attribute} :
    ∀ {attributes : List Attribute}, attr ∈ append new attributes → attr = new ∨ attr ∈ attributes
  | [], among => .inl (List.mem_singleton.mp among)
  | first :: rest, among => by
      unfold append at among
      split at among
      · exact (List.mem_cons.mp among).imp id (List.mem_cons_of_mem _)
      · rcases List.mem_cons.mp among with rfl | later
        · exact .inr List.mem_cons_self
        · exact (mem_append later).imp id (List.mem_cons_of_mem _)

/-- An attribute that is set has the name and the value, whether it was there before or not. -/
theorem Tag.put_holds {after : Tag} (holds : tag.Holds may) (allowed : may name value)
    (put : tag.put namespaceUri name value = (.ok (), after)) : after.Holds may := by
  have whole := Text.joinColon_splitColon name
  unfold Tag.put at put
  dsimp only at put
  split at put
  · split at put
    · cases put
    · injection put with _ isAfter
      intro attr among
      -- Setting the value and then the name is one change.
      have one : after = tag.change namespaceUri (Text.splitColon name).2
          fun old => ({ old with value } : Attribute).renamed (Text.splitColon name).1 := by
        rw [← isAfter]
        exact change_change fun _ isAt => isAt
      rw [one] at among
      rcases mem_change among with same | ⟨old, member, isAt, rfl⟩
      · exact holds attr same
      · have isLocal : old.localName = (Text.splitColon name).2 := by
          simpa using (Bool.and_eq_true_iff.mp isAt).2
        unfold Attribute.renamed
        split
        · rename_i same
          have isName : old.name = name := by
            rw [(holds old member).1, isLocal, show old.qualifier = _ from same, whole]
          exact ⟨(holds old member).1, isName ▸ allowed⟩
        · dsimp only
          rw [isLocal, whole]
          exact ⟨rfl, allowed⟩
  · split at put
    · cases put
    · rename_i room
      injection put with _ isAfter
      intro attr among
      rw [← isAfter] at among
      rcases List.mem_append.mp among with kept | lost
      · rcases mem_append kept with rfl | kept
        · exact ⟨whole.symm, allowed⟩
        · exact holds attr (mem_makeRoom room (List.mem_append_left _ kept))
      · exact holds attr (mem_makeRoom room (List.mem_append_right _ lost))

theorem Tag.putAll_holds : ∀ {entries : List Attribute.Entry} {tag after : Tag}, tag.Holds may →
    (∀ entry ∈ entries, may entry.name entry.value) →
    tag.putAll entries = (.ok (), after) → after.Holds may
  | [], _, _, holds, _, put => by
      cases put
      exact holds
  | entry :: rest, tag, after, holds, allowed, put => by
      unfold putAll at put
      split at put
      · rename_i next sets
        exact putAll_holds (put_holds holds (allowed entry List.mem_cons_self) sets)
          (fun other among => allowed other (List.mem_cons_of_mem _ among)) put
      · cases put

end Set

/-! ## What is said of the default -/

section Stated

variable {name uri : String} {entries : List (String × String)}
  {scope : Option String → Option String} {resolution : Resolution} {tag : Tag}

theorem lookup_eq_some_of_forall {κ ν : Type} [BEq κ] [LawfulBEq κ] {key : κ} {value : ν} :
    ∀ {entries : List (κ × ν)}, (∀ other, (key, other) ∈ entries → other = value) →
      (key, value) ∈ entries → entries.lookup key = some value
  | (first, other) :: rest, only, among => by
      rw [List.lookup_cons]
      split
      · rename_i same
        rw [beq_iff_eq.mp same] at only
        rw [only other List.mem_cons_self]
      · rename_i differ
        rcases List.mem_cons.mp among with isFirst | later
        · cases isFirst
          simp at differ
        · exact lookup_eq_some_of_forall
            (fun value among => only value (List.mem_cons_of_mem _ among)) later

/-- An element without a qualifier that declares a default namespace is in it, and says nothing
else of the default. -/
theorem lookup_stated_default (exact : resolution.Exact name entries scope)
    (isTag : resolution.tag = (.ok (), tag)) (unqualified : (splitQualified name).1 = none)
    (single : (Text.splitColon resolution.name).1 = none)
    (declares : declaredFor entries none = some uri) (isText : uri ≠ "") :
    tag.namespaceUri = some uri ∧ tag.stated.lookup (declarationKey none) = some uri := by
  obtain ⟨namespaceUri, qualifier⟩ := Resolution.bare_of_tag isTag
  rw [exact.elementNamespace_eq unqualified, declares, Option.some_or, Option.filter_some,
    if_pos (by simpa using isText)] at namespaceUri
  rw [single] at qualifier
  refine ⟨namespaceUri, ?_⟩
  have holds : tag.Holds fun name value => name = declarationKey none → value = uri := by
    refine Tag.putAll_holds (fun attr none => absurd none List.not_mem_nil)
      (fun entry among => ?_) isTag
    intro isKey
    rcases List.mem_append.mp among with declared | plain
    · obtain ⟨⟨key, value⟩, member, rfl⟩ := List.mem_map.mp declared
      obtain rfl : key = none := declarationKey_injective isKey
      rw [(exact.declarations.mem_iff none value).mp (Text.mem_sortByText.mp member)] at declares
      exact Option.some.inj declares
    · -- What is plain declares nothing.
      obtain ⟨⟨key, value⟩, member, rfl⟩ := List.mem_map.mp plain
      obtain rfl : key = declarationKey none := isKey
      have isPlain := exact.attributes ▸ Text.mem_sortByText.mp member
      exact absurd (List.mem_filter.mp isPlain).2
        (show ¬ (declaredQualifier? (declarationKey none)).isNone by decide)
  have own : tag.own = [(declarationKey none, uri)] := by
    simp [Tag.own, Tag.ownKey, namespaceUri, qualifier, isText]
  refine lookup_eq_some_of_forall (fun value among => ?_) ?_
  · rcases List.mem_append.mp among with declared | isOwn
    · obtain ⟨attr, member, same⟩ := List.mem_map.mp declared
      obtain ⟨isKey, isValue⟩ := Prod.mk.inj same
      rw [← isValue]
      exact (holds attr (List.mem_append_left _ (List.mem_filter.mp member).1)).2 isKey
    · rw [own] at isOwn
      simpa using isOwn
  · rw [Tag.stated, own]
    exact List.mem_append_right _ (List.mem_singleton_self _)

end Stated

/-! ## Inside of the element -/

/-- What a node says itself is in scope at it. -/
theorem Forest.inScope_of_stated {forest : Forest} {near : NodeId} {behind : Option NodeId}
    {qualifier : Option String} {uri : String}
    (stated : (forest.statedAt near).lookup (declarationKey qualifier) = some uri) :
    forest.inScope near behind qualifier = some uri := by
  have begins : ∃ above, forest.lineage near = near :: above := by
    unfold lineage
    cases forest.size with
    | zero => exact ⟨[], rfl⟩
    | succ steps =>
        unfold lineageWithin
        split
        · exact ⟨_, rfl⟩
        · exact ⟨[], rfl⟩
  obtain ⟨above, begins⟩ := begins
  rw [inScope, lookup_declarations, Forest.scope, begins, List.flatMap_cons, List.lookup_append,
    stated]
  rfl

section Visits

variable {scene : Scene} {visit : Visit} {made : Made} {after : World} {near : NodeId}
  {uri : String}

/-- An element without a qualifier that declares no default is in the namespace that the element
around it says is the default. -/
theorem Visit.namespace_of_stated (isMade : visit.made? scene = some (made, after))
    (isNear : visit.place.pseudo = some near)
    (stated : (visit.world.forest.statedAt near).lookup (declarationKey none) = some uri)
    (isText : uri ≠ "")
    (bare : ∀ name entries, visit.Flattens scene name entries →
      (splitQualified name).1 = none ∧
        ∀ entry ∈ entries, declaredQualifier? entry.1 ≠ some none) :
    ∃ tag, after.forest.content? made.element = some (.element tag) ∧
      tag.namespaceUri = some uri := by
  obtain ⟨name, entries, near', tag, flattens, isSources, exact, isTag, there⟩ :=
    visit.exact_of_made? isMade
  obtain rfl : near = near' := by
    rw [sources?, isNear] at isSources
    simpa using isSources
  obtain ⟨unqualified, silent⟩ := bare name entries flattens
  refine ⟨tag, there, (Resolution.bare_of_tag isTag).1.trans ?_⟩
  rw [exact.elementNamespace_eq unqualified, declaredFor_eq_none silent, Option.none_or,
    inScope_of_stated stated]
  simpa using isText

end Visits

end MarkupSpec
