import MarkupSpec.Proofs.Namespace.ResolvedBindings

/-!
# What the qualifiers of an element mean

The meaning of qualifiers is a function to namespaces.  An element changes the
meaning it finds by what it declares (`declaredOver`), and a tag obeys a meaning
if its own namespace and those of its attributes are what the qualifiers mean
(`Tag.Obeys`).

An element that is resolved by a meaning obeys it, changed by its declarations
(`Resolution.obeys`), and what it says to the elements inside of it is that same
meaning (`Resolution.lookup_stated`): its own namespace, which it also brings into
scope, says nothing new.
-/

namespace MarkupSpec

/-- What each qualifier, or the default, stands for. -/
abbrev Meaning := Option String → Option String

/-- The meaning inside of an element with these declarations. -/
def declaredOver (declarations : List (Option String × String)) (meaning : Meaning) : Meaning :=
  fun qualifier => (declarations.lookup qualifier).or (meaning qualifier)

/-- The namespace that an element with a qualifier should be in.  An empty one is
none. -/
def Meaning.ofElement (meaning : Meaning) (qualifier : Option String) : Option String :=
  if qualifier = xmlQualifier then some xmlNamespace else (meaning qualifier).filter (· != "")

/-- The namespace that an attribute with a qualifier should be in. -/
def Meaning.ofAttribute (meaning : Meaning) : Option String → Option String
  | none => none
  | some qualifier => meaning.ofElement (some qualifier)

/-- The qualifiers of the element and of its attributes, apart from the declarations,
by the names they go by and by the keys they are written out under. -/
def Tag.Uses (tag : Tag) (qualifier : String) : Prop :=
  tag.qualifier = some qualifier ∨ ∃ attr ∈ tag.attributes,
    isDeclarationName attr.name = false ∧ attr.qualifier = some qualifier ∨
      isDeclarationName attr.key = false ∧ (Text.splitColon attr.key).1 = some qualifier

/-- The element and its attributes, apart from the declarations, are in the
namespaces that their qualifiers mean, by the names they go by and by the keys
they are written out under.  No qualifier is without a meaning.  The declarations
are written out under their names. -/
structure Tag.Obeys (meaning : Meaning) (tag : Tag) : Prop where
  element : tag.namespaceUri = meaning.ofElement tag.qualifier
  attributes : ∀ attr ∈ tag.attributes, isDeclarationName attr.name = false →
    attr.namespaceUri = meaning.ofAttribute attr.qualifier
  keys : ∀ attr ∈ tag.attributes, isDeclarationName attr.key = false →
    attr.namespaceUri = meaning.ofAttribute (Text.splitColon attr.key).1
  bound : ∀ qualifier, tag.Uses qualifier → some qualifier ≠ xmlQualifier →
    (meaning (some qualifier)).isSome
  declarations : ∀ attr ∈ tag.attributes, isDeclarationName attr.name →
    attr.key = attr.name ∧ attr.namespaceUri = some declarationNamespace

/-- The scope gives the qualifiers that may be declared a meaning. -/
def Means (scope : List (String × String)) (meaning : Meaning) : Prop :=
  ∀ qualifier, qualifier ≠ xmlQualifier →
    scope.lookup (declarationKey qualifier) = meaning qualifier

/-- Only what may be declared matters. -/
theorem Tag.Obeys.congr {meaning other : Meaning} {tag : Tag} (obeys : tag.Obeys meaning)
    (same : ∀ qualifier, qualifier ≠ xmlQualifier → meaning qualifier = other qualifier) :
    tag.Obeys other := by
  have elements (qualifier : Option String) :
      meaning.ofElement qualifier = other.ofElement qualifier := by
    unfold Meaning.ofElement
    split
    · rfl
    · rename_i noXml
      rw [same qualifier noXml]
  have attributes (qualifier : Option String) :
      meaning.ofAttribute qualifier = other.ofAttribute qualifier := by
    cases qualifier with
    | none => rfl
    | some qualifier => exact elements (some qualifier)
  exact
    { element := obeys.element.trans (elements _)
      attributes := fun attr among isPlain => (obeys.attributes attr among isPlain).trans (attributes _)
      keys := fun attr among isPlain => (obeys.keys attr among isPlain).trans (attributes _)
      bound := fun qualifier uses noXml => by
        rw [← same _ noXml]
        exact obeys.bound qualifier uses noXml
      declarations := obeys.declarations }

/-- What an element says besides its declarations is what its qualifier means
already. -/
theorem Tag.lookup_stated {meaning outer : Meaning} {tag : Tag} (obeys : tag.Obeys meaning)
    (layered : ∀ qualifier, qualifier ≠ xmlQualifier →
      meaning qualifier = (tag.declared.lookup (declarationKey qualifier)).or (outer qualifier))
    (qualified : tag.qualifier ≠ some "") {qualifier : Option String}
    (noXml : qualifier ≠ xmlQualifier) :
    (tag.stated.lookup (declarationKey qualifier)).or (outer qualifier) = meaning qualifier := by
  rw [Tag.stated, List.lookup_append, layered qualifier noXml]
  cases declared : tag.declared.lookup (declarationKey qualifier) with
  | some uri => rfl
  | none =>
      rw [Option.none_or, Option.none_or]
      unfold Tag.own
      cases isIn : tag.namespaceUri with
      | none => rfl
      | some uri =>
          dsimp only
          split
          · rfl
          · have key : tag.ownKey = declarationKey tag.qualifier := by
              have same : tag.qualifier.filter (· != "") = tag.qualifier := by
                cases given : tag.qualifier with
                | none => rfl
                | some text =>
                    have nonempty : text ≠ "" := by
                      rintro rfl
                      exact qualified given
                    simp [Option.filter, nonempty]
              rw [Tag.ownKey, same]
            rw [key]
            by_cases here : qualifier = tag.qualifier
            · subst here
              rw [List.lookup_cons_self, Option.some_or]
              have element := obeys.element
              rw [isIn, Meaning.ofElement, if_neg noXml, layered _ noXml, declared,
                Option.none_or] at element
              exact (Option.filter_eq_some_iff.mp element.symm).1.symm
            · have apart : (declarationKey qualifier == declarationKey tag.qualifier) = false := by
                simpa using fun same => here (declarationKey_injective same)
              simp [List.lookup_cons, apart]

/-! ## Looking up declarations -/

theorem lookup_map_declarationKey (qualifier : Option String) :
    ∀ entries : List (Option String × String),
      (entries.map fun entry => (declarationKey entry.1, entry.2)).lookup
          (declarationKey qualifier) = entries.lookup qualifier
  | [] => rfl
  | (other, uri) :: rest => by
      have later := lookup_map_declarationKey qualifier rest
      by_cases here : qualifier = other
      · subst here
        simp
      · have apart : (qualifier == other) = false := by simpa using here
        have keysApart : (declarationKey qualifier == declarationKey other) = false := by
          simpa using fun same => here (declarationKey_injective same)
        simp [List.lookup_cons, apart, keysApart, later]

/-- The order of entries with different keys does not matter. -/
theorem lookup_perm {κ ν : Type} [BEq κ] [LawfulBEq κ] {key : κ} {entries others : List (κ × ν)}
    (distinct : (entries.map Prod.fst).Nodup) (perm : entries.Perm others) :
    entries.lookup key = others.lookup key := by
  induction perm with
  | nil => rfl
  | cons entry _ ih =>
      obtain ⟨first, value⟩ := entry
      rw [List.lookup_cons, List.lookup_cons, ih (List.nodup_cons.mp distinct).2]
  | swap first second rest =>
      obtain ⟨key₁, value₁⟩ := first
      obtain ⟨key₂, value₂⟩ := second
      have differ : key₂ ≠ key₁ := by
        intro same
        simp [same] at distinct
      rw [List.lookup_cons, List.lookup_cons, List.lookup_cons, List.lookup_cons]
      by_cases here : key = key₁
      · have apart : (key == key₂) = false := by simpa [here] using differ.symm
        simp [apart]
      · have apart : (key == key₁) = false := by simpa using here
        simp [apart]
  | trans onFirst _ ihFirst ihSecond =>
      exact (ihFirst distinct).trans (ihSecond ((onFirst.map Prod.fst).nodup_iff.mp distinct))

namespace Resolution

variable {resolution : Resolution} {scope : List (String × String)} {meaning : Meaning} {tag : Tag}

theorem FoundIn.element (found : resolution.FoundIn scope) (means : Means scope meaning) :
    resolution.elementNamespace =
      (declaredOver resolution.declarations meaning).ofElement resolution.qualifier := by
  unfold elementNamespace Meaning.ofElement
  split
  · rfl
  · rename_i noXml
    rw [found.used _ (.inl rfl) noXml, means _ noXml]
    rfl

theorem FoundIn.attribute (found : resolution.FoundIn scope) (means : Means scope meaning)
    {key : String} (known : key ∈ resolution.attributes.map Prod.fst) :
    resolution.attributeNamespace key =
      (declaredOver resolution.declarations meaning).ofAttribute (splitQualified key).1 := by
  have uses : resolution.Uses (splitQualified key).1 := .inr ⟨key, known, rfl⟩
  unfold attributeNamespace Meaning.ofAttribute
  cases qualified : (splitQualified key).1 with
  | none => rfl
  | some qualifier =>
      rw [qualified] at uses
      dsimp only
      unfold Meaning.ofElement
      split
      · rfl
      · rename_i noXml
        rw [found.used _ uses noXml, means _ noXml]
        rfl

/-- The name, namespace and qualifier of the tag. -/
theorem bare_of_tag {outcome : Except AttributeError Unit}
    (made : resolution.tag = (outcome, tag)) :
    tag.namespaceUri = resolution.elementNamespace ∧
      tag.qualifier = (Text.splitColon resolution.name).1 := by
  have bare := resolution.bare_tag
  rw [made] at bare
  exact ⟨congrArg Tag.namespaceUri bare, congrArg Tag.qualifier bare⟩

/-- A resolved element obeys the meaning it was resolved by, changed by its own
declarations. -/
theorem obeys (found : resolution.FoundIn scope) (means : Means scope meaning)
    (plain : resolution.Plain) (spells : resolution.Spells tag)
    {outcome : Except AttributeError Unit} (made : resolution.tag = (outcome, tag)) :
    tag.Obeys (declaredOver resolution.declarations meaning) := by
  obtain ⟨namespaceUri, qualifier⟩ := bare_of_tag made
  have split {key : String} (known : key ∈ resolution.attributes.map Prod.fst) :
      resolution.attributeNamespace key =
        (declaredOver resolution.declarations meaning).ofAttribute (Text.splitColon key).1 := by
    obtain ⟨entry, member, isKey⟩ := List.mem_map.mp known
    have plainKey : PlainName key := isKey ▸ plain.keys entry member
    rw [← plainKey.splitQualified_eq]
    exact found.attribute means known
  have sorts {attr : Attribute} (among : attr ∈ tag.attributes) :
      (isDeclarationName attr.name ∧ isDeclarationName attr.key ∧ attr.key = attr.name ∧
        attr.namespaceUri = some declarationNamespace) ∨ resolution.Places attr := by
    obtain ⟨attributes, whole, places⟩ := spells.attributes
    rw [whole] at among
    rcases List.mem_append.mp among with declared | isPlain
    · obtain ⟨entry, -, rfl⟩ := List.mem_map.mp declared
      have declares := isDeclarationName_declarationKey entry.1
      exact .inl ⟨declares, declares, rfl, rfl⟩
    · exact .inr (places attr isPlain)
  -- A qualifier in use means what it is bound to.
  have binds {qualifier : String} (uses : resolution.Uses (some qualifier))
      (noXml : some qualifier ≠ xmlQualifier) :
      (declaredOver resolution.declarations meaning (some qualifier)).isSome := by
    have same : resolution.bindings.lookup (some qualifier) =
        declaredOver resolution.declarations meaning (some qualifier) := by
      rw [found.used _ uses noXml, means _ noXml]
      rfl
    rw [← same]
    exact found.known qualifier uses noXml
  have known {key qualifier : String} (known : key ∈ resolution.attributes.map Prod.fst)
      (has : (Text.splitColon key).1 = some qualifier) : resolution.Uses (some qualifier) := by
    obtain ⟨entry, member, isKey⟩ := List.mem_map.mp known
    have plainKey : PlainName key := isKey ▸ plain.keys entry member
    refine .inr ⟨key, known, ?_⟩
    rw [plainKey.splitQualified_eq, has]
  refine
    { element := ?_, attributes := fun attr among other => ?_, keys := fun attr among other => ?_
      bound := fun used uses noXml => binds ?_ noXml
      declarations := fun attr among declares => ?_ }
  · rw [namespaceUri, qualifier, found.split plain.name]
    exact found.element means
  · rcases sorts among with ⟨declares, -⟩ | placed
    · rw [declares] at other
      cases other
    · rw [placed.byName, placed.qualifier]
      exact split placed.known
  · rcases sorts among with ⟨-, declares, -⟩ | placed
    · rw [declares] at other
      cases other
    · rw [placed.byKey]
      exact split placed.keyKnown
  · rcases uses with own | ⟨attr, among, ⟨other, own⟩ | ⟨other, own⟩⟩
    · rw [qualifier, found.split plain.name] at own
      exact .inl own.symm
    · rcases sorts among with ⟨declares, -⟩ | placed
      · rw [declares] at other
        cases other
      · exact known placed.known (placed.qualifier ▸ own)
    · rcases sorts among with ⟨-, declares, -⟩ | placed
      · rw [declares] at other
        cases other
      · exact known placed.keyKnown own
  · rcases sorts among with ⟨-, -, same⟩ | placed
    · exact same
    · rw [placed.namePlain] at declares
      cases declares

/-- A tag declares what the element declares, in order. -/
theorem Spells.declared_eq (spells : resolution.Spells tag) :
    tag.declared =
      resolution.declaredInOrder.map fun entry => (declarationKey entry.1, entry.2) := by
  obtain ⟨attributes, whole, places⟩ := spells.attributes
  have front : (resolution.declaredInOrder.map Attribute.declaring).filter
      (fun attr => isDeclarationName attr.name) =
      resolution.declaredInOrder.map Attribute.declaring := by
    refine List.filter_eq_self.mpr fun attr among => ?_
    obtain ⟨entry, -, rfl⟩ := List.mem_map.mp among
    exact isDeclarationName_declarationKey entry.1
  have back : attributes.filter (fun attr => isDeclarationName attr.name) = [] := by
    refine List.filter_eq_nil_iff.mpr fun attr among => ?_
    simp [(places attr among).namePlain]
  rw [Tag.declared, whole, List.filter_append, front, back, List.append_nil, List.map_map]
  rfl

/-- What a tag declares is what the element declares. -/
theorem Spells.lookup_declared (sorted : resolution.Sorted) (spells : resolution.Spells tag)
    (qualifier : Option String) :
    tag.declared.lookup (declarationKey qualifier) = resolution.declarations.lookup qualifier := by
  have perm : resolution.declaredInOrder.Perm resolution.declarations := Text.perm_sortByText _ _
  rw [spells.declared_eq, lookup_map_declarationKey]
  exact lookup_perm ((perm.map Prod.fst).nodup_iff.mpr sorted.distinct) perm

/-- Behind what a tag says a meaning becomes the one inside of the element. -/
theorem lookup_stated (found : resolution.FoundIn scope) (means : Means scope meaning)
    (plain : resolution.Plain) (spells : resolution.Spells tag)
    {outcome : Except AttributeError Unit} (made : resolution.tag = (outcome, tag))
    {qualifier : Option String} (noXml : qualifier ≠ xmlQualifier) :
    (tag.stated.lookup (declarationKey qualifier)).or (meaning qualifier) =
      declaredOver resolution.declarations meaning qualifier := by
  have isQualifier := (bare_of_tag made).2
  rw [found.split plain.name] at isQualifier
  refine Tag.lookup_stated (obeys found means plain spells made) (fun qualifier noXml => ?_)
    (isQualifier ▸ found.qualified) noXml
  rw [spells.lookup_declared found.sorted]
  rfl

end Resolution

end MarkupSpec
