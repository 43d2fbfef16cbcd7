import MarkupSpec.Compile

/-!
# How an element spells its namespaces

The tag of an element that was resolved holds its declarations, in order, and
behind them its plain attributes (`Resolution.spells_tag`).  No attribute takes
the place of another one by its key: a plain attribute that has the key of an
earlier one is in the same namespace and has the same local name, so that it is
found and changed in place.

Names are taken to be plain (`PlainName`), which makes the two ways to split a
name agree.
-/

namespace MarkupSpec

/-! ## Plain names -/

/-- A name on a single line that neither begins nor ends with a colon. -/
structure PlainName (name : String) : Prop where
  line : '\n' ∉ name.toList
  head : name.toList.head? ≠ some ':'
  last : name.toList.getLast? ≠ some ':'

instance (name : String) : Decidable (PlainName name) :=
  decidable_of_iff
    ('\n' ∉ name.toList ∧ name.toList.head? ≠ some ':' ∧ name.toList.getLast? ≠ some ':')
    ⟨fun ⟨line, head, last⟩ => ⟨line, head, last⟩,
      fun plain => ⟨plain.line, plain.head, plain.last⟩⟩

/-- A plain name is split at its first colon, if it has one. -/
theorem PlainName.splitQualified_eq {name : String} (plain : PlainName name) :
    splitQualified name = Text.splitColon name := by
  simp only [splitQualified, Text.splitColon]
  cases cut : Text.splitAt? ':' name.toList with
  | none =>
      by_cases empty : name.toList = []
      · simp [wholeName, empty, nonemptyLine?, singleLine?, dropLineFeed, Option.filter]
      · simp [wholeName, nonemptyLine?_of_not_mem plain.line empty]
  | some parts =>
      obtain ⟨before, after⟩ := parts
      obtain ⟨whole, -⟩ := Text.splitAt?_eq_some_iff.mp cut
      have nonemptyBefore : before ≠ [] := by
        rintro rfl
        exact plain.head (by simp [whole])
      have nonempty : after ≠ [] := by
        rintro rfl
        exact plain.last (by simp [whole])
      have line : '\n' ∉ after := fun among => plain.line (by simp [whole, among])
      have isSome : before.isEmpty = false := by simpa using nonemptyBefore
      simp only [isSome, nonemptyLine?_of_not_mem line nonempty]

/-! ## Declaration keys -/

theorem splitColon_declarationKey_some (qualifier : String) :
    Text.splitColon (declarationKey (some qualifier)) = (some "xmlns", qualifier) := by
  have cut : Text.splitAt? ':' (declarationKey (some qualifier)).toList =
      some ("xmlns".toList, qualifier.toList) := by
    refine Text.splitAt?_eq_some_iff.mpr ⟨?_, by decide⟩
    simp [declarationKey]
  simp [Text.splitColon, cut]

/-- The local name of the attribute that declares a qualifier. -/
theorem splitColon_declarationKey (qualifier : Option String) :
    (Text.splitColon (declarationKey qualifier)).2 = qualifier.getD "xmlns" := by
  cases qualifier with
  | none => decide
  | some qualifier => rw [splitColon_declarationKey_some]; rfl

theorem declarationKey_injective {first second : Option String}
    (same : declarationKey first = declarationKey second) : first = second := by
  have splits := congrArg Text.splitColon same
  cases first with
  | none =>
      cases second with
      | none => rfl
      | some qualifier =>
          rw [splitColon_declarationKey_some] at splits
          cases congrArg Prod.fst splits
  | some qualifier =>
      cases second with
      | none =>
          rw [splitColon_declarationKey_some] at splits
          cases congrArg Prod.fst splits
      | some other =>
          rw [splitColon_declarationKey_some, splitColon_declarationKey_some] at splits
          exact congrArg (fun parts => some parts.2) splits

theorem isDeclarationName_declarationKey (qualifier : Option String) :
    isDeclarationName (declarationKey qualifier) = true := by
  cases qualifier with
  | none => decide
  | some qualifier => simp [isDeclarationName, declarationKey]

/-- A plain key that declares nothing is no name of a declaration. -/
theorem PlainName.isDeclarationName_eq_false {key : String} (plain : PlainName key)
    (declares : declaredQualifier? key = none) : isDeclarationName key = false := by
  cases isName : isDeclarationName key with
  | false => rfl
  | true =>
      simp only [isDeclarationName, Bool.or_eq_true, beq_iff_eq,
        List.isPrefixOf_iff_prefix] at isName
      rcases isName with rfl | ⟨rest, whole⟩
      · exact absurd declares (by decide)
      · have line : '\n' ∉ rest := fun among => plain.line (by rw [← whole]; simp [among])
        have chars : key.toList = 'x' :: 'm' :: 'l' :: 'n' :: 's' :: ':' :: rest := by
          rw [← whole]
          rfl
        have read : declaredQualifier? key = (singleLine? rest).map fun line =>
            if line.isEmpty then none else some (String.ofList line) := by
          simp [declaredQualifier?, chars, afterXmlns?, matchesLetter]
        rw [read, singleLine?_of_not_mem line] at declares
        cases declares

/-- What is no name of a declaration has not its qualifier. -/
theorem splitColon_ne_xmlns {key : String} (other : isDeclarationName key = false) :
    (Text.splitColon key).1 ≠ some "xmlns" := by
  intro isXmlns
  have whole := Text.joinColon_splitColon key
  rw [isXmlns] at whole
  rw [← whole] at other
  simp [isDeclarationName, Text.joinColon] at other

/-! ## Declaring -/

/-- The attribute that declares a namespace. -/
def Attribute.declaring (entry : Option String × String) : Attribute :=
  .ofName (some declarationNamespace) (declarationKey entry.1) entry.2

theorem Attribute.isAt_declaring {entry other : Option String × String}
    (noXmlns : entry.1 ≠ some "xmlns" ∧ other.1 ≠ some "xmlns") (differ : entry.1 ≠ other.1) :
    (Attribute.declaring entry).isAt (some declarationNamespace) (other.1.getD "xmlns") =
      false := by
  have localName : (Attribute.declaring entry).localName = entry.1.getD "xmlns" :=
    splitColon_declarationKey entry.1
  simp only [isAt, localName, Bool.and_eq_false_iff, beq_eq_false_iff_ne]
  right
  cases first : entry.1 <;> cases second : other.1 <;> grind

theorem Tag.append_of_forall_ne {new : Attribute} {attributes : List Attribute}
    (differ : ∀ attr ∈ attributes, attr.key ≠ new.key) :
    append new attributes = attributes ++ [new] := by
  induction attributes with
  | nil => rfl
  | cons attr rest ih =>
      simp only [append, if_neg (differ attr (by simp)), List.cons_append]
      rw [ih fun other among => differ other (by simp [among])]

/-- The tag with attributes that declare namespaces, and no others. -/
def Tag.withDeclared (tag : Tag) (entries : List (Option String × String)) : Tag :=
  { tag with attributes := entries.map Attribute.declaring }

/-- Declaring a qualifier that is not declared yet appends its attribute. -/
theorem Tag.put_declaring {tag : Tag} (lost : tag.lost = [])
    {entries : List (Option String × String)} {entry : Option String × String}
    (noXmlns : entry.1 ≠ some "xmlns")
    (others : ∀ other ∈ entries, other.1 ≠ some "xmlns" ∧ other.1 ≠ entry.1) :
    (tag.withDeclared entries).put (some declarationNamespace) (declarationKey entry.1) entry.2 =
      (.ok (), tag.withDeclared (entries ++ [entry])) := by
  have notFound : (tag.withDeclared entries).find? (some declarationNamespace)
      (Text.splitColon (declarationKey entry.1)).2 = none := by
    rw [find?, withDeclared, lost, List.append_nil, List.find?_eq_none, splitColon_declarationKey]
    intro attr among
    obtain ⟨other, member, rfl⟩ := List.mem_map.mp among
    simp [Attribute.isAt_declaring ⟨(others other member).1, noXmlns⟩ (others other member).2]
  have differ : ∀ attr ∈ entries.map Attribute.declaring, attr.key ≠ declarationKey entry.1 := by
    intro attr among same
    obtain ⟨other, member, rfl⟩ := List.mem_map.mp among
    exact (others other member).2 (declarationKey_injective same)
  have room : (tag.withDeclared entries).makeRoom (declarationKey entry.1) =
      .ok (tag.withDeclared entries) := by
    have none : (tag.withDeclared entries).attributes.find? (·.key == declarationKey entry.1) =
        none := by
      rw [List.find?_eq_none]
      intro attr among
      simpa using differ attr among
    simp only [makeRoom, none]
  have appended : append (Attribute.declaring entry) (entries.map Attribute.declaring) =
      (entries ++ [entry]).map Attribute.declaring := by
    rw [append_of_forall_ne differ]
    simp
  simp only [put, notFound, room]
  exact congrArg (fun attributes => (Except.ok (), { tag with attributes })) appended

/-- Declaring several qualifiers appends their attributes in order. -/
theorem Tag.putAll_declaring {tag : Tag} (lost : tag.lost = []) (behind : List Attribute.Entry) :
    ∀ rest entries : List (Option String × String),
      (∀ entry ∈ entries ++ rest, entry.1 ≠ some "xmlns") →
      ((entries ++ rest).map Prod.fst).Nodup →
      (tag.withDeclared entries).putAll (rest.map Attribute.Entry.declaring ++ behind) =
        (tag.withDeclared (entries ++ rest)).putAll behind
  | [], entries, _, _ => by rw [List.append_nil, List.map_nil, List.nil_append]
  | entry :: rest, entries, noXmlns, distinct => by
      have others : ∀ other ∈ entries, other.1 ≠ some "xmlns" ∧ other.1 ≠ entry.1 := by
        intro other among
        refine ⟨noXmlns other (by simp [among]), ?_⟩
        rw [List.map_append, List.nodup_append] at distinct
        exact distinct.2.2 _ (List.mem_map_of_mem among) _ (by simp)
      have step : (tag.withDeclared entries).put (some declarationNamespace)
          (declarationKey entry.1) entry.2 = (.ok (), tag.withDeclared (entries ++ [entry])) :=
        put_declaring lost (noXmlns entry (by simp)) others
      have whole : entries ++ entry :: rest = entries ++ [entry] ++ rest := by simp
      rw [whole] at noXmlns distinct ⊢
      rw [← putAll_declaring lost behind rest _ noXmlns distinct]
      simp only [List.map_cons, List.cons_append, putAll, Attribute.Entry.declaring, step]

/-! ## Plain attributes -/

/-- An attribute that is in the namespace of its qualifier, by the key it has its
place under and by the name it goes by. -/
structure Resolution.Places (resolution : Resolution) (attr : Attribute) : Prop where
  byKey : attr.namespaceUri = resolution.attributeNamespace attr.key
  keyLocal : attr.localName = (Text.splitColon attr.key).2
  keyPlain : isDeclarationName attr.key = false
  keyKnown : attr.key ∈ resolution.attributes.map Prod.fst
  byName : attr.namespaceUri = resolution.attributeNamespace attr.name
  qualifier : attr.qualifier = (Text.splitColon attr.name).1
  namePlain : isDeclarationName attr.name = false
  known : attr.name ∈ resolution.attributes.map Prod.fst

/-- A tag with the declarations of an element and, behind them, attributes in the
namespaces of their qualifiers. -/
structure Resolution.Spells (resolution : Resolution) (tag : Tag) : Prop where
  lost : tag.lost = []
  attributes : ∃ plain, tag.attributes =
      resolution.declaredInOrder.map Attribute.declaring ++ plain ∧
    ∀ attr ∈ plain, resolution.Places attr

/-- Nothing that is not a declaration may be in the namespace of declarations. -/
def Resolution.Apart (resolution : Resolution) : Prop :=
  ∀ key, resolution.attributeNamespace key ≠ some declarationNamespace

/-- A member of a list after a change is one from before, or a changed one. -/
theorem Tag.mem_changeIn {namespaceUri : Option String} {localName : String}
    {edit : Attribute → Attribute} {attr : Attribute} :
    ∀ {attributes : List Attribute},
      attr ∈ changeIn namespaceUri localName edit attributes →
      attr ∈ attributes ∨
        ∃ old ∈ attributes, old.isAt namespaceUri localName ∧ attr = edit old
  | [], among => .inl among
  | first :: rest, among => by
      unfold changeIn at among
      split at among
      · rename_i here
        rcases List.mem_cons.mp among with rfl | among
        · exact .inr ⟨first, by simp, here, rfl⟩
        · exact .inl (by simp [among])
      · rcases List.mem_cons.mp among with rfl | among
        · exact .inl (by simp)
        · rcases mem_changeIn among with old | ⟨old, member, here, rfl⟩
          · exact .inl (by simp [old])
          · exact .inr ⟨old, by simp [member], here, rfl⟩

/-- What is not at the place of a change stays as it is. -/
theorem Tag.changeIn_append {namespaceUri : Option String} {localName : String}
    {edit : Attribute → Attribute} {front back : List Attribute}
    (elsewhere : ∀ attr ∈ front, attr.isAt namespaceUri localName = false) :
    changeIn namespaceUri localName edit (front ++ back) =
      front ++ changeIn namespaceUri localName edit back := by
  induction front with
  | nil => rfl
  | cons attr rest ih =>
      simp only [List.cons_append, changeIn, elsewhere attr (by simp)]
      rw [ih fun other among => elsewhere other (by simp [among])]
      simp

namespace Resolution

variable {resolution : Resolution}

theorem Places.valued {attr : Attribute} (places : resolution.Places attr) (value : String) :
    resolution.Places { attr with value } :=
  { places with }

/-- Setting an attribute by another key of its place leaves it in the namespace of
its qualifier. -/
theorem Places.renamed {attr : Attribute} {key : String} (places : resolution.Places attr)
    (known : key ∈ resolution.attributes.map Prod.fst) (other : isDeclarationName key = false)
    (here : attr.isAt (resolution.attributeNamespace key) (Text.splitColon key).2) :
    resolution.Places (attr.renamed (Text.splitColon key).1) := by
  simp only [Attribute.isAt, Bool.and_eq_true, beq_iff_eq] at here
  unfold Attribute.renamed
  split
  · exact places
  · have name : Text.joinColon (Text.splitColon key).1 attr.localName = key := by
      rw [here.2]
      exact Text.joinColon_splitColon key
    rw [name]
    exact { places with
      byName := here.1
      qualifier := rfl
      namePlain := other
      known }

/-- What is set by its key in the namespace of its qualifier spells that
qualifier. -/
theorem places_ofName {key : String} (known : key ∈ resolution.attributes.map Prod.fst)
    (other : isDeclarationName key = false) (value : String) :
    resolution.Places (.ofName (resolution.attributeNamespace key) key value) where
  byKey := rfl
  keyLocal := rfl
  keyPlain := other
  keyKnown := known
  byName := rfl
  qualifier := rfl
  namePlain := other
  known

/-- Setting a plain attribute succeeds, and takes no other one its place. -/
theorem Spells.put (apart : resolution.Apart) {tag : Tag} (spells : resolution.Spells tag)
    {key : String} (known : key ∈ resolution.attributes.map Prod.fst)
    (other : isDeclarationName key = false) (value : String) :
    ∃ after, tag.put (resolution.attributeNamespace key) key value = (.ok (), after) ∧
      resolution.Spells after := by
  obtain ⟨attributes, whole, places⟩ := spells.attributes
  have elsewhere : ∀ attr ∈ resolution.declaredInOrder.map Attribute.declaring,
      attr.isAt (resolution.attributeNamespace key) (Text.splitColon key).2 = false := by
    intro attr among
    obtain ⟨entry, -, rfl⟩ := List.mem_map.mp among
    have differ := (apart key).symm
    simp [Attribute.isAt, Attribute.declaring, Attribute.ofName, differ]
  cases found : tag.find? (resolution.attributeNamespace key) (Text.splitColon key).2 with
  | some old =>
      have accepted : ((Text.splitColon key).1 == some "xmlns") = false := by
        simpa using splitColon_ne_xmlns other
      refine ⟨_, by simp only [Tag.put, found, accepted, Bool.and_false, Bool.false_and]; rfl, ?_⟩
      refine { lost := by simp [Tag.change, spells.lost, Tag.changeIn], attributes := ?_ }
      refine ⟨_, by simp only [Tag.change, whole, Tag.changeIn_append elsewhere]; rfl,
        fun attr among => ?_⟩
      have valued : ∀ attr ∈ Tag.changeIn (resolution.attributeNamespace key)
          (Text.splitColon key).2 ({ · with value }) attributes, resolution.Places attr := by
        intro attr among
        rcases Tag.mem_changeIn among with old | ⟨old, member, -, rfl⟩
        · exact places attr old
        · exact (places old member).valued value
      rcases Tag.mem_changeIn among with old | ⟨old, member, here, rfl⟩
      · exact valued attr old
      · exact (valued old member).renamed known other here
  | none =>
      have differ : ∀ attr ∈ tag.attributes, attr.key ≠ key := by
        intro attr among same
        rw [whole] at among
        rcases List.mem_append.mp among with declared | plainOne
        · obtain ⟨entry, -, rfl⟩ := List.mem_map.mp declared
          rw [← same, Attribute.declaring, Attribute.ofName] at other
          exact absurd other (by simp [isDeclarationName_declarationKey])
        · have here : attr.isAt (resolution.attributeNamespace key) (Text.splitColon key).2 := by
            simp [Attribute.isAt, (places attr plainOne).byKey, (places attr plainOne).keyLocal,
              same]
          rw [Tag.find?, List.find?_eq_none] at found
          exact found attr (by simp [whole, plainOne]) here
      have room : tag.makeRoom key = .ok tag := by
        have none : tag.attributes.find? (·.key == key) = none := by
          rw [List.find?_eq_none]
          intro attr among
          simpa using differ attr among
        simp only [Tag.makeRoom, none]
      refine ⟨_, by simp only [Tag.put, found, room]; rfl, ?_⟩
      let new := Attribute.ofName (resolution.attributeNamespace key) key value
      refine { lost := spells.lost, attributes := ⟨attributes ++ [new], ?_, fun attr among => ?_⟩ }
      · rw [← List.append_assoc, ← whole]
        exact Tag.append_of_forall_ne differ
      · rcases List.mem_append.mp among with old | new
        · exact places attr old
        · rw [List.mem_singleton.mp new]
          exact places_ofName known other value

theorem Spells.putAll (apart : resolution.Apart) :
    ∀ {entries : List (String × String)} {tag : Tag}, resolution.Spells tag →
      (∀ entry ∈ entries, entry.1 ∈ resolution.attributes.map Prod.fst ∧
        isDeclarationName entry.1 = false) →
      ∃ after, tag.putAll (entries.map fun (key, text) =>
          { namespaceUri := resolution.attributeNamespace key, name := key, value := text }) =
          (.ok (), after) ∧
        resolution.Spells after
  | [], tag, spells, _ => ⟨tag, rfl, spells⟩
  | (key, text) :: rest, tag, spells, all => by
      obtain ⟨known, other⟩ := all (key, text) (by simp)
      obtain ⟨next, put, spelled⟩ := spells.put apart known other text
      obtain ⟨after, later, spelledAll⟩ := Spells.putAll apart spelled
        fun entry among => all entry (List.mem_cons_of_mem _ among)
      refine ⟨after, ?_, spelledAll⟩
      simp only [List.map_cons, Tag.putAll, put]
      exact later

end Resolution

/-! ## The tag of a resolution -/

/-- A tag without its attributes. -/
def Tag.bare (tag : Tag) : Tag := { tag with attributes := [], lost := [] }

theorem Tag.bare_makeRoom {tag after : Tag} {key : String} (room : tag.makeRoom key = .ok after) :
    after.bare = tag.bare := by
  unfold makeRoom at room
  split at room
  · cases room
    rfl
  · split at room
    · cases room
    · cases room
      rfl

/-- Setting an attribute changes nothing else in the tag. -/
theorem Tag.bare_put (tag : Tag) (namespaceUri : Option String) (name value : String) :
    (tag.put namespaceUri name value).2.bare = tag.bare := by
  unfold put
  dsimp only
  split
  · split <;> rfl
  · split
    · rfl
    · rename_i after room
      exact (rfl : _ = after.bare).trans (bare_makeRoom room)

theorem Tag.bare_putAll : ∀ (entries : List Attribute.Entry) (tag : Tag),
    (tag.putAll entries).2.bare = tag.bare
  | [], _ => rfl
  | entry :: rest, tag => by
      have step := bare_put tag entry.namespaceUri entry.name entry.value
      unfold putAll
      split
      · rename_i next put
        rw [put] at step
        exact (bare_putAll rest next).trans step
      · rename_i cause next put
        rw [put] at step
        exact step

/-- The tag of an element with its declarations and attributes, and whether they
could all be set. -/
def Resolution.tag (resolution : Resolution) : Except AttributeError Unit × Tag :=
  (Tag.ofName resolution.name resolution.elementNamespace).putAll
    (resolution.declaredInOrder.map Attribute.Entry.declaring ++ resolution.setting)

theorem Resolution.bare_tag (resolution : Resolution) :
    resolution.tag.2.bare = Tag.ofName resolution.name resolution.elementNamespace :=
  Tag.bare_putAll _ _

/-- An element whose name and keys are plain, and that declares neither the
qualifier nor the namespace of declarations. -/
structure Resolution.Plain (resolution : Resolution) : Prop where
  name : PlainName resolution.name
  keys : ∀ entry ∈ resolution.attributes, PlainName entry.1
  declared : ∀ entry ∈ resolution.declarations,
    entry.1 ≠ some "xmlns" ∧ entry.2 ≠ declarationNamespace

instance (resolution : Resolution) : Decidable resolution.Plain :=
  decidable_of_iff
    (PlainName resolution.name ∧ (∀ entry ∈ resolution.attributes, PlainName entry.1) ∧
      ∀ entry ∈ resolution.declarations,
        entry.1 ≠ some "xmlns" ∧ entry.2 ≠ declarationNamespace)
    ⟨fun ⟨name, keys, declared⟩ => ⟨name, keys, declared⟩,
      fun plain => ⟨plain.name, plain.keys, plain.declared⟩⟩

/-- What holds of every resolution that was found. -/
structure Resolution.Sorted (resolution : Resolution) : Prop where
  distinct : (resolution.declarations.map Prod.fst).Nodup
  plain : ∀ entry ∈ resolution.attributes, declaredQualifier? entry.1 = none
  noXml : ∀ entry ∈ resolution.declarations, entry.1 ≠ xmlQualifier

/-- Setting the declarations and the attributes of an element succeeds. -/
theorem Resolution.spells_tag {resolution : Resolution} (plain : resolution.Plain)
    (sorted : resolution.Sorted) (apart : resolution.Apart) :
    ∃ tag, resolution.tag = (.ok (), tag) ∧ resolution.Spells tag := by
  let bare := Tag.ofName resolution.name resolution.elementNamespace
  have perm : resolution.declaredInOrder.Perm resolution.declarations :=
    Text.perm_sortByText _ _
  have declares : bare.putAll (resolution.declaredInOrder.map Attribute.Entry.declaring ++
      resolution.setting) =
      (bare.withDeclared resolution.declaredInOrder).putAll resolution.setting :=
    Tag.putAll_declaring (rfl : bare.lost = []) resolution.setting resolution.declaredInOrder []
      (fun entry among => (plain.declared entry (perm.mem_iff.mp among)).1)
      ((perm.map Prod.fst).nodup_iff.mpr sorted.distinct)
  have spells : resolution.Spells (bare.withDeclared resolution.declaredInOrder) :=
    { lost := rfl
      attributes := ⟨[], (List.append_nil _).symm, fun _ none => absurd none List.not_mem_nil⟩ }
  have others : ∀ entry ∈ Text.sortByText Prod.fst resolution.attributes,
      entry.1 ∈ resolution.attributes.map Prod.fst ∧ isDeclarationName entry.1 = false := by
    intro entry among
    have member := Text.mem_sortByText.mp among
    exact ⟨List.mem_map_of_mem member,
      (plain.keys entry member).isDeclarationName_eq_false (sorted.plain entry member)⟩
  obtain ⟨tag, put, spelled⟩ := spells.putAll apart others
  exact ⟨tag, declares.trans put, spelled⟩

end MarkupSpec
