import MarkupSpec.Forest.Basic

/-!
# Attributes

An element finds an attribute by namespace and local name.  Setting one that is
there gives it the value and, if the qualifier is another, the new name; its
place and its key stay.  Setting one that is not there appends it under its
name as key, after the attribute that had this key is taken out.

That last step finds the old attribute by the name it goes by now.  If it was
renamed, the name may be the key of a third attribute.  Then the third one loses
its place, and the new one takes that of the old one.  The third one is lost: it
is still found, and so a later setting changes it and nothing that shows.  If the
name is the key of none, the step fails.

`value_put_of_find?` says that an attribute that is found takes its new value.
-/

namespace MarkupSpec

/-- The namespace of declarations. -/
def declarationNamespace : String := "http://www.w3.org/2000/xmlns/"

/-- The namespace that the qualifier `xml` stands for. -/
def xmlNamespace : String := "http://www.w3.org/XML/1998/namespace"

/-- Why an attribute cannot be set. -/
inductive AttributeError where
  /-- The qualifier of declarations in another namespace. -/
  | reservedQualifier
  /-- The attribute that has to make room goes by a name that is no key. -/
  | unkeyed
deriving DecidableEq, Repr

namespace Attribute

/-- What an attribute is set by. -/
structure Entry where
  namespaceUri : Option String
  name : String
  value : String
deriving DecidableEq, Repr

/-- What the attribute could be set by. -/
def entry (attr : Attribute) : Entry :=
  { namespaceUri := attr.namespaceUri, name := attr.name, value := attr.value }

/-- A new attribute, under its name as key. -/
def ofName (namespaceUri : Option String) (name value : String) : Attribute :=
  let (qualifier, localName) := Text.splitColon name
  { key := name, name, namespaceUri, qualifier, localName, value }

/-- Is this the attribute of a namespace and a local name? -/
def isAt (namespaceUri : Option String) (localName : String) (attr : Attribute) : Bool :=
  attr.namespaceUri == namespaceUri && attr.localName == localName

/-- The attribute under a new qualifier. -/
def renamed (attr : Attribute) (qualifier : Option String) : Attribute :=
  if attr.qualifier = qualifier then attr
  else
    { attr with
      qualifier
      name := Text.joinColon qualifier attr.localName }

end Attribute

namespace Tag

/-- The attribute of a namespace and a local name, be it a lost one. -/
def find? (tag : Tag) (namespaceUri : Option String) (localName : String) : Option Attribute :=
  (tag.attributes ++ tag.lost).find? (Attribute.isAt namespaceUri localName)

/-- Change the attribute of a namespace and a local name in a list. -/
def changeIn (namespaceUri : Option String) (localName : String) (edit : Attribute → Attribute) :
    List Attribute → List Attribute
  | [] => []
  | attr :: rest =>
      if attr.isAt namespaceUri localName then edit attr :: rest
      else attr :: changeIn namespaceUri localName edit rest
termination_by structural attributes => attributes

/-- Change the attribute of a namespace and a local name, be it a lost one. -/
def change (tag : Tag) (namespaceUri : Option String) (localName : String)
    (edit : Attribute → Attribute) : Tag :=
  { tag with
    attributes := changeIn namespaceUri localName edit tag.attributes
    lost := changeIn namespaceUri localName edit tag.lost }

/-- Append an attribute, or put it in the place of the one with its key. -/
def append (new : Attribute) : List Attribute → List Attribute
  | [] => [new]
  | attr :: rest =>
      if attr.key = new.key then new :: rest else attr :: append new rest
termination_by structural attributes => attributes

/-- Make room for a new attribute: the one with its key goes, found by the name
it goes by.  A third one that has this name as its key is lost. -/
def makeRoom (tag : Tag) (key : String) : Except AttributeError Tag :=
  match tag.attributes.find? (·.key == key) with
  | none => .ok tag
  | some old =>
      match tag.attributes.find? (·.key == old.name) with
      | none => .error .unkeyed
      | some gone =>
          let attributes := tag.attributes.filter (·.key != old.name)
          let lost := if old.name = key then tag.lost else tag.lost ++ [gone]
          .ok { tag with attributes, lost }

/-- Set an attribute.  A value is set even where the new qualifier is refused. -/
def put (tag : Tag) (namespaceUri : Option String) (name value : String) :
    Except AttributeError Unit × Tag :=
  let (qualifier, localName) := Text.splitColon name
  match tag.find? namespaceUri localName with
  | some old =>
      let valued := tag.change namespaceUri localName ({ · with value })
      let refused := old.qualifier != qualifier && qualifier == some "xmlns" &&
        old.namespaceUri.any (fun uri => uri != "" && uri != declarationNamespace)
      if refused then (.error .reservedQualifier, valued)
      else (.ok (), valued.change namespaceUri localName (·.renamed qualifier))
  | none =>
      match tag.makeRoom name with
      | .error cause => (.error cause, tag)
      | .ok tag =>
          let new := Attribute.ofName namespaceUri name value
          (.ok (), { tag with attributes := append new tag.attributes })

/-- Set attributes in order, until one of them fails. -/
def putAll (tag : Tag) : List Attribute.Entry → Except AttributeError Unit × Tag
  | [] => (.ok (), tag)
  | entry :: rest =>
      match tag.put entry.namespaceUri entry.name entry.value with
      | (.ok (), tag) => tag.putAll rest
      | (.error cause, tag) => (.error cause, tag)
termination_by structural entries => entries

/-! ## What is found after a change -/

theorem find?_changeIn {namespaceUri : Option String} {localName : String}
    {edit : Attribute → Attribute}
    (keeps : ∀ attr, attr.isAt namespaceUri localName →
      (edit attr).isAt namespaceUri localName) (attributes : List Attribute) :
    (changeIn namespaceUri localName edit attributes).find?
        (Attribute.isAt namespaceUri localName) =
      (attributes.find? (Attribute.isAt namespaceUri localName)).map edit := by
  induction attributes with
  | nil => rfl
  | cons attr rest ih =>
      by_cases here : attr.isAt namespaceUri localName
      · simp [changeIn, here, keeps attr here]
      · simp [changeIn, here, ih]

/-- A change that keeps the namespace and the local name changes what is found. -/
theorem find?_change {namespaceUri : Option String} {localName : String}
    {edit : Attribute → Attribute}
    (keeps : ∀ attr, attr.isAt namespaceUri localName →
      (edit attr).isAt namespaceUri localName) (tag : Tag) :
    (tag.change namespaceUri localName edit).find? namespaceUri localName =
      (tag.find? namespaceUri localName).map edit := by
  simp only [find?, change, List.find?_append, find?_changeIn keeps, Option.map_or]

/-- An attribute that is found takes the value it is set to. -/
theorem value_put_of_find? {tag : Tag} {namespaceUri : Option String} {name value : String}
    {old : Attribute}
    (found : tag.find? namespaceUri (Text.splitColon name).2 = some old) :
    ((tag.put namespaceUri name value).2.find? namespaceUri (Text.splitColon name).2).map
        Attribute.value = some value := by
  have keepsValue (attr : Attribute) (here : attr.isAt namespaceUri (Text.splitColon name).2) :
      ({ attr with value } : Attribute).isAt namespaceUri (Text.splitColon name).2 := here
  have keepsName (attr : Attribute) (here : attr.isAt namespaceUri (Text.splitColon name).2) :
      (attr.renamed (Text.splitColon name).1).isAt namespaceUri (Text.splitColon name).2 := by
    unfold Attribute.renamed
    split
    · exact here
    · exact here
  unfold put
  simp only [found]
  split
  · rw [find?_change keepsValue, found]
    rfl
  · rw [find?_change keepsName, find?_change keepsValue, found]
    simp only [Option.map_some, Attribute.renamed]
    split <;> rfl

end Tag

end MarkupSpec
