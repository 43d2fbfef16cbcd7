import MarkupSpec.Forest.Attributes

/-!
# Namespaces in scope

An element says something about a declaration key, `xmlns` or `xmlns:` with a
qualifier, by an attribute of that name, or failing that by its own namespace
under its own qualifier.  What is in scope at a node is what the nearest element
says, going up from the node itself.

`Forest.scope` lists everything that is said, nearest first, so that looking up
a key gives the nearest.  `Forest.declarations` keeps the first entry of each
key, and looking up a key there gives the same (`lookup_declarations`).
-/

namespace MarkupSpec

/-- The name of the attribute that declares a qualifier, or the default. -/
def declarationKey : Option String → String
  | none => "xmlns"
  | some qualifier => "xmlns:" ++ qualifier

/-- What declares the namespace of a qualifier, or the default. -/
def Attribute.Entry.declaring (entry : Option String × String) : Attribute.Entry :=
  { namespaceUri := some declarationNamespace, name := declarationKey entry.1, value := entry.2 }

/-- Does an attribute of this name declare a namespace? -/
def isDeclarationName (name : String) : Bool :=
  name == "xmlns" || "xmlns:".toList.isPrefixOf name.toList

/-- The key under which an element brings its own namespace into scope. -/
def Tag.ownKey (tag : Tag) : String :=
  declarationKey (tag.qualifier.filter (· != ""))

/-- The declarations among the attributes of an element. -/
def Tag.declared (tag : Tag) : List (String × String) :=
  (tag.attributes.filter fun attr => isDeclarationName attr.name).map fun attr =>
    (attr.name, attr.value)

/-- The namespace of an element itself, unless it is none or empty. -/
def Tag.own (tag : Tag) : List (String × String) :=
  match tag.namespaceUri with
  | some uri => if uri = "" then [] else [(tag.ownKey, uri)]
  | none => []

/-- All that one element says, its attributes before its own namespace. -/
def Tag.stated (tag : Tag) : List (String × String) := tag.declared ++ tag.own

namespace Forest

/-- All that the node itself says. -/
def statedAt (forest : Forest) (id : NodeId) : List (String × String) :=
  match forest.content? id with
  | some (.element tag) => tag.stated
  | _ => []

/-- All that is said at a node and above it, nearest first. -/
def scope (forest : Forest) (id : NodeId) : List (String × String) :=
  (forest.lineage id).flatMap forest.statedAt

end Forest

/-- The first entry of each key. -/
def firstOfEach : List (String × String) → List (String × String)
  | [] => []
  | entry :: rest => entry :: (firstOfEach rest).filter (·.1 != entry.1)
termination_by structural entries => entries

/-- What a key stands for is there with that key. -/
theorem mem_of_lookup {κ ν : Type} [BEq κ] [LawfulBEq κ] {key : κ} {value : ν}
    {entries : List (κ × ν)} (found : entries.lookup key = some value) :
    (key, value) ∈ entries := by
  obtain ⟨front, back, rfl, -⟩ := List.lookup_eq_some_iff.mp found
  exact List.mem_append_right front List.mem_cons_self

theorem lookup_filter_ne {κ ν : Type} [BEq κ] [LawfulBEq κ] {key other : κ}
    (differ : key ≠ other) (entries : List (κ × ν)) :
    (entries.filter (·.1 != other)).lookup key = entries.lookup key := by
  induction entries with
  | nil => rfl
  | cons entry rest ih =>
      obtain ⟨first, value⟩ := entry
      by_cases gone : first = other
      · have apart : (key == other) = false := by simp [differ]
        simp [gone, ih, List.lookup_cons, apart]
      · simp [gone, ih, List.lookup_cons]

/-- Keeping the first entry of each key changes no answer. -/
theorem lookup_firstOfEach (key : String) (entries : List (String × String)) :
    (firstOfEach entries).lookup key = entries.lookup key := by
  induction entries with
  | nil => rfl
  | cons entry rest ih =>
      obtain ⟨first, value⟩ := entry
      by_cases here : key = first
      · simp [firstOfEach, here]
      · have apart : (key == first) = false := by simp [here]
        simp [firstOfEach, List.lookup_cons, apart, lookup_filter_ne here, ih]

/-- The declarations in scope at a node, one for each key. -/
def Forest.declarations (forest : Forest) (id : NodeId) : List (String × String) :=
  firstOfEach (forest.scope id)

/-- A key has the meaning that the nearest element gives it. -/
theorem Forest.lookup_declarations (forest : Forest) (id : NodeId) (key : String) :
    (forest.declarations id).lookup key = (forest.scope id).lookup key :=
  lookup_firstOfEach key _

end MarkupSpec
