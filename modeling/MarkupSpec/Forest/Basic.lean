import MarkupSpec.Text.Split
import MarkupSpec.Value.Basic

/-!
# Forests of nodes

A forest holds every node that was ever made, attached or not.  Nodes are known
by their number, in order of creation, and a number that no node has yet names
nothing.  Each node keeps its content, the document it was made for, and four
links: its parent, its children in order, and its neighbours to either side.

The links are stored, not computed, so that they can be wrong.  A node that was
moved away from a document leaves its neighbours pointing at it; who reads the
neighbour link sees that.  `Forest.rootElement?` and the other readings here
follow the child lists alone.
-/

namespace MarkupSpec

/-- An attribute of an element.  The key is the place it has in the element and
the name it is written out with.  The name is the one it was last set by, which
may differ from the key in its qualifier. -/
structure Attribute where
  key : String
  name : String
  namespaceUri : Option String
  qualifier : Option String
  localName : String
  value : String
deriving DecidableEq, Repr

/-- What an element has besides its children.  The attributes are in the order
they were first set.  The lost ones have no place in the element any more and
are not written out, but setting one of them still finds it. -/
structure Tag where
  name : String
  namespaceUri : Option String
  qualifier : Option String
  localName : String
  attributes : List Attribute := []
  lost : List Attribute := []
deriving DecidableEq, Repr

/-- A tag without attributes.  The name is split at its first colon. -/
def Tag.ofName (name : String) (namespaceUri : Option String) : Tag :=
  let (qualifier, localName) := Text.splitColon name
  { name, namespaceUri, qualifier, localName }

/-- What a node is, apart from its place.  A document keeps the version it was
made with, and remembers its doctype beside its children. -/
inductive Content where
  | document (version : Value) (doctype : Option NodeId)
  | fragment
  | element (tag : Tag)
  | text (data : String)
  | cdata (data : String)
  | comment (data : String)
  | instruction (target data : String)
  | doctype (name publicId systemId : Option String)
deriving Repr

namespace Content

/-- Is the node a document? -/
def isDocument : Content → Bool
  | .document .. => true
  | _ => false

/-- Is the node a fragment, a holder of nodes with no place of its own? -/
def isFragment : Content → Bool
  | .fragment => true
  | _ => false

/-- Is the node an element? -/
def isElement : Content → Bool
  | .element _ => true
  | _ => false

/-- Is the node a text? -/
def isText : Content → Bool
  | .text _ => true
  | _ => false

/-- Is the node a doctype? -/
def isDoctype : Content → Bool
  | .doctype .. => true
  | _ => false

/-- Documents, fragments and elements have children, and no others. -/
def isParent : Content → Bool
  | .document .. | .fragment | .element _ => true
  | _ => false

/-- May a node of the second kind be a child of one of the first?  Text and
cdata have no place right under a document, and a doctype only there. -/
def holds : Content → Content → Bool
  | .document .., .element _ | .document .., .instruction .. => true
  | .document .., .comment _ | .document .., .doctype .. => true
  | .fragment, child | .element _, child =>
      match child with
      | .element _ | .text _ | .cdata _ | .comment _ | .instruction .. => true
      | _ => false
  | _, _ => false

/-- The name a node goes by: its own, or the word for its kind. -/
def name? : Content → Option String
  | .document .. => some "#document"
  | .fragment => some "#document-fragment"
  | .element tag => some tag.name
  | .text _ => some "#text"
  | .cdata _ => some "#cdata-section"
  | .comment _ => some "#comment"
  | .instruction target _ => some target
  | .doctype name _ _ => name

end Content

/-- A node: its content, the document it was made for, and its links. -/
structure Node where
  content : Content
  owner : Option NodeId
  parent : Option NodeId := none
  children : List NodeId := []
  next : Option NodeId := none
  previous : Option NodeId := none
deriving Repr

/-- Every node there is, attached or not. -/
structure Forest where
  nodes : Array Node := #[]
deriving Repr, Inhabited

namespace Forest

/-- The number of nodes.  It is also the number of the next node. -/
def size (forest : Forest) : Nat := forest.nodes.size

/-- The node of a number. -/
def node? (forest : Forest) (id : NodeId) : Option Node := forest.nodes[id]?

/-- The forest with one more node. -/
def add (forest : Forest) (node : Node) : Forest := ⟨forest.nodes.push node⟩

/-- The forest with one node changed. -/
def update (forest : Forest) (id : NodeId) (change : Node → Node) : Forest :=
  ⟨forest.nodes.modify id change⟩

@[simp]
theorem node?_add (forest : Forest) (node : Node) (id : NodeId) :
    (forest.add node).node? id = if id = forest.size then some node else forest.node? id := by
  simp only [add, node?, size, Array.getElem?_push]
  rfl

@[simp]
theorem size_add (forest : Forest) (node : Node) : (forest.add node).size = forest.size + 1 := by
  simp [add, size]

@[simp]
theorem node?_update (forest : Forest) (changed : NodeId) (change : Node → Node) (id : NodeId) :
    (forest.update changed change).node? id =
      if changed = id then (forest.node? id).map change else forest.node? id := by
  simp [update, node?, Array.getElem?_modify]

@[simp]
theorem size_update (forest : Forest) (changed : NodeId) (change : Node → Node) :
    (forest.update changed change).size = forest.size := by
  simp [update, size]

/-- Exactly the numbers below the size name a node. -/
theorem node?_isSome_iff {forest : Forest} {id : NodeId} :
    (forest.node? id).isSome ↔ id < forest.size := by
  simp [node?, size]

/-! ## Readings -/

/-- What the node of a number is. -/
def content? (forest : Forest) (id : NodeId) : Option Content :=
  (forest.node? id).map Node.content

/-- The parent of a node. -/
def parent? (forest : Forest) (id : NodeId) : Option NodeId :=
  (forest.node? id).bind Node.parent

/-- The children of a node, none for a number that names nothing. -/
def children (forest : Forest) (id : NodeId) : List NodeId :=
  match forest.node? id with
  | some node => node.children
  | none => []

/-- Does the number name a node whose content passes the test? -/
def isA (forest : Forest) (test : Content → Bool) (id : NodeId) : Bool :=
  (forest.content? id).any test

/-- The first element among the children of a document. -/
def rootElement? (forest : Forest) (document : NodeId) : Option NodeId :=
  (forest.children document).find? (forest.isA Content.isElement)

/-- The doctype that a document remembers. -/
def doctype? (forest : Forest) (document : NodeId) : Option NodeId :=
  match forest.content? document with
  | some (.document _ doctype) => doctype
  | _ => none

/-- The document that a node belongs to: itself, or the one it was made for. -/
def documentOf? (forest : Forest) (id : NodeId) : Option NodeId :=
  match forest.node? id with
  | some node => if node.content.isDocument then some id else node.owner
  | none => none

/-- A node and the nodes above it, nearest first, for at most so many steps. -/
def lineageWithin (forest : Forest) : Nat → NodeId → List NodeId
  | 0, id => [id]
  | steps + 1, id =>
      match forest.parent? id with
      | some parent => id :: forest.lineageWithin steps parent
      | none => [id]
termination_by structural steps => steps

/-- A node and the nodes above it, nearest first.  A chain of parents without a
cycle is no longer than the forest. -/
def lineage (forest : Forest) (id : NodeId) : List NodeId :=
  forest.lineageWithin forest.size id

/-- The topmost node above a node. -/
def top (forest : Forest) (id : NodeId) : NodeId :=
  (forest.lineage id).getLastD id

end Forest

end MarkupSpec
