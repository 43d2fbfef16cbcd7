import MarkupSpec.Forest.Attributes

/-!
# Edits of a forest

An edit is a step that may fail, and that keeps what it did before it failed.
The edits here are creation, attachment and detachment.

Whatever is attached is first checked against what the parent may hold and then
taken out of its old place; only then the new place is looked for.  So an edit
that fails late leaves its node detached.  A fragment is attached child by
child, and those that were moved stay moved when a later one fails.

Detaching closes the gap between the neighbours, except under a document: there
the neighbours keep pointing at the node that left (`release`).  The edit
`remove` closes the gap under a document too.

A document refuses a second element when it is appended, but not when it is
inserted or put in the place of another node.
-/

namespace MarkupSpec

/-- Why an edit fails. -/
inductive EditError where
  /-- The number names no node, or one that has no such operation. -/
  | noSuchOperation
  /-- The parent holds no nodes of this kind. -/
  | cannotBeChild (child parent : NodeId)
  /-- The node is of a kind that has no children. -/
  | cannotHaveChildren (name : String)
  /-- The node has no children, and no name to say so by. -/
  | nameless
  /-- The document has an element already. -/
  | secondElement
  /-- The node to be beside is not a child of the parent. -/
  | notAChild
  /-- Documents are not copied. -/
  | documentNotCopied
  /-- Doctypes are not copied. -/
  | doctypeNotCopied
  /-- An attribute cannot be set. -/
  | badAttribute (cause : AttributeError)
deriving DecidableEq, Repr

/-- A step on a forest that may fail and keeps what it did before. -/
abbrev Edit (α : Type) := EStateM EditError Forest α

namespace Edit

/-- The node of a number, which must exist. -/
def look (id : NodeId) : Edit Node := do
  match (← get).node? id with
  | some node => pure node
  | none => throw .noSuchOperation

/-- Change one node. -/
def change (id : NodeId) (step : Node → Node) : Edit Unit :=
  modify (·.update id step)

/-! ## Creation -/

/-- Add a node and give its number. -/
def add (node : Node) : Edit NodeId := do
  let id := (← get).size
  modify (·.add node)
  pure id

/-- Add an empty document. -/
def createDocument (version : Value) : Edit NodeId :=
  add { content := .document version none, owner := none }

/-- Fail unless the number names a document. -/
def checkDocument (document : NodeId) : Edit Unit := do
  if (← look document).content.isDocument then pure () else throw .noSuchOperation

/-- Fail unless the number names an element. -/
def checkElement (element : NodeId) : Edit Unit := do
  if (← look element).content.isElement then pure () else throw .noSuchOperation

/-- Add a node that belongs to a document.  Only documents make nodes. -/
def create (document : NodeId) (content : Content) : Edit NodeId := do
  checkDocument document
  add { content, owner := some document }

/-- Add an element without attributes. -/
def createElement (document : NodeId) (name : String) (namespaceUri : Option String) :
    Edit NodeId :=
  create document (.element (.ofName name namespaceUri))

/-- Set an attribute of an element. -/
def setAttribute (element : NodeId) (namespaceUri : Option String) (name value : String) :
    Edit Unit := do
  match (← look element).content with
  | .element tag =>
      let (outcome, tag) := tag.put namespaceUri name value
      change element ({ · with content := .element tag })
      match outcome with
      | .ok () => pure ()
      | .error cause => throw (.badAttribute cause)
  | _ => throw .noSuchOperation

/-- Set attributes of an element in order. -/
def setAll (element : NodeId) : List Attribute.Entry → Edit Unit
  | [] => pure ()
  | entry :: rest => do
      setAttribute element entry.namespaceUri entry.name entry.value
      setAll element rest
termination_by structural entries => entries

/-! ## Links -/

/-- Put a node before another one in a list. -/
def placeBefore (new mark : NodeId) : List NodeId → List NodeId
  | [] => []
  | id :: rest => if id = mark then new :: id :: rest else id :: placeBefore new mark rest
termination_by structural ids => ids

/-- Put a node in the place of another one in a list. -/
def placeInstead (new mark : NodeId) : List NodeId → List NodeId
  | [] => []
  | id :: rest => if id = mark then new :: rest else id :: placeInstead new mark rest
termination_by structural ids => ids

/-- The node in front of another one in a list. -/
def inFrontOf? (mark : NodeId) : List NodeId → Option NodeId
  | first :: second :: rest =>
      if first = mark then none
      else if second = mark then some first
      else inFrontOf? mark (second :: rest)
  | _ => none
termination_by structural ids => ids

/-- Set the link of a node to the one after it. -/
def setNext (id : NodeId) (next : Option NodeId) : Edit Unit := change id ({ · with next })

/-- Set the link of a node to the one before it. -/
def setPrevious (id : NodeId) (previous : Option NodeId) : Edit Unit :=
  change id ({ · with previous })

/-- Do something to a node if there is one. -/
def onSome (id : Option NodeId) (step : NodeId → Edit Unit) : Edit Unit :=
  match id with
  | some id => step id
  | none => pure ()

/-- Link the neighbours of a node to each other. -/
def closeGap (id : NodeId) : Edit Unit := do
  let node ← look id
  onSome node.next (setPrevious · node.previous)
  onSome node.previous (setNext · node.next)

/-- Take a node out of the list of its parent and cut its own links. -/
def unlink (parent child : NodeId) : Edit Unit := do
  change parent fun node => { node with children := node.children.erase child }
  change child ({ · with parent := none, next := none, previous := none })

/-- A node that should have children has none and says so. -/
def refuseChildren (content : Content) : Edit Unit :=
  match content.name? with
  | some name => throw (.cannotHaveChildren name)
  | none => throw .nameless

/-- Take a child out of a parent and close the gap. -/
def removeClosing (parent child : NodeId) : Edit Unit := do
  if child ∈ (← look parent).children then
    closeGap child
    unlink parent child
  else throw .notAChild

/-- Take a child out of a parent the way the parent does it: a document leaves
the links of the neighbours as they are. -/
def release (parent child : NodeId) : Edit Unit := do
  let node ← look parent
  if node.content.isDocument then
    if child ∈ node.children then unlink parent child else throw .notAChild
  else removeClosing parent child

/-- Take a node out of its old place, if it has one. -/
def detach (child : NodeId) : Edit Unit := do
  onSome (← look child).parent (release · child)

/-- Check that the parent may hold the child. -/
def checkKind (parent child : NodeId) : Edit Unit := do
  let above ← look parent
  let below ← look child
  if above.content.holds below.content then pure () else throw (.cannotBeChild child parent)

/-! ## Attachment -/

/-- Link a node that has no place behind the last child. -/
def linkLast (parent child : NodeId) : Edit Unit := do
  onSome (← look parent).children.getLast? fun last => do
    setPrevious child (some last)
    setNext last (some child)
  change parent fun node => { node with children := node.children ++ [child] }
  change child ({ · with parent := some parent, next := none })

/-- A document that has an element takes no other one behind it. -/
def checkRoot (parent child : NodeId) : Edit Unit := do
  let forest ← get
  if forest.isA Content.isDocument parent && forest.isA Content.isElement child &&
      (forest.rootElement? parent).isSome then
    throw .secondElement
  else pure ()

/-- Append one node. -/
def appendOne (parent child : NodeId) : Edit Unit := do
  checkKind parent child
  detach child
  checkRoot parent child
  linkLast parent child

/-- Append a node, or the children of a fragment. -/
def appendChild (parent child : NodeId) : Edit Unit := do
  let above ← look parent
  if !above.content.isParent then refuseChildren above.content
  else
    let below ← look child
    if below.content.isFragment && !above.content.isDocument then
      below.children.forM (appendOne parent)
    else appendOne parent child

/-- Link a node that has no place in front of a child. -/
def linkBefore (parent child mark : NodeId) : Edit Unit := do
  let children := (← look parent).children
  change parent ({ · with children := placeBefore child mark children })
  setNext child (some mark)
  setPrevious mark (some child)
  let before := inFrontOf? mark children
  onSome before (setNext · (some child))
  setPrevious child before
  change child ({ · with parent := some parent })

/-- Insert one node in front of a child, or at the end. -/
def insertOne (parent child : NodeId) (mark : Option NodeId) : Edit Unit := do
  checkKind parent child
  detach child
  match mark with
  | none => appendChild parent child
  | some mark =>
      if mark ∈ (← look parent).children then linkBefore parent child mark
      else throw .notAChild

/-- Insert a node, or the children of a fragment, in front of a child, or at the
end. -/
def insertBefore (parent child : NodeId) (mark : Option NodeId) : Edit Unit := do
  let below ← look child
  if below.content.isFragment then below.children.forM (insertOne parent · mark)
  else insertOne parent child mark

/-- Give a node the place and the links of a child, which loses them.  Each new
neighbour is read when its turn comes: links that are wrong may lead to the node
itself. -/
def linkInstead (parent new old : NodeId) : Edit Unit := do
  let gone ← look old
  change parent fun node => { node with children := placeInstead new old node.children }
  change new ({ · with parent := some parent, next := gone.next, previous := gone.previous })
  change old ({ · with parent := none, next := none, previous := none })
  onSome (← look new).previous (setNext · (some new))
  onSome (← look new).next (setPrevious · (some new))

/-- Put one node in the place of a child. -/
def replaceOne (parent new old : NodeId) : Edit Unit := do
  checkKind parent new
  if new = old then pure ()
  else
    detach new
    if old ∈ (← look parent).children then linkInstead parent new old
    else throw .notAChild

/-- Put a node, or the children of a fragment, in the place of a child. -/
def replaceChild (parent new old : NodeId) : Edit Unit := do
  if (← look new).content.isFragment then
    let mark := (← look old).next
    release parent old
    insertBefore parent new mark
  else replaceOne parent new old

/-! ## Edits beside a node -/

/-- The parent of a node, which must have one. -/
def parentOf (id : NodeId) : Edit NodeId := do
  match (← look id).parent with
  | some parent => pure parent
  | none => throw .noSuchOperation

/-- Insert a node before a sibling. -/
def insertBeforeSibling (node sibling : NodeId) : Edit Unit := do
  insertBefore (← parentOf sibling) node (some sibling)

/-- Insert a node after a sibling, that is before the node that the sibling
points at. -/
def insertAfterSibling (node sibling : NodeId) : Edit Unit := do
  insertBefore (← parentOf sibling) node (← look sibling).next

/-- Detach a node and close the gap, also under a document.  A document forgets
its doctype with it. -/
def remove (node : NodeId) : Edit Unit := do
  let parent ← parentOf node
  removeClosing parent node
  change parent fun above =>
    match above.content with
    | .document version doctype =>
        if doctype = some node then { above with content := .document version none } else above
    | _ => above

/-- The node without the doctype that it remembers, if it is a document and remembers this one. -/
def forgetting (doctype : NodeId) (node : Node) : Node :=
  match node.content with
  | .document version remembered =>
      if remembered = some doctype then { node with content := .document version none } else node
  | _ => node

/-- Once the gap is closed the parent forgets the node. -/
theorem remove_eq (node : NodeId) :
    remove node =
      (do
        let parent ← parentOf node
        removeClosing parent node
        change parent (forgetting node)) := rfl

section Forgetting

variable (doctype : NodeId) (node : Node)

/-- Nothing but the content changes. -/
theorem forgetting_eq :
    forgetting doctype node = { node with content := (forgetting doctype node).content } := by
  unfold forgetting
  split
  · split <;> rfl
  · rfl

@[simp]
theorem forgetting_owner : (forgetting doctype node).owner = node.owner := by
  rw [forgetting_eq]

@[simp]
theorem forgetting_parent : (forgetting doctype node).parent = node.parent := by
  rw [forgetting_eq]

@[simp]
theorem forgetting_children : (forgetting doctype node).children = node.children := by
  rw [forgetting_eq]

/-- Only documents forget. -/
theorem forgetting_of_isDocument (noDocument : node.content.isDocument = false) :
    forgetting doctype node = node := by
  unfold forgetting
  split
  · rename_i isDocument
    rw [isDocument] at noDocument
    cases noDocument
  · rfl

variable {doctype node}

/-- What is remembered still was remembered before. -/
theorem content_of_forgetting {version : Value} {kept : NodeId}
    (remembers : (forgetting doctype node).content = .document version (some kept)) :
    node.content = .document version (some kept) := by
  unfold forgetting at remembers
  split at remembers
  · split at remembers
    · cases remembers
    · exact remembers
  · exact remembers

end Forgetting

/-- Insert nodes one after the other, each behind the one before it. -/
def insertChain : NodeId → List NodeId → Edit Unit
  | _, [] => pure ()
  | previous, node :: rest => do
      insertAfterSibling node previous
      insertChain node rest
termination_by structural _ nodes => nodes

/-- Put a node, or the children of a fragment, in the place of a sibling.  An
empty fragment just removes it. -/
def replaceSibling (sibling node : NodeId) : Edit Unit := do
  let below ← look node
  if below.content.isFragment then
    match below.children with
    | [] => remove sibling
    | first :: rest =>
        replaceChild (← parentOf sibling) first sibling
        insertChain first rest
  else replaceChild (← parentOf sibling) node sibling

/-- The element of a document, which must be a document. -/
def rootOf (document : NodeId) : Edit (Option NodeId) := do
  checkDocument document
  pure ((← get).rootElement? document)

/-- Make an element the element of a document, in the place of the old one. -/
def setRoot (document element : NodeId) : Edit Unit := do
  match ← rootOf document with
  | none => appendChild document element
  | some old => if old = element then pure () else replaceChild document element old

/-! ## Doctypes -/

/-- A new doctype that is not yet in its document.  Its name is the local part of
the name asked for, if that is there and not empty. -/
def createDoctype (document : NodeId) (name publicId systemId : Option String) : Edit NodeId :=
  let shown := (name.filter (· != "")).map fun name => (Text.splitColon name).2
  create document (.doctype shown publicId systemId)

/-- The doctype that a document remembers and still has. -/
def currentDoctype? (forest : Forest) (document : NodeId) : Option NodeId :=
  (forest.doctype? document).filter fun doctype => forest.parent? doctype == some document

/-- The node with the doctype that it remembers, if it is a document. -/
def remembering (doctype : NodeId) (node : Node) : Node :=
  match node.content with
  | .document version _ => { node with content := .document version (some doctype) }
  | _ => node

section Remembering

variable (doctype : NodeId) (node : Node)

/-- Nothing but the content changes. -/
theorem remembering_eq :
    remembering doctype node = { node with content := (remembering doctype node).content } := by
  unfold remembering
  split <;> rfl

@[simp]
theorem remembering_owner : (remembering doctype node).owner = node.owner := by
  rw [remembering_eq]

@[simp]
theorem remembering_parent : (remembering doctype node).parent = node.parent := by
  rw [remembering_eq]

@[simp]
theorem remembering_children : (remembering doctype node).children = node.children := by
  rw [remembering_eq]

theorem remembering_content {version : Value} {old : Option NodeId}
    (isDocument : node.content = .document version old) :
    (remembering doctype node).content = .document version (some doctype) := by
  unfold remembering
  rw [isDocument]

end Remembering

/-- Give a doctype its place in its document: the place of the one before, else
before the element, else at the end.  The document remembers it. -/
def placeDoctype (document doctype : NodeId) : Edit Unit := do
  let forest ← get
  match currentDoctype? forest document with
  | some old => replaceChild document doctype old
  | none =>
      match forest.rootElement? document with
      | some element => insertBefore document doctype (some element)
      | none => appendChild document doctype
  change document (remembering doctype)

end Edit

end MarkupSpec
