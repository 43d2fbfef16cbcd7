import MarkupSpec.Forest.Edit

/-!
# Copies

A copy belongs to the document it is made for, whatever the node belonged to,
and has no place.  An element is made anew under its name and namespace, and its
attributes are set again in order, each under the name it goes by.  A deep copy
has copies of the children, each made and appended before the next.

Documents and doctypes are not copied.

The recursion is bounded by the number of nodes in the forest before the copy,
which is more than any chain of children without a cycle.
-/

namespace MarkupSpec.Edit

/-- Copy the members of a list and append each copy. -/
def copyInto (copy : NodeId → Edit NodeId) (parent : NodeId) : List NodeId → Edit Unit
  | [] => pure ()
  | child :: rest => do
      appendChild parent (← copy child)
      copyInto copy parent rest
termination_by structural children => children

/-- Copy a node for a document, with what is below it to the given depth. -/
def copyWithin (document : NodeId) (deep : Bool) : Nat → NodeId → Edit NodeId
  | 0, _ => throw .noSuchOperation
  | depth + 1, id => do
      let node ← look id
      let below (copy : NodeId) : Edit NodeId := do
        if deep then copyInto (copyWithin document deep depth) copy node.children
        pure copy
      match node.content with
      | .element tag =>
          let copy ← createElement document tag.name tag.namespaceUri
          setAll copy (tag.attributes.map Attribute.entry)
          below copy
      | .fragment => below (← create document .fragment)
      | .document .. => throw .documentNotCopied
      | .doctype .. => throw .doctypeNotCopied
      | content => create document content
termination_by structural depth => depth

/-- Copy a node for a document. -/
def copy (document : NodeId) (deep : Bool) (id : NodeId) : Edit NodeId := do
  checkDocument document
  copyWithin document deep ((← get).size + 1) id

end MarkupSpec.Edit
