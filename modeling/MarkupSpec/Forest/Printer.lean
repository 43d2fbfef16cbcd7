import MarkupSpec.Forest.Basic
import MarkupSpec.Text.Quoted

/-!
# Writing nodes

Two texts of a node.  Its markup is what it is written out as, with everything
below it (`Forest.markup`).  Its description is the short text that stands for
it in messages (`Forest.describe`).

Markup is written without any space added.  In texts and attribute values the
four characters `&`, `<`, `"` and `>` are written as entities, and no others.  A
comment that holds two hyphens in a row, a cdata section that holds its own end
mark, and a doctype without a name cannot be written.
-/

namespace MarkupSpec

/-- Why a node cannot be written out. -/
inductive WriteError where
  /-- Two hyphens in a row in a comment. -/
  | hyphensInComment
  /-- The end mark of cdata in a cdata section. -/
  | endMarkInCdata
  /-- A doctype without a name. -/
  | namelessDoctype
  /-- The number names nothing, or the chain of children is a cycle. -/
  | nothingThere
deriving DecidableEq, Repr

namespace Markup

/-- One character of a text or an attribute value. -/
def escapeChar : Char → List Char
  | '&' => "&amp;".toList
  | '<' => "&lt;".toList
  | '\x22' => "&quot;".toList
  | '>' => "&gt;".toList
  | c => [c]

/-- A text or an attribute value. -/
def escape (text : String) : String := String.ofList (text.toList.flatMap escapeChar)

/-- Do the characters occur in a row? -/
def occurs (part : List Char) : List Char → Bool
  | [] => part.isEmpty
  | c :: rest => part.isPrefixOf (c :: rest) || occurs part rest
termination_by structural chars => chars

/-- The attributes of a start tag, each under its key. -/
def attributes : List Attribute → String
  | [] => ""
  | attr :: rest => " " ++ attr.key ++ "=\x22" ++ escape attr.value ++ "\x22" ++ attributes rest
termination_by structural attributes => attributes

/-- An element around what its children are written as, if it has any. -/
def element (tag : Tag) (children : Option String) : String :=
  let start := "<" ++ tag.name ++ attributes tag.attributes
  match children with
  | none => start ++ "/>"
  | some inner => start ++ ">" ++ inner ++ "</" ++ tag.name ++ ">"

/-- A comment. -/
def comment (data : String) : Except WriteError String :=
  if occurs "--".toList data.toList then .error .hyphensInComment
  else .ok ("<!--" ++ data ++ "-->")

/-- A cdata section. -/
def cdata (data : String) : Except WriteError String :=
  if occurs "]]>".toList data.toList then .error .endMarkInCdata
  else .ok ("<![CDATA[" ++ data ++ "]]>")

/-- The identifiers of a doctype.  A public one is followed by the system one
even where that is missing. -/
def identifiers (publicId systemId : Option String) : String :=
  let isPresent (text : Option String) : Bool := text.any (· != "")
  if isPresent publicId then
    "  PUBLIC \x27" ++ publicId.getD "" ++ "\x27  \x27" ++ systemId.getD "None" ++ "\x27"
  else if isPresent systemId then "  SYSTEM \x27" ++ systemId.getD "" ++ "\x27"
  else ""

/-- A doctype. -/
def doctype (name publicId systemId : Option String) : Except WriteError String :=
  match name with
  | none => .error .namelessDoctype
  | some name => .ok ("<!DOCTYPE " ++ name ++ identifiers publicId systemId ++ ">")

/-- The texts of several nodes, one after the other. -/
def joined (write : NodeId → Except WriteError String) : List NodeId → Except WriteError String
  | [] => .ok ""
  | id :: rest => do
      let first ← write id
      return first ++ (← joined write rest)
termination_by structural ids => ids

end Markup

namespace Forest

/-- The markup of a node, with what is below it to the given depth. -/
def markupWithin (forest : Forest) : Nat → NodeId → Except WriteError String
  | 0, _ => .error .nothingThere
  | depth + 1, id =>
      match forest.node? id with
      | none => .error .nothingThere
      | some node =>
          let inner := Markup.joined (forest.markupWithin depth) node.children
          match node.content with
          | .document .. => inner.map ("<?xml version=\x221.0\x22 ?>" ++ ·)
          | .fragment => inner
          | .element tag =>
              if node.children.isEmpty then .ok (Markup.element tag none)
              else inner.map fun text => Markup.element tag (some text)
          | .text data => .ok (Markup.escape data)
          | .cdata data => Markup.cdata data
          | .comment data => Markup.comment data
          | .instruction target data => .ok ("<?" ++ target ++ " " ++ data ++ "?>")
          | .doctype name publicId systemId => Markup.doctype name publicId systemId
termination_by structural depth => depth

/-- The markup of a node with everything below it. -/
def markup (forest : Forest) (id : NodeId) : Except WriteError String :=
  forest.markupWithin (forest.size + 1) id

end Forest

/-! ## Descriptions -/

/-- What stands for the address of a node.  No two runs share an address, and
only its length matters, for texts that are cut to a length. -/
def addressMark : String := " at 0x7f0000000000"

/-- A node of character data shows the first ten of them. -/
def describeData (kind data : String) : String :=
  let shown := String.ofList (data.toList.take 10)
  let rest := if data.length > 10 then "..." else ""
  "<DOM " ++ kind ++ " node \x22" ++ Text.quoted shown ++ rest ++ "\x22>"

/-- The short text that stands for a node in messages. -/
def Content.describe : Content → String
  | .element tag => "<DOM Element: " ++ tag.name ++ addressMark ++ ">"
  | .text data => describeData "Text" data
  | .cdata data => describeData "CDATASection" data
  | .comment data => describeData "Comment" data
  | .document .. => "<xml.dom.minidom.Document object" ++ addressMark ++ ">"
  | .fragment => "<xml.dom.minidom.DocumentFragment object" ++ addressMark ++ ">"
  | .doctype .. => "<xml.dom.minidom.DocumentType object" ++ addressMark ++ ">"
  | .instruction .. => "<xml.dom.minidom.ProcessingInstruction object" ++ addressMark ++ ">"

/-- The short text that stands for the node of a number in messages. -/
def Forest.describe (forest : Forest) (id : NodeId) : String :=
  match forest.content? id with
  | some content => content.describe
  | none => "None"

end MarkupSpec
