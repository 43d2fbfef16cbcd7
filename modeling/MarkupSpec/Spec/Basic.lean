import MarkupSpec.Settings.Basic

/-!
# Specs

A spec says what to build.  Read one level deep, any value is one of a few
things: nothing, a sequence of specs, a function that returns one, a map for an
element or for one of four special kinds of nodes, a node to be copied, or a
text.  Children are left as they are, to be read when their turn comes.

A map names what it stands for in its name slot.  `nameSlot` finds the slot: the
entry of null, unless it is absent; else the one key that is a tuple or a node;
else the one key that begins with the marker.  Two keys of the form that decides
are ambiguous.

The entries whose keys are texts without the marker are the attributes,
whatever the slot (`attributesOf`).
-/

namespace MarkupSpec

/-! ## What a value is read as -/

/-- The kinds of nodes besides elements that a map can stand for. -/
inductive SpecialKind where
  | comment
  | cdata
  | doctype
  | instruction
deriving DecidableEq, Repr

/-- The kind that a word after the marker selects. -/
def SpecialKind.ofWord? : String → Option SpecialKind
  | "comment" => some .comment
  | "cdata" => some .cdata
  | "doctype" => some .doctype
  | "dtd" => some .doctype
  | "pi" => some .instruction
  | "processing-instruction" => some .instruction
  | _ => none

/-- The name of a kind in messages. -/
def SpecialKind.word : SpecialKind → String
  | .comment => "comment"
  | .cdata => "cdata"
  | .doctype => "doctype"
  | .instruction => "processing-instruction"

/-- Does a word after the marker say that the value is the name of an element? -/
def isElementWord (word : String) : Bool :=
  word == "" || word == "elem" || word == "element" || word == "tag"

/-- Attributes with values that are not flattened yet. -/
abbrev RawAttributes := List (String × Value)

/-- A value read one level deep. -/
inductive Spec where
  | sequence (items : List Value)
  | callable (function : Function)
  | element (name : Value) (attributes : RawAttributes) (children : List Value)
  | comment (children : List Value)
  | cdata (children : List Value)
  | instruction (children : List Value) (attributes : RawAttributes)
  | doctype (children : List Value) (attributes : RawAttributes)
  | existing (node : NodeId)
  | text (value : Value)
deriving Repr, Inhabited

/-- The name of what a value was read as, in messages. -/
def Spec.variant : Spec → String
  | .sequence _ => "SequenceSpec"
  | .callable _ => "CallableSpec"
  | .element .. => "ElementSpec"
  | .comment _ => "CommentSpec"
  | .cdata _ => "CDataSpec"
  | .instruction .. => "ProcessingInstructionSpec"
  | .doctype .. => "DoctypeSpec"
  | .existing _ => "NodeSpec"
  | .text _ => "TextSpec"

/-- The parts of what a value was read as, each with its name. -/
def Spec.parts (spec : Spec) : List (String × Value) :=
  let map (attributes : RawAttributes) : Value :=
    .map (attributes.map fun (key, value) => (.text key, value))
  match spec with
  | .sequence items => [("items", .list items)]
  | .callable function => [("function", .function function)]
  | .element name attributes children =>
      [("name", name), ("attributes", map attributes), ("children", .list children)]
  | .comment children | .cdata children => [("children", .list children)]
  | .instruction children attributes | .doctype children attributes =>
      [("children", .list children), ("attributes", map attributes)]
  | .existing node => [("node", .node node)]
  | .text value => [("value", value)]

/-- What a value was read as, with its parts, in messages. -/
def Spec.quoted (describe : NodeId → String) (spec : Spec) : String :=
  let parts := spec.parts.map fun (name, value) => name ++ "=" ++ value.quoted describe
  spec.variant ++ "(" ++ Value.commaList parts ++ ")"

/-! ## The name slot of a map -/

/-- Where a map has its name. -/
inductive NameSlot where
  /-- The entry of null: a name, or a sequence of a name and children. -/
  | explicit (slot : Value)
  /-- A key that holds the children, with the name as its value. -/
  | compact (key name : Value)
  /-- A key of the marker and a word. -/
  | marked (word : String) (value : Value)
  /-- The map has no name. -/
  | missing
  /-- Several keys of the form that decides. -/
  | ambiguous (form : String) (keys : List Value)
deriving Repr

/-- The entries of a map whose keys hold children. -/
def compactEntries (entries : Entries) : Entries :=
  entries.filter fun (key, _) => key.isTuple || key.isNode

/-- The word after the marker, in a key that begins with it. -/
def markedWord? (marker : Marker) (key : Value) : Option String := key.text?.bind marker.unmark?

/-- The entries of a map whose keys begin with the marker, by the word after it. -/
def markedEntries (marker : Marker) (entries : Entries) : List (String × Value) :=
  entries.filterMap fun (key, value) => (markedWord? marker key).map fun word => (word, value)

/-- The value of the null entry, unless it is absent. -/
def explicitSlot? (entries : Entries) : Option Value :=
  (Value.lookup .null entries).filter fun slot => !slot.isAbsent

/-- Where a map has its name. -/
def nameSlot (marker : Marker) (entries : Entries) : NameSlot :=
  match explicitSlot? entries, compactEntries entries, markedEntries marker entries with
  | some slot, _, _ => .explicit slot
  | none, [(key, name)], _ => .compact key name
  | none, first :: others, _ => .ambiguous "compact" ((first :: others).map Prod.fst)
  | none, [], [(word, value)] => .marked word value
  | none, [], first :: others =>
      .ambiguous "marker" ((first :: others).map fun entry => .text (marker.mark entry.1))
  | none, [], [] => .missing

/-- The attributes of a map: its entries whose keys are texts without the
marker. -/
def attributesOf (marker : Marker) (entries : Entries) : RawAttributes :=
  entries.filterMap fun (key, value) =>
    match key with
    | .text content => if (marker.unmark? content).isSome then none else some (content, value)
    | _ => none

/-- The special kind that a name selects: the marker and a word for a kind. -/
def specialKind? (marker : Marker) (name : Value) : Option SpecialKind :=
  (markedWord? marker name).bind SpecialKind.ofWord?

/-- A map with its name and children, read as what the name says. -/
def Spec.ofNamed (marker : Marker) (name : Value) (children : List Value)
    (attributes : RawAttributes) : Spec :=
  match specialKind? marker name with
  | some .comment => .comment children
  | some .cdata => .cdata children
  | some .instruction => .instruction children attributes
  | some .doctype => .doctype children attributes
  | none => .element name attributes children

/-! ## Examples -/

example : nameSlot { char := '#' } [(.text "#p", .bool true)] = .marked "p" (.bool true) := rfl
example : nameSlot { char := '#' } [(.null, .list []), (.tuple [.int 1], .text "p")] =
    .compact (.tuple [.int 1]) (.text "p") := rfl
example : nameSlot { char := '#' } [(.text "#a", .null), (.text "id", .null), (.text "#b", .null)] =
    .ambiguous "marker" [.text "#a", .text "#b"] := rfl

end MarkupSpec
