import MarkupSpec.Compile

/-!
# Page skeletons

`Page` holds what a whole XHTML page is made from, and `Page.spec` puts it
together as one spec: a stylesheet instruction, a doctype, and an `html` element
with a `head` and a `body`.  `Page.build` builds that spec like any other.

The contents of the head are given loosely.  For links, metas, styles and
scripts a single value stands for a list of one.  A map that has a name slot is
a spec of its own; one without is the attributes of the element at hand.  Any
other value is the text of the element, or the source of a script.
-/

namespace MarkupSpec

/-- The namespace of XHTML. -/
def xhtmlNamespace : String := "http://www.w3.org/1999/xhtml"

/-- What a page is made from.  A missing part has its default. -/
structure Page where
  /-- The document to build in. -/
  document : Value := .null
  /-- Where the links of the page start from. -/
  base : Value := .null
  /-- More namespaces for the root, by qualifier. -/
  namespaces : Value := .null
  /-- The vocabularies that the root names, by qualifier. -/
  vocabularies : Value := .null
  /-- The default vocabulary. -/
  vocabulary : Value := .null
  language : Value := .null
  title : Value := .null
  links : Value := .tuple []
  metas : Value := .tuple []
  styles : Value := .tuple []
  scripts : Value := .tuple []
  /-- A spec in the place of the whole head. -/
  head : Value := .null
  /-- A spec in the place of the whole body. -/
  body : Value := .null
  /-- The attributes of the body. -/
  bodyAttributes : Value := .null
  /-- What is in the body. -/
  content : Value := .tuple []
  /-- The stylesheet that transforms the page. -/
  stylesheet : Value := .null
  /-- Whether there is a doctype, or its identifiers. -/
  doctype : Value := .bool true
  /-- Whether the root is in the namespace of XHTML, or the namespaces it
  declares instead. -/
  declaration : Value := .bool true
  /-- What functions are called with. -/
  arguments : Value := .tuple []

namespace Page

open Build

/-! ## Pieces of specs -/

/-- A map with one name slot and more entries. -/
def named (slot : Value) (entries : Entries) : Value := .map ((.null, slot) :: entries)

/-- A map with the entries of a second one put into it. -/
def merged (entries changes : Entries) : Value := .map (Value.putAll changes entries)

/-- Does a map have a name slot of its own? -/
def hasNameSlot (marker : Marker) (entries : Entries) : Bool :=
  entries.any fun (key, _) =>
    key.isNull || key.isTuple || (markedWord? marker key).isSome

/-- The entries of a map, none for another value. -/
def entriesOf : Value → Entries
  | .map entries => entries
  | _ => []

/-- Is the value a map? -/
def isMap : Value → Bool
  | .map _ => true
  | _ => false

/-! ## The head -/

/-- One item of the head as a spec. -/
def headItem (marker : Marker) (tag : String) (item : Value) : Value :=
  match item with
  | .map entries =>
      if hasNameSlot marker entries then .map entries else merged [(.null, .text tag)] entries
  | item =>
      if tag = "script" then named (.text tag) [(.text "src", item)]
      else named (.list [.text tag, item]) []

/-- The items of one kind as specs. -/
def headItems (marker : Marker) (tag : String) (value : Value) : Build (List Value) := do
  if ← absent value then return []
  let items ← if value.isSequence then members value else pure [value]
  return items.map (headItem marker tag)

/-- The title as a spec: a text, or a text with properties, or a spec already. -/
def titleSpec (arguments title : Value) : Build Value := do
  if ← absent title then return title
  if isMap title then return title
  if title.isSequence then
    match ← members title with
    | [] => throw (.badValue .emptyTitle)
    | text :: properties =>
        let property := match ← flattenSpreading arguments (.list properties) with
          | some words => Value.text words
          | none => .null
        return named (.list [.text "title", text]) [(.text "property", property)]
  return named (.list [.text "title", title]) []

/-- The head: the one that is given, or one of the title, the base, and the
items. -/
def headSpec (page : Page) (marker : Marker) : Build Value := do
  if page.head.isTrue then return page.head
  let title ← titleSpec page.arguments page.title
  let base :=
    if page.base.isTrue then [named (.text "base") [(.text "href", page.base)]] else []
  let links ← headItems marker "link" page.links
  let metas ← headItems marker "meta" page.metas
  let styles ← headItems marker "style" page.styles
  let scripts ← headItems marker "script" page.scripts
  let children := title :: base ++ links ++ metas ++ styles ++ scripts
  return named (.list (.text "head" :: children)) []

/-! ## The body -/

/-- The body: the one that is given, or one of the content with attributes. -/
def bodySpec (page : Page) : Build Value := do
  if page.body.isTrue then return page.body
  let start := [(.null, .list [.text "body", page.content])]
  if page.bodyAttributes.isTrue then
    if isMap page.bodyAttributes then return merged start (entriesOf page.bodyAttributes)
    else throw .wrongType
  else return .map start

/-! ## The root -/

/-- Put a pair, the one of an index, into the entries of a map. -/
def putPair (index : Nat) (pair : Value) (entries : Entries) : Build Entries := do
  match ← spread pair with
  | [key, value] => if key.isKey then pure (Value.put key value entries) else throw .wrongType
  | other => throw (.badValue (.notAPair index other.length))

/-- Pairs as the entries of a map. -/
def pairEntries : Nat → List Value → Entries → Build Entries
  | _, [], entries => pure entries
  | index, pair :: rest, entries => do
      pairEntries (index + 1) rest (← putPair index pair entries)
termination_by structural _ pairs => pairs

/-- The pairs that a stream has left as the entries of a map, for at most so many
pairs.  Those behind one that fails stay in the stream. -/
def streamPairs (id : Nat) : Nat → Nat → Entries → Build Entries
  | 0, _, entries => pure entries
  | most + 1, index, entries => do
      match ← takeNext id with
      | none => pure entries
      | some pair => streamPairs id most (index + 1) (← putPair index pair entries)
termination_by structural most => most

/-- A value as a map: a map itself, or pairs.  The integers of a range are no
pairs, so that the first one tells. -/
def mapOfValue : Value → Build Value
  | .map entries => pure (.map entries)
  | .stream id => return .map (← streamPairs id (← remaining id).length 0 [])
  | .range start _ _ => return .map (← pairEntries 0 [.int start] [])
  | value => return .map (← pairEntries 0 (← spread value) [])

/-- An entry that is there only if its value counts as true. -/
def ifTrue (key : String) (value : Value) : Entries :=
  if value.isTrue then [(.text key, value)] else []

/-- The entries that declare the namespaces of a map. -/
def declarationEntries (describe : NodeId → String) (nullIsDefault : Bool) (entries : Entries) :
    Entries :=
  entries.map fun (key, uri) =>
    if nullIsDefault && key.isNull then (.text "xmlns", uri)
    else (.text ("xmlns:" ++ key.plain describe), uri)

/-- The entries that declare the namespace of the page. -/
def ownDeclarations (page : Page) (describe : NodeId → String) : Entries :=
  match page.declaration with
  | .map entries => declarationEntries describe true entries
  | value =>
      if value.isTrue then (.text "xmlns", .text xhtmlNamespace) :: ifTrue "xml:lang" page.language
      else []

/-- The entries that declare more namespaces, which must be given as a map. -/
def moreDeclarations (page : Page) (describe : NodeId → String) : Build Entries := do
  if page.namespaces.isTrue then
    if isMap page.namespaces then
      return declarationEntries describe false (entriesOf page.namespaces)
    else throw (.edit .noSuchOperation)
  else return []

/-- The root element with its attributes. -/
def rootSpec (page : Page) (head body : Value) : Build Value := do
  let describe ← describe
  let vocabularies ←
    if page.vocabularies.isTrue then
      pure [(Value.text "prefix", ← mapOfValue page.vocabularies)]
    else pure []
  let plain := ifTrue "vocab" page.vocabulary ++ ifTrue "lang" page.language ++ vocabularies
  let more ← moreDeclarations page describe
  return merged [(.null, .list [.text "html", head, body])]
    (plain ++ page.ownDeclarations describe ++ more)

/-! ## The page -/

/-- The stylesheet instruction, if there is one. -/
def stylesheetSpecs (page : Page) (marker : Marker) : Build (List Value) := do
  if !page.stylesheet.isTrue then return []
  if isMap page.stylesheet then return [page.stylesheet]
  let href := page.stylesheet.plain (← describe)
  return [named (.list [.text (marker.mark "pi"), .text "xml-stylesheet"])
    [(.text "type", .text "text/xsl"), (.text "href", .text href)]]

/-- The doctype, if there is one, with its identifiers, if they are given. -/
def doctypeSpecs (page : Page) (marker : Marker) : Build (List Value) := do
  if !page.doctype.isTrue then return []
  let identifiers ← if page.doctype.isSequence then members page.doctype else pure []
  return [named (.list (.text (marker.mark "dtd") :: .text "html" :: identifiers)) []]

/-- The whole page as one spec. -/
def spec (page : Page) (marker : Marker) : Build Value := do
  let stylesheet ← page.stylesheetSpecs marker
  let doctype ← page.doctypeSpecs marker
  let head ← page.headSpec marker
  let body ← page.bodySpec
  let root ← page.rootSpec head body
  return .list (stylesheet ++ doctype ++ [root])

/-- Build the page. -/
def build (page : Page) (settings : Settings) : Build Value := do
  let spec ← page.spec settings.marker
  markup settings spec page.document {} page.arguments

end Page

end MarkupSpec
