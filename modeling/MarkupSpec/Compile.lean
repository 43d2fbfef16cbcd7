import MarkupSpec.Forest.Copy
import MarkupSpec.Namespace.Resolve
import MarkupSpec.Placement
import MarkupSpec.Spec.Parse

/-!
# Building trees from specs

A spec is read one level deep, the nodes it stands for are made and attached, and
then come its children.  Every step gives the node that was built last in
document order, or nothing if nothing was built.

A sequence that goes under a node is built in place, member by member.  One that
goes beside a node is built in a fragment first, which is attached as a whole
once all members are built, and only if any of them built something.

An element takes its namespaces from the node it will be under in the end.  For
members of a sequence that is the parent of the sequence and not the fragment
(`Place.pseudo`).  For elements further down, while the fragment has no place
yet, the scope of that parent stands behind the scope in the fragment
(`Place.anchor`).

An element is attached before its children are built, so a failure leaves what
was built before it.  A doctype is not attached; its document takes it.

The recursion has a budget.  With a depth limit the budget is never used up,
since the limit is checked first (`Settings.budget`).
-/

namespace MarkupSpec

/-- What stays the same all through one build. -/
structure Scene where
  settings : Settings
  /-- The document that nodes are made for. -/
  document : NodeId
  /-- What every function in the spec is called with. -/
  arguments : List Value
deriving Repr

/-- Where in the spec and in the forest a step is. -/
structure Place where
  target : Target
  /-- The node that namespaces come from, where it is not the parent. -/
  pseudo : Option NodeId := none
  /-- The node whose scope stands behind that of the parent. -/
  anchor : Option NodeId := none
  /-- The way from the whole spec to this part. -/
  path : List String := rootPath
  /-- How many steps that way has. -/
  depth : Nat := 0
deriving Repr

/-- The place one step further down. -/
def Place.deeper (place : Place) (segment : String) : Place :=
  { place with path := place.path ++ [segment], depth := place.depth + 1 }

/-- What builds the part of a spec at a place. -/
abbrev Builder := Value → Place → Build (Option NodeId)

open Build

/-! ## Nodes without children of their own -/

/-- A value with its parts in the context of a failure. -/
def specContext (spec : Spec) (path : List String) (operation : String) : Build ErrorContext :=
  return .ofValue path (spec.quoted (← describe)) (.text operation)

/-- The text of the children of a comment or a cdata section. -/
def childrenText (scene : Scene) (children : List Value) : Build String :=
  return (← flatten scene.arguments (.list children)).getD ""

/-- The text of the first child, which a kind of node needs. -/
def leadingText (scene : Scene) (kind : SpecialKind) (spec : Spec) (path : List String)
    (children : List Value) : Build String := do
  let first := children.head?.getD .null
  match ← flatten scene.arguments first with
  | some text => pure text
  | none =>
      let context ← specContext spec path kind.word
      failSpec (.missingChild kind.word) (some context) scene.settings.errorLevel

/-- The attributes of a processing instruction, by key. -/
def pseudoAttributes (scene : Scene) : RawAttributes → Build (List String)
  | [] => pure []
  | (key, value) :: rest => do
      match ← flatten scene.arguments value with
      | none => pseudoAttributes scene rest
      | some text => return (key ++ "=\x22" ++ text ++ "\x22") :: (← pseudoAttributes scene rest)
termination_by structural attributes => attributes

/-- Make a processing instruction.  Its first child is the target.  Its content
is the text of the others, or of its attributes where there are none. -/
def buildInstruction (scene : Scene) (spec : Spec) (path : List String) (children : List Value)
    (attributes : RawAttributes) : Build NodeId := do
  let target ← leadingText scene .instruction spec path children
  let content ←
    match children.tail with
    | [] => do
        let pairs ← pseudoAttributes scene (Text.sortByText Prod.fst attributes)
        pure (" ".intercalate pairs)
    | rest => childrenText scene rest
  edit (Edit.create scene.document (.instruction target content))

/-- The text of a child of a doctype, or of an attribute in its stead. -/
def identifier (scene : Scene) (children : List Value) (index : Nat) (key : String)
    (attributes : RawAttributes) : Build (Option String) := do
  match ← flatten scene.arguments (children[index]?.getD .null) with
  | some text => pure (some text)
  | none => flatten scene.arguments ((attributes.lookup key).getD .null)

/-- The name that a doctype asks for.  A root that does not count as true gives
none. -/
def doctypeName (root : Value) : Build (Option String) :=
  if root.isTrue then some <$> name root else pure none

/-- Notice that a doctype takes the place of another one. -/
def noticeReplaced (document : NodeId) (root : Value) : Build Unit := do
  let forest ← forest
  match (Edit.currentDoctype? forest document).bind forest.content? with
  | some old =>
      note .warning .doctypes
        ("Replacing document type declaration \x27" ++ old.name?.getD "None" ++ "\x27 with \x27" ++
          root.plain forest.describe ++ "\x27")
  | none => pure ()

/-- Make a doctype and give it to its document. -/
def giveDoctype (document : NodeId) (root : Value) (publicId systemId : Option String) :
    Build NodeId := do
  edit (Edit.checkDocument document)
  let asked ← doctypeName root
  let doctype ← edit (Edit.createDoctype document asked publicId systemId)
  noticeReplaced document root
  edit (Edit.placeDoctype document doctype)
  pure doctype

/-- Build a doctype: the name of the root, and two identifiers. -/
def buildDoctype (scene : Scene) (spec : Spec) (path : List String) (children : List Value)
    (attributes : RawAttributes) : Build NodeId := do
  let name ← leadingText scene .doctype spec path children
  let publicId ← identifier scene children 1 "public" attributes
  let systemId ← identifier scene children 2 "system" attributes
  giveDoctype scene.document (.text name) publicId systemId

/-! ## Elements -/

/-- The declarations of an element, the default first and then by qualifier. -/
def Resolution.declaredInOrder (resolution : Resolution) : List (Option String × String) :=
  Text.sortByText (fun entry => entry.1.getD "") resolution.declarations

/-- The plain attributes of an element, by key. -/
def Resolution.setting (resolution : Resolution) : List Attribute.Entry :=
  (Text.sortByText Prod.fst resolution.attributes).map fun (key, text) =>
    { namespaceUri := resolution.attributeNamespace key, name := key, value := text }

/-- Make an element with its declarations and attributes. -/
def createResolved (document : NodeId) (resolution : Resolution) : Edit NodeId := do
  let element ← Edit.createElement document resolution.name resolution.elementNamespace
  Edit.setAll element
    (resolution.declaredInOrder.map Attribute.Entry.declaring ++ resolution.setting)
  pure element

/-- An element that has its place, with what is known of its namespaces, and the
place inside of it. -/
structure Made where
  element : NodeId
  resolution : Resolution
  inside : Place
deriving Repr

/-- The node that the namespaces of a place come from: the parent, unless another
one stands for it. -/
def Place.nearest (place : Place) : Build NodeId :=
  match place.pseudo with
  | some pseudo => pure pseudo
  | none => implicitParent place.target

/-- The namespaces of the element that a name and attributes stand for, with the
node that they come from. -/
def resolveElement (scene : Scene) (place : Place) (spec : Spec) (name : Value)
    (attributes : RawAttributes) : Build (NodeId × Resolution) := do
  let context ← specContext spec place.path "element"
  let level := scene.settings.errorLevel
  match ← flatten scene.arguments name with
  | none => failSpec .missingName (some context) level
  | some name => do
      let near ← place.nearest
      let nodes := near :: place.anchor.toList
      return (near, ← resolve name attributes nodes scene.arguments (some context) level)

/-- The place inside an element that was made at a place. -/
def Place.within (place : Place) (near element : NodeId) (resolution : Resolution) : Place :=
  { place.deeper ("<" ++ resolution.name ++ ">") with
    target := .under element
    pseudo := none
    anchor := some (place.anchor.getD near) }

/-- Make an element by its name and attributes and give it its place. -/
def makeElement (scene : Scene) (place : Place) (spec : Spec) (name : Value)
    (attributes : RawAttributes) : Build Made := do
  let (near, resolution) ← resolveElement scene place spec name attributes
  let element ← edit (createResolved scene.document resolution)
  attach place.target element
  pure { element, resolution, inside := place.within near element resolution }

/-- Build an element and, by the given builder, its children. -/
def buildElement (scene : Scene) (below : Builder) (place : Place) (spec : Spec) (name : Value)
    (attributes : RawAttributes) (children : List Value) : Build (Option NodeId) := do
  let made ← makeElement scene place spec name attributes
  if children.isEmpty then pure (some made.element)
  else return (← below (.list children) made.inside) <|> some made.element

/-! ## Sequences -/

/-- The segment of a member in a path. -/
def memberSegment (index : Nat) : String := "[" ++ toString index ++ "]"

/-- Build the members of a sequence one after the other.  The last one that
built something gives the result. -/
def buildMembers (below : Builder) (place : Place) :
    Nat → Option NodeId → List Value → Build (Option NodeId)
  | _, last, [] => pure last
  | index, last, item :: rest => do
      let node ← below item (place.deeper (memberSegment index))
      buildMembers below place (index + 1) (node <|> last) rest
termination_by structural _ _ items => items

/-- The node that the members of a sequence go under: the parent, or a fragment
that is made for them. -/
def holderFor (scene : Scene) (target : Target) : Build NodeId :=
  if target.isUnder then pure target.reference else edit (Edit.create scene.document .fragment)

/-- The place of the members of a sequence. -/
def openSequence (scene : Scene) (place : Place) : Build Place := do
  let parent ← implicitParent place.target
  let holder ← holderFor scene place.target
  pure { place with target := .under holder, pseudo := some (place.pseudo.getD parent) }

/-- Attach what was built for a place beside a node, if anything was. -/
def closeSequence (target : Target) (holder : NodeId) (last : Option NodeId) : Build Unit :=
  if last.isSome && !target.isUnder then attach target holder else pure ()

/-- Build a sequence, by the given builder for its members. -/
def buildSequence (scene : Scene) (below : Builder) (place : Place) (items : List Value) :
    Build (Option NodeId) := do
  let inside ← openSequence scene place
  let last ← buildMembers below inside 0 none items
  closeSequence place.target inside.target.reference last
  pure last

/-! ## The build -/

/-- Make the node of a spec that has no parts to be built in turn. -/
def makeLeaf (scene : Scene) (path : List String) (spec : Spec) : Build NodeId :=
  match spec with
  | .comment children => do
      let data ← childrenText scene children
      edit (Edit.create scene.document (.comment data))
  | .cdata children => do
      let data ← childrenText scene children
      edit (Edit.create scene.document (.cdata data))
  | .instruction children attributes => buildInstruction scene spec path children attributes
  | .existing node => edit (Edit.copy scene.document true node)
  | .text value => do
      let data := value.scalarText (← describe)
      edit (Edit.create scene.document (.text data))
  | _ => throw .wrongType

/-- Make the node of a spec without parts and give it its place. -/
def buildLeaf (scene : Scene) (place : Place) (spec : Spec) : Build (Option NodeId) := do
  let node ← makeLeaf scene place.path spec
  attach place.target node
  pure (some node)

/-- Build what a spec was read as, by the given builder for what is inside. -/
def buildSpec (scene : Scene) (below : Builder) (place : Place) (spec : Spec) :
    Build (Option NodeId) :=
  match spec with
  | .sequence items => buildSequence scene below place items
  | .callable function => do
      below (← function.call scene.arguments) (place.deeper "()")
  | .element name attributes children =>
      buildElement scene below place spec name attributes children
  | .doctype children attributes =>
      return some (← buildDoctype scene spec place.path children attributes)
  | leaf => buildLeaf scene place leaf

/-- Fail if a place is deeper than the settings allow. -/
def checkDepth (settings : Settings) (value : Value) (place : Place) : Build Unit := do
  match settings.maxDepth with
  | none => pure ()
  | some limit =>
      if place.depth > limit.depth then
        let context := ErrorContext.ofValue place.path (← Build.quoted value) .null
        failSpec (.tooDeep limit.depth) (some context) settings.errorLevel

/-- Read the part of a spec at a place, unless that is too deep. -/
def readPart (settings : Settings) (value : Value) (place : Place) : Build (Option Spec) := do
  checkDepth settings value place
  match ← parse settings place.path value with
  | none => pure none
  | some spec =>
      note .debug .compiling ("Compiling " ++ spec.variant ++ " at " ++ String.join place.path)
      pure (some spec)

/-- Build the part of a spec at a place, within a budget of nesting. -/
def buildWithin (scene : Scene) : Nat → Builder
  | 0, _, _ => throw .exhausted
  | budget + 1, value, place => do
      match ← readPart scene.settings value place with
      | none => pure none
      | some spec => buildSpec scene (buildWithin scene budget) place spec
termination_by structural budget => budget

/-- How deep a build may nest: as deep as the limit allows and one step more,
where the limit is checked. -/
def Settings.budget (settings : Settings) : Nat :=
  match settings.maxDepth with
  | some limit => limit.depth + 2
  | none => nestingBudget

/-- The document to build under: the one that is given, or a new one. -/
def rootDocument (settings : Settings) (document : Value) : Build Value := do
  if document.isNull then
    return .node (← edit (Edit.createDocument (.text settings.xmlVersion)))
  else return document

/-- The document to build in: the one that is given, or that of the node to go
by. -/
def documentFor (document : Value) (reference : NodeId) : Build NodeId := do
  if document.isNull then
    match (← forest).documentOf? reference with
    | some id => pure id
    | none => throw (.edit .noSuchOperation)
  else nodeOrNone document

/-- The result of a build: the last node, or what the build went by. -/
def resultOr (reference : Value) : Option NodeId → Value
  | some node => .node node
  | none => reference

/-- A build that is about to begin: what stays the same all through it, where its
nodes go, and what it gives if there are none. -/
structure Task where
  scene : Scene
  target : Target
  fallback : Value
deriving Repr

/-- Get ready for a build.  Without a place it goes under the document, which is
made if it is not given.  The reference must be a node with a place for what is
built; that is checked first, after the arguments are spread. -/
def prepare (settings : Settings) (where? : Option (Mode × Value)) (document arguments : Value) :
    Build Task := do
  let arguments ← spread arguments
  match where? with
  | none =>
      let root ← rootDocument settings document
      let id ← nodeOrNone root
      pure { scene := { settings, document := id, arguments }, target := .under id, fallback := root }
  | some (mode, .node reference) =>
      let id ← documentFor document reference
      let target : Target := { mode, reference }
      discard (implicitParent target)
      pure { scene := { settings, document := id, arguments }, target, fallback := .node reference }
  | some (mode, other) =>
      failSpec (.badReference mode.keyword ((← Build.quoted other) ++ " is not a node"))

/-- Build a spec, within a budget of nesting. -/
def compileWithin (budget : Nat) (settings : Settings) (spec : Value)
    (where? : Option (Mode × Value)) (document arguments : Value) : Build Value := do
  let task ← prepare settings where? document arguments
  return resultOr task.fallback (← buildWithin task.scene budget spec { target := task.target })

/-- Build a spec. -/
def compile (settings : Settings) (spec : Value) (where? : Option (Mode × Value))
    (document arguments : Value) : Build Value :=
  compileWithin settings.budget settings spec where? document arguments

/-- Build a spec at the one place that is given by keyword. -/
def markup (settings : Settings) (spec document : Value) (keywords : Keywords)
    (arguments : Value) : Build Value := do
  match Mode.choose keywords with
  | .ok where? => compile settings spec where? document arguments
  | .error cause => failSpec cause

/-- A new empty document. -/
def newDocument (version : Value) : Build NodeId :=
  edit (Edit.createDocument version)

end MarkupSpec
