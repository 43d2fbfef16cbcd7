import MarkupSpec.World

/-!
# Where nodes go

A place is a mode and a node to go by: under it, before it, after it, or in its
place.  Callers give it by one of four keywords, and at most one
(`Mode.choose`).

`attach` is the one way that built nodes get their place.  Under a document an
element becomes its root, in the place of the one before.  A fragment gives its
children and is left empty.  Beside a node that has no parent nothing can go.
-/

namespace MarkupSpec

/-- Where a node goes relative to another one. -/
inductive Mode where
  | under
  | before
  | after
  | replacing
deriving DecidableEq, Repr, Inhabited

/-- The keyword of a mode. -/
def Mode.keyword : Mode → String
  | .under => "parent"
  | .before => "before"
  | .after => "after"
  | .replacing => "replace"

/-- The mode of a keyword. -/
def Mode.ofKeyword? : String → Option Mode
  | "parent" => some .under
  | "before" => some .before
  | "after" => some .after
  | "replace" => some .replacing
  | _ => none

@[simp]
theorem Mode.ofKeyword?_keyword (mode : Mode) : Mode.ofKeyword? mode.keyword = some mode := by
  cases mode <;> rfl

/-- The values given for the four keywords, null for those not given. -/
structure Keywords where
  under : Value := .null
  before : Value := .null
  after : Value := .null
  replacing : Value := .null
deriving Repr, Inhabited

/-- The keywords that are given, with their values, in a fixed order. -/
def Keywords.given (keywords : Keywords) : List (Mode × Value) :=
  [(.under, keywords.under), (.before, keywords.before), (.after, keywords.after),
    (.replacing, keywords.replacing)].filter fun entry => !entry.2.isNull

/-- The one keyword that is given, or none. -/
def Mode.choose (keywords : Keywords) : Except SpecCause (Option (Mode × Value)) :=
  match keywords.given with
  | [] => .ok none
  | [choice] => .ok (some choice)
  | several => .error (.severalPlaces (several.map fun entry => entry.1.keyword))

/-- A mode and the node to go by. -/
structure Target where
  mode : Mode
  reference : NodeId
deriving DecidableEq, Repr, Inhabited

/-- The place under a node. -/
def Target.under (parent : NodeId) : Target := { mode := .under, reference := parent }

/-- Is the place under the node to go by? -/
def Target.isUnder (target : Target) : Bool := target.mode == .under

open Build

/-- Fail since there is nothing beside a node without a parent. -/
def failNoParent {α : Type} (mode : Mode) : Build α :=
  failSpec (.badReference mode.keyword "reference node has no parent")

/-- The parent that a node to go by has. -/
def parentBeside (target : Target) : Build NodeId := do
  match (← edit (Edit.look target.reference)).parent with
  | some parent => pure parent
  | none => failNoParent target.mode

/-- The node that attached nodes will be under. -/
def implicitParent (target : Target) : Build NodeId :=
  if target.isUnder then pure target.reference else parentBeside target

/-- Attach one node under another. -/
def attachOneUnder (parent node : NodeId) : Edit Unit := do
  let above ← Edit.look parent
  let below ← Edit.look node
  if above.content.isDocument && below.content.isElement then Edit.setRoot parent node
  else Edit.appendChild parent node

/-- Attach a node, or the children of a fragment, under a node. -/
def attachUnder (parent node : NodeId) : Edit Unit := do
  discard (Edit.look parent)
  let below ← Edit.look node
  if below.content.isFragment then below.children.forM (attachOneUnder parent)
  else attachOneUnder parent node

/-- Give a node its place. -/
def place (target : Target) (node : NodeId) : Edit Unit :=
  match target.mode with
  | .under => attachUnder target.reference node
  | .before => Edit.insertBeforeSibling node target.reference
  | .after => Edit.insertAfterSibling node target.reference
  | .replacing => Edit.replaceSibling target.reference node

/-- The remark that something is about to get its place. -/
def placeRemark (mode : Mode) (what reference : String) : String :=
  "Attaching " ++ what ++ " (" ++ mode.keyword ++ " " ++ reference ++ ")"

/-- Remark that something is about to get its place. -/
def remark (mode : Mode) (what reference : (NodeId → String) → String) : Build Unit := do
  let describe ← describe
  note .debug .attaching (placeRemark mode (what describe) (reference describe))

/-- Give a node its place, if the node to go by has one for it. -/
def attach (target : Target) (node : NodeId) : Build Unit := do
  discard (implicitParent target)
  remark target.mode (fun describe => describe node) (fun describe => describe target.reference)
  edit (place target node)

/-- Give a value its place by another one.  Both must be nodes, but the remark
comes before that is known, unless the reference has to have a parent. -/
def attachValue (mode : Mode) (reference value : Value) : Build Unit := do
  let target : Target := { mode, reference := ← nodeOrNone reference }
  discard (implicitParent target)
  remark mode value.quoted reference.quoted
  edit (place target (← nodeOrNone value))

end MarkupSpec
