import MarkupSpec.Spec.Basic
import MarkupSpec.World

/-!
# Reading specs

`parse` reads a value one level deep.  It looks at the shapes in a fixed order:
what is absent is nothing, then come nodes, sequences, functions and maps, and
everything else is a text.

Reading a sequence takes all that it has, so a stream is empty afterwards.  That
also holds for a stream in the name slot of a map.
-/

namespace MarkupSpec

open Build

/-- A value as a list of children: nothing for null, the members of a sequence,
else the value alone. -/
def asChildren (value : Value) : Build (List Value) :=
  if value.isNull then pure []
  else if value.isSequence then members value
  else pure [value]

/-- The name and the children of an explicit slot.  A sequence without members
gives no name. -/
def readExplicit (slot : Value) : Build (Value × List Value) := do
  if slot.isSequence then
    match ← members slot with
    | [] => pure (.null, [])
    | name :: children => pure (name, children)
  else pure (slot, [])

/-- The children that a compact key holds. -/
def compactChildren : Value → List Value
  | .tuple items => items
  | key => [key]

/-- The name and the children of a marked key.  After a word for elements the
value is the name; else the word is, and a word for a kind keeps its marker. -/
def readMarked (marker : Marker) (word : String) (value : Value) :
    Build (Value × List Value) := do
  if isElementWord word then pure (value, [])
  else
    let name := if (SpecialKind.ofWord? word).isSome then marker.mark word else word
    return (.text name, ← asChildren value)

/-- Read a map by its name slot. -/
def parseMap (settings : Settings) (path : List String) (entries : Entries) : Build Spec := do
  let marker := settings.marker
  let attributes := attributesOf marker entries
  discard (absent ((Value.lookup .null entries).getD .null))
  match nameSlot marker entries with
  | .explicit slot =>
      let (name, children) ← readExplicit slot
      return .ofNamed marker name children attributes
  | .compact key name => return .ofNamed marker name (compactChildren key) attributes
  | .marked word value =>
      let (name, children) ← readMarked marker word value
      return .ofNamed marker name children attributes
  | .missing => return .ofNamed marker .null [] attributes
  | .ambiguous form keys =>
      let context := ErrorContext.ofValue path (← Build.quoted (.map entries))
        (.text "structural map")
      failSpec (.ambiguousMap form keys) (some context) settings.errorLevel

/-- Read a value one level deep, or nothing if it is absent. -/
def parse (settings : Settings) (path : List String) (value : Value) : Build (Option Spec) := do
  if ← absent value then return none
  match value with
  | .node id => return some (.existing id)
  | .function function => return some (.callable function)
  | .map entries => return some (← parseMap settings path entries)
  | value =>
      if value.isSequence then return some (.sequence (← members value))
      else return some (.text value)

/-- The path of a spec that is not inside another one. -/
def rootPath : List String := ["$"]

end MarkupSpec
