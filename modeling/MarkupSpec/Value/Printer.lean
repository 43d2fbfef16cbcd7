import MarkupSpec.Decimal.Layout
import MarkupSpec.Text.Quoted
import MarkupSpec.Value.Shape

/-!
# Writing values

A value has two texts.  Its quoted text shows its structure, with texts between
quotes (`Value.quoted`).  Its plain text is the same, but for a text, which
stands for itself, and a thing (`Value.plain`).  Only the plain text ends up in
a tree; the quoted one is for messages.

In a tree truth values are written in lower case (`Value.scalarText`).

How a node is written depends on the forest, so all of these take the function
that describes nodes.
-/

namespace MarkupSpec.Value

/-- Texts with a comma between each two. -/
def commaList : List String → String
  | [] => ""
  | [only] => only
  | first :: rest => first ++ ", " ++ commaList rest
termination_by structural texts => texts

/-- The members of a tuple in its brackets: a single one has a comma after it. -/
def tupleText : List String → String
  | [only] => "(" ++ only ++ ",)"
  | texts => "(" ++ commaList texts ++ ")"

/-- The members of a set in its brackets: an empty one has no brackets of its
own. -/
def setText (isFrozen : Bool) (members : List String) : String :=
  let braced := "\x7b" ++ commaList members ++ "\x7d"
  match isFrozen, members.isEmpty with
  | false, true => "set()"
  | false, false => braced
  | true, true => "frozenset()"
  | true, false => "frozenset(" ++ braced ++ ")"

/-- A range by its ends, and its step if that is not one. -/
def rangeText (start stop step : Int) : String :=
  let ends := toString start ++ ", " ++ toString stop
  if step = 1 then "range(" ++ ends ++ ")"
  else "range(" ++ ends ++ ", " ++ toString step ++ ")"

mutual

/-- The text of a value with its structure shown. -/
def quoted (describe : NodeId → String) : Value → String
  | .null => "None"
  | .bool truth => if truth then "True" else "False"
  | .int number => toString number
  | .float number => number.text
  | .nan _ => Binary64.nan.text
  | .text content => Text.quoted content
  | .bytes isMutable content =>
      let inner := "b" ++ Text.quotedBytes isMutable content
      if isMutable then "bytearray(" ++ inner ++ ")" else inner
  | .range start stop step => rangeText start stop step
  | .list items => "[" ++ commaList (quotedAll describe items) ++ "]"
  | .tuple items => tupleText (quotedAll describe items)
  | .set isFrozen members => setText isFrozen (quotedAll describe members)
  | .map entries => "\x7b" ++ commaList (quotedEntries describe entries) ++ "\x7d"
  | .stream _ => "<iter>"
  | .thing _ content => "<opaque " ++ content ++ ">"
  | .function _ => "<fn>"
  | .node id => describe id
termination_by structural value => value

/-- The quoted texts of several values. -/
def quotedAll (describe : NodeId → String) : List Value → List String
  | [] => []
  | value :: rest => quoted describe value :: quotedAll describe rest
termination_by structural values => values

/-- The quoted texts of the entries of a map. -/
def quotedEntries (describe : NodeId → String) : List (Value × Value) → List String
  | [] => []
  | (key, value) :: rest =>
      (quoted describe key ++ ": " ++ quoted describe value) :: quotedEntries describe rest
termination_by structural entries => entries

end

/-- The text that a value stands for. -/
def plain (describe : NodeId → String) : Value → String
  | .text content => content
  | .thing _ content => content
  | value => quoted describe value

/-- The text of a scalar in a tree: truth values are in lower case. -/
def scalarText (describe : NodeId → String) : Value → String
  | .bool truth => if truth then "true" else "false"
  | value => plain describe value

theorem quotedAll_eq_map (describe : NodeId → String) (values : List Value) :
    quotedAll describe values = values.map (quoted describe) := by
  induction values with
  | nil => rfl
  | cons value rest ih => simp [quotedAll, ih]

/-! ## Examples -/

section Examples

/-- Nodes do not occur in the examples. -/
def noNodes : NodeId → String := fun _ => ""

example : quoted noNodes (.map [(.null, .list [.bool true]), (.tuple [.text "a"], .int 1)]) =
    "\x7bNone: [True], (\x27a\x27,): 1\x7d" := by decide +kernel
example : quoted noNodes (.set true [.int 1]) = "frozenset(\x7b1\x7d)" := by decide +kernel
example : quoted noNodes (.bytes true [1]) = "bytearray(b\x27\\x01\x27)" := by decide +kernel
example : plain noNodes (.range 0 9 2) = "range(0, 9, 2)" := by decide +kernel
example : scalarText noNodes (.bool true) = "true" := by decide +kernel

end Examples

end MarkupSpec.Value
