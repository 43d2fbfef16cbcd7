/-!
# Templates

A template is a value with holes.  Filling it makes a value: every list, map,
one-shot stream, function and thing in it is made afresh, the holes take the
arguments of the call, and the named values are looked up.

A template is both how a value is written down and what a function is: calling
the function fills its template with the arguments of the call.  A function
inside a template is made unfilled, and its holes take the arguments of its own
calls.

A float is written as a text and a byte string as numbers, which may turn out to
be no float and no bytes.
-/

namespace MarkupSpec

/-- One step from a node to another one. -/
inductive Walk where
  /-- The child of an index, counted from zero. -/
  | child (index : Nat)
  | parent
  | next
  | previous
  /-- The first element of a document. -/
  | root
  /-- The doctype that a document remembers. -/
  | doctype
  /-- The document a node was made for. -/
  | owner
deriving DecidableEq, Repr

/-- A value with holes. -/
inductive Template where
  | null
  | bool (truth : Bool)
  | int (number : Int)
  | float (text : String)
  | text (text : String)
  | bytes (isMutable : Bool) (content : List Int)
  | range (start stop step : Int)
  | list (items : List Template)
  | tuple (items : List Template)
  | set (isFrozen : Bool) (members : List Template)
  | map (entries : List (Template × Template))
  /-- A stream that gives each item once. -/
  | stream (items : List Template)
  /-- A thing of no known shape, with a text. -/
  | thing (text : String)
  /-- A function, with the label its calls are logged under, if they are. -/
  | function (label : Option String) (body : Template)
  /-- The argument of an index, or null. -/
  | argument (index : Nat)
  /-- The list of all arguments. -/
  | arguments
  /-- The texts of the parts, one after the other. -/
  | concat (parts : List Template)
  /-- A failure with a message. -/
  | fail (message : String)
  /-- A named value, and where to go from it. -/
  | named (name : String) (walk : List Walk)
deriving Repr, Inhabited

end MarkupSpec
