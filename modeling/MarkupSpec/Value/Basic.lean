import MarkupSpec.Decimal.Binary64
import MarkupSpec.Forest.NodeId
import MarkupSpec.Value.Template

/-!
# Values

Specs, attribute values and call arguments are values: scalars, sequences, maps,
sets, functions, nodes of a forest, and things of no known shape.

Values do not change.  A list has the same members whenever it is read, and a
function keeps nothing from one call to the next: what it does depends on its
arguments and on the world that it is called in.  So two calls of one function
differ only by what is in the world, such as what a stream still has to give.

A stream is known by its number; what it still has to give is kept outside, and
is settled when the stream is made.  A function and a thing have a number of
their own, which tells two alike ones apart.  So does a float that is no number,
which is equal to no other one.

This module also says which values are the same key of a map.  Numbers are the
same key when they are equal as numbers, whether written as an integer, a
truth value or a float.  Functions, things, streams, nodes and floats that are no
number are the same key only as themselves.
-/

namespace MarkupSpec

/-- A function: its number, the label of its calls, and the template that it
fills at each of them. -/
structure Function where
  id : Nat
  label : Option String
  body : Template
deriving Repr, Inhabited

/-- A value. -/
inductive Value where
  | null
  | bool (truth : Bool)
  | int (number : Int)
  /-- A float that is a number. -/
  | float (number : Binary64)
  /-- A float that is no number. -/
  | nan (id : Nat)
  | text (text : String)
  | bytes (isMutable : Bool) (content : List Nat)
  | range (start stop step : Int)
  | list (items : List Value)
  | tuple (items : List Value)
  /-- A set, with its integers in order and other members as they came. -/
  | set (isFrozen : Bool) (members : List Value)
  /-- A map, in the order its keys were first set. -/
  | map (entries : List (Value × Value))
  | stream (id : Nat)
  | thing (id : Nat) (text : String)
  | function (function : Function)
  | node (id : NodeId)
deriving Repr, Inhabited

/-- The entries of a map, in order. -/
abbrev Entries := List (Value × Value)

namespace Value

/-! ## Ranges -/

/-- How many integers a range holds. -/
def rangeLength (start stop step : Int) : Nat :=
  if 0 < step then ((stop - start + step - 1) / step).toNat
  else if step < 0 then ((start - stop - step - 1) / -step).toNat
  else 0

/-- The greatest number of members that can be counted. -/
def countLimit : Nat := Nat.pow 2 63 - 1

/-- Can the members of the value be counted?  Only a range can have too many. -/
def isCountable : Value → Bool
  | .range start stop step => rangeLength start stop step ≤ countLimit
  | _ => true

/-- The integers of a range, in order. -/
def rangeItems (start stop step : Int) : List Value :=
  (List.range (rangeLength start stop step)).map fun (index : Nat) =>
    .int (start + step * (index : Int))

/-! ## Keys -/

/-- The integer that a number is equal to. -/
def asInt? : Value → Option Int
  | .bool truth => some (if truth then 1 else 0)
  | .int number => some number
  | .float number => number.toInt?
  | _ => none

mutual

/-- May the value be the key of a map or the member of a set?  What can be
changed may not. -/
def isKey : Value → Bool
  | .list _ | .map _ | .bytes true _ | .set false _ => false
  | .tuple items => areKeys items
  | _ => true
termination_by structural value => value

/-- May all the values be keys? -/
def areKeys : List Value → Bool
  | [] => true
  | value :: rest => isKey value && areKeys rest
termination_by structural values => values

end

mutual

/-- Are the values the same key? -/
def sameKey : Value → Value → Bool
  | .null, .null => true
  | .text a, .text b => a == b
  | .bytes _ a, .bytes _ b => a == b
  | .range a b c, .range a' b' c' =>
      let length := rangeLength a b c
      length == rangeLength a' b' c' &&
        (length == 0 || a == a' && (length == 1 || c == c'))
  | .tuple a, .tuple b => sameKeys a b
  | .set _ a, .set _ b => a.length == b.length && allAmong a b
  | .nan a, .nan b => a == b
  | .stream a, .stream b => a == b
  | .thing a _, .thing b _ => a == b
  | .function a, .function b => a.id == b.id
  | .node a, .node b => a == b
  | .float a, .float b => a.same b
  | a, b =>
      match asInt? a, asInt? b with
      | some m, some n => m == n
      | _, _ => false
termination_by structural value => value

/-- Are the values the same keys, one by one? -/
def sameKeys : List Value → List Value → Bool
  | [], [] => true
  | a :: as, b :: bs => sameKey a b && sameKeys as bs
  | _, _ => false
termination_by structural values => values

/-- Is each value the same key as one of the others? -/
def allAmong : List Value → List Value → Bool
  | [], _ => true
  | a :: as, others => others.any (fun other => sameKey a other) && allAmong as others
termination_by structural values => values

end

/-! ## Maps and sets -/

/-- The value of a key. -/
def lookup (key : Value) : Entries → Option Value
  | [] => none
  | (other, value) :: rest => if sameKey other key then some value else lookup key rest
termination_by structural entries => entries

/-- Give a key a value.  A key that is there keeps its place and its form. -/
def put (key value : Value) : Entries → Entries
  | [] => [(key, value)]
  | (other, old) :: rest =>
      if sameKey other key then (other, value) :: rest else (other, old) :: put key value rest
termination_by structural entries => entries

/-- Give several keys their values, in order. -/
def putAll : Entries → Entries → Entries
  | [], entries => entries
  | (key, value) :: rest, entries => putAll rest (put key value entries)
termination_by structural changes => changes

/-- Does the first member stand in front of the second, whichever came first?
Integers ascend, with those below zero behind the others. -/
def standsBefore (first second : Value) : Bool :=
  match asInt? first, asInt? second with
  | some m, some n => if (m < 0) = (n < 0) then m < n else n < 0
  | _, _ => false

/-- Put a member in front of the first one that it stands before, or at the
end. -/
def insertMember (new : Value) : List Value → List Value
  | [] => [new]
  | old :: rest => if standsBefore new old then new :: old :: rest else old :: insertMember new rest
termination_by structural members => members

/-- Add a member to a set, if none is the same key. -/
def addMember (member : Value) (members : List Value) : List Value :=
  if members.any (sameKey · member) then members else insertMember member members

/-- The node that a value is. -/
def node? : Value → Option NodeId
  | .node id => some id
  | _ => none

/-- The text that a value is. -/
def text? : Value → Option String
  | .text content => some content
  | _ => none

/-- Is the value null? -/
def isNull : Value → Bool
  | .null => true
  | _ => false

/-- Is the value a tuple? -/
def isTuple : Value → Bool
  | .tuple _ => true
  | _ => false

/-- Is the value a node? -/
def isNode : Value → Bool
  | .node _ => true
  | _ => false

/-! ## Small facts -/

@[simp]
theorem sameKey_text (a b : String) : sameKey (.text a) (.text b) = (a == b) := rfl

/-- A text is no other key than itself. -/
theorem sameKey_text_right {value : Value} {content : String} :
    sameKey value (.text content) = true ↔ value = .text content := by
  cases value <;> simp [sameKey, asInt?]

theorem sameKey_null_right {value : Value} :
    sameKey value .null = true ↔ value = .null := by
  cases value <;> simp [sameKey, asInt?]

/-! ## Examples -/

example : rangeItems 0 5 2 = [.int 0, .int 2, .int 4] := rfl
example : sameKey (.int 1) (.bool true) = true := by decide
example : sameKey (.float (.finite false 1 0)) (.int 1) = true := by decide
example : sameKey (.tuple [.int 0]) (.tuple [.bool false]) = true := by decide
example : sameKey (.text "1") (.int 1) = false := by decide
example : addMember (.int 0) [.int 2, .int (-1)] = [.int 0, .int 2, .int (-1)] := rfl

end Value

end MarkupSpec
