import MarkupSpec.Value.Basic

/-!
# Shapes of values

The tests that say how a value is read.  An absent value is nothing at all: null
and what is empty.  A scalar stands for its text.  A sequence is read member by
member; byte strings and sets are not sequences, and a stream is one.

`isAbsent` and `isTrue` differ: a zero is not true and not absent, and an empty
set is not true and not absent.
-/

namespace MarkupSpec.Value

/-- Does the value stand for nothing at all?  Null does, and every empty text,
byte string, sequence and map, but no set and no stream. -/
def isAbsent : Value → Bool
  | .null => true
  | .text content => content == ""
  | .bytes _ content => content.isEmpty
  | .range start stop step => rangeLength start stop step == 0
  | .list items | .tuple items => items.isEmpty
  | .map entries => entries.isEmpty
  | _ => false

/-- Does the value stand for its text? -/
def isScalar : Value → Bool
  | .bool _ | .int _ | .float _ | .nan _ | .text _ => true
  | _ => false

/-- Is the value read member by member? -/
def isSequence : Value → Bool
  | .range .. | .list _ | .tuple _ | .stream _ => true
  | _ => false

/-- Does the value count as true?  Zeros, null and everything empty do not. -/
def isTrue : Value → Bool
  | .null => false
  | .bool truth => truth
  | .int number => number != 0
  | .float number => !number.isZero
  | .text content => content != ""
  | .bytes _ content => !content.isEmpty
  | .range start stop step => rangeLength start stop step != 0
  | .list items | .tuple items => !items.isEmpty
  | .set _ members => !members.isEmpty
  | .map entries => !entries.isEmpty
  | .nan _ | .stream _ | .thing .. | .function _ | .node _ => true

/-- What is absent does not count as true. -/
theorem isTrue_of_isAbsent {value : Value} (h : value.isAbsent = true) : value.isTrue = false := by
  cases value <;> simp_all [isAbsent, isTrue]

/-- A sequence is no scalar. -/
theorem isScalar_of_isSequence {value : Value} (h : value.isSequence = true) :
    value.isScalar = false := by
  cases value <;> simp_all [isSequence, isScalar]

end MarkupSpec.Value
