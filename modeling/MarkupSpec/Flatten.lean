import MarkupSpec.Call
import MarkupSpec.Text.Order

/-!
# Flattening values to text

Attribute values, names, comments and the like are values of any shape.
Flattening makes a text of one, or nothing.

* What is absent gives nothing.
* A scalar gives its text.
* A map gives `key: text` for each entry that gives something, by key, with
  blanks between.
* A function is called, and what it returns is flattened.
* A sequence gives the texts of its members that are not empty, with blanks
  between; a set does so too, with its members in the order of their texts.
* Everything else gives its text.

A map or sequence that comes to nothing gives nothing.

Functions can return anything, so the recursion has a budget: the depth to which
maps, sequences and calls may nest.  A stream is read one item at a time, since
flattening an item may read from the same stream.
-/

namespace MarkupSpec

/-- Texts with a blank between each two, or nothing if there are none. -/
def joinWords (texts : List String) : Option String :=
  if texts.isEmpty then none else some (" ".intercalate texts)

@[simp]
theorem joinWords_eq_none_iff {texts : List String} : joinWords texts = none ↔ texts = [] := by
  simp [joinWords]

/-- A text in front of others, unless it is missing or empty. -/
def consWord (text : Option String) (texts : List String) : List String :=
  match text with
  | some word => if word = "" then texts else word :: texts
  | none => texts

open Build

namespace Flatten

/-- The texts of the members that have one. -/
def words (one : Value → Build (Option String)) : List Value → Build (List String)
  | [] => pure []
  | value :: rest => do
      let text ← one value
      return consWord text (← words one rest)
termination_by structural values => values

/-- The texts of what a stream has left, one item at a time, for at most so many
items. -/
def streamWords (one : Value → Build (Option String)) (id : Nat) : Nat → Build (List String)
  | 0 => pure []
  | most + 1 => do
      match ← takeNext id with
      | none => pure []
      | some value =>
          let text ← one value
          return consWord text (← streamWords one id most)
termination_by structural most => most

/-- The entries of a map that have a text, as `key: text`. -/
def entryWords (one : Value → Build (Option String)) :
    List (String × Value) → Build (List String)
  | [] => pure []
  | (key, value) :: rest => do
      match ← one value with
      | none => entryWords one rest
      | some text => return (key ++ ": " ++ text) :: (← entryWords one rest)
termination_by structural entries => entries

end Flatten

open Flatten

/-- The entries of a map with their keys as texts, in the order of these. -/
def sortedEntries (describe : NodeId → String) (entries : Entries) : List (String × Value) :=
  Text.sortByText Prod.fst (entries.map fun (key, value) => (key.plain describe, value))

/-- The text that a value comes to, within a budget of nesting.  The arguments
are taken anew for each call. -/
def flattenWithin (arguments : Build (List Value)) : Nat → Value → Build (Option String)
  | 0, _ => throw .exhausted
  | depth + 1, value => do
      if ← absent value then return none
      let one := flattenWithin arguments depth
      match value with
      | .map entries => return joinWords (← entryWords one (sortedEntries (← describe) entries))
      | .function function => one (← function.call (← arguments))
      | .set _ members =>
          return joinWords (← words one (Text.sortByText (Value.plain (← describe)) members))
      | .list items | .tuple items => return joinWords (← words one items)
      | .range start stop step =>
          return joinWords (← words one (Value.rangeItems start stop step))
      | .stream id => return joinWords (← streamWords one id (← remaining id).length)
      | value => return some (value.scalarText (← describe))
termination_by structural depth => depth

/-- How deep values may nest where nothing else limits them. -/
def nestingBudget : Nat := 1000

/-- The text that a value comes to. -/
def flatten (arguments : List Value) (value : Value) : Build (Option String) :=
  flattenWithin (pure arguments) nestingBudget value

/-- The text that a value comes to, where each call spreads a value to its
arguments.  A stream has something to give only for the first of them. -/
def flattenSpreading (arguments value : Value) : Build (Option String) :=
  flattenWithin (spread arguments) nestingBudget value

end MarkupSpec
