import MarkupSpec.Decimal.Reader
import MarkupSpec.World

/-!
# Filling templates and calling functions

Filling a template goes from left to right and makes everything in it afresh.  A
map refuses a key that can be changed when it comes to it, a set when all its
members are there.

A call is logged first, if the function has a label, and then fills the template
of the function with the arguments.  What it gives is a value like any other; it
may be a function again, or hold the arguments.

Filling changes the streams, the identities in use and the log, and never the
forest.
-/

namespace MarkupSpec

namespace Forest

/-- One step from a node, if it leads anywhere. -/
def step? (forest : Forest) (id : NodeId) : Walk → Option NodeId
  | .child index => (forest.children id)[index]?
  | .parent => forest.parent? id
  | .next => (forest.node? id).bind Node.next
  | .previous => (forest.node? id).bind Node.previous
  | .root => if forest.isA Content.isDocument id then forest.rootElement? id else none
  | .doctype => forest.doctype? id
  | .owner => (forest.node? id).bind Node.owner

/-- Several steps from a node, if they lead anywhere. -/
def walk? (forest : Forest) : NodeId → List Walk → Option NodeId
  | id, [] => some id
  | id, step :: rest => (forest.step? id step).bind (forest.walk? · rest)
termination_by structural _ steps => steps

end Forest

namespace Build

/-- The value of a name, or the node that a walk from it leads to. -/
def named (name : String) (walk : List Walk) : Build Value := do
  match (← get).names.lookup name, walk with
  | none, _ => throw (.unbound name)
  | some value, [] => pure value
  | some (.node id), walk =>
      match (← forest).walk? id walk with
      | some id => pure (.node id)
      | none => throw (.unbound name)
  | some _, _ => throw (.unbound name)

/-- The bytes that numbers are. -/
def bytesOf (isMutable : Bool) : List Int → Build (List Nat)
  | [] => pure []
  | number :: rest => do
      if 0 ≤ number && number < 256 then return number.toNat :: (← bytesOf isMutable rest)
      else throw (.badValue (.notAByte isMutable))
termination_by structural numbers => numbers

/-- The float that a text stands for.  What is no number is made afresh. -/
def floatOf (text : String) : Build Value := do
  match Binary64.ofText? text with
  | some .nan => return .nan (← freshId)
  | some number => pure (.float number)
  | none => throw (.badValue (.notAFloat text))

/-- A set of members in order; a repeated one is kept once. -/
def setOf : List Value → List Value → Build (List Value)
  | [], members => pure members
  | member :: rest, members =>
      if member.isKey then setOf rest (Value.addMember member members) else throw .wrongType
termination_by structural values => values

end Build

open Build

mutual

/-- Make the value that a template stands for, given the arguments of a call. -/
def Template.fill (arguments : List Value) : Template → Build Value
  | .null => pure .null
  | .bool truth => pure (.bool truth)
  | .int number => pure (.int number)
  | .float written => floatOf written
  | .text content => pure (.text content)
  | .bytes isMutable content => return .bytes isMutable (← bytesOf isMutable content)
  | .range start stop step =>
      if step = 0 then throw (.badValue .zeroStep) else pure (.range start stop step)
  | .list items => return .list (← fillAll arguments items)
  | .tuple items => return .tuple (← fillAll arguments items)
  | .set isFrozen members => return .set isFrozen (← setOf (← fillAll arguments members) [])
  | .map entries => return .map (← fillEntries arguments entries [])
  | .stream items => do newStream (← fillAll arguments items)
  | .thing content => return .thing (← freshId) content
  | .function label body => return .function { id := ← freshId, label, body }
  | .argument index => pure (arguments[index]?.getD .null)
  | .arguments => pure (.list arguments)
  | .concat parts => do
      let values ← fillAll arguments parts
      let describe ← describe
      return .text (String.join (values.map (Value.plain describe)))
  | .fail message => throw (.badValue (.raised message))
  | .named name walk => Build.named name walk
termination_by structural template => template

/-- Fill several templates in order. -/
def Template.fillAll (arguments : List Value) : List Template → Build (List Value)
  | [] => pure []
  | template :: rest => do
      let value ← template.fill arguments
      return value :: (← Template.fillAll arguments rest)
termination_by structural templates => templates

/-- Fill the keys and values of a map in order, and put them into what is there.
A key is looked at once its value is there. -/
def Template.fillEntries (arguments : List Value) :
    List (Template × Template) → Entries → Build Entries
  | [], entries => pure entries
  | (key, value) :: rest, entries => do
      let key ← key.fill arguments
      let value ← value.fill arguments
      if key.isKey then Template.fillEntries arguments rest (Value.put key value entries)
      else throw .wrongType
termination_by structural templates => templates

end

/-- Call a function: log the call if the function has a label, then fill its
template. -/
def Function.call (function : Function) (arguments : List Value) : Build Value := do
  match function.label with
  | some label =>
      modify fun world =>
        { world with calls := world.calls.push { label, arguments, forest := world.forest } }
  | none => pure ()
  function.body.fill arguments

end MarkupSpec
