import MarkupSpec.Proofs.Namespace.BuiltElements

/-!
# The calls of a build

A build calls functions where it comes to them as specs, and where it flattens names, attributes
and the content of nodes.  The log tells only of functions with a label.  Here all calls are listed
in order, with the arguments and the world that each one finds.

A list of calls goes by the world that a step begins in (`Trace`), and is put together as the step
is: first come the calls of one step and then, if that ends well, those of what goes on after it
(`Trace.andThen`).  The calls of a build are those of its visits, one visit after the other
(`compileCalls`).
-/

namespace MarkupSpec

open Forest Edit Build

/-- A call of a function, with these arguments, in the world that it finds. -/
structure Invocation where
  function : Function
  arguments : List Value
  world : World

/-- What is logged of a call if the function has a label. -/
def Invocation.record? (call : Invocation) : Option Call :=
  call.function.label.map fun label =>
    { label, arguments := call.arguments, forest := call.world.forest }

/-- The calls of a step, by the world that it begins in. -/
abbrev Trace := World → List Invocation

namespace Trace

/-- Nothing is called. -/
def silent : Trace := fun _ => []

/-- The one call of a function. -/
def one (function : Function) (arguments : List Value) : Trace := fun world =>
  [{ function, arguments, world }]

/-- The calls of a step and, if it ends well, of what goes on after it. -/
def andThen {α : Type} (calls : Trace) (step : Build α) (next : α → Trace) : Trace := fun world =>
  calls world ++
    match step world with
    | .ok result after => next result after
    | .error _ _ => []

end Trace

/-! ## Calls while flattening -/

namespace Flatten

/-- The calls for several values, one after the other. -/
def eachCalls (one : Value → Build (Option String)) (calls : Value → Trace) :
    List Value → Trace
  | [] => .silent
  | value :: rest => (calls value).andThen (one value) fun _ => eachCalls one calls rest
termination_by structural values => values

/-- The calls for what a stream has left, for at most so many items. -/
def streamCalls (one : Value → Build (Option String)) (calls : Value → Trace) (id : Nat) :
    Nat → Trace
  | 0 => .silent
  | most + 1 =>
      Trace.silent.andThen (takeNext id) fun item =>
        match item with
        | none => .silent
        | some value => (calls value).andThen (one value) fun _ => streamCalls one calls id most
termination_by structural most => most

end Flatten

open Flatten

/-- The calls for the text of a value, within a budget of nesting. -/
def callsWithin (arguments : List Value) : Nat → Value → Trace
  | 0, _ => .silent
  | depth + 1, value =>
      let one := flattenWithin (pure arguments) depth
      let calls := callsWithin arguments depth
      Trace.silent.andThen (absent value) fun isAbsent =>
        if isAbsent then .silent
        else
          match value with
          | .map entries =>
              Trace.silent.andThen describe fun describe =>
                eachCalls one calls ((sortedEntries describe entries).map Prod.snd)
          | .function function =>
              (Trace.one function arguments).andThen (function.call arguments) calls
          | .set _ members =>
              Trace.silent.andThen describe fun describe =>
                eachCalls one calls (Text.sortByText (Value.plain describe) members)
          | .list items | .tuple items => eachCalls one calls items
          | .range start stop step => eachCalls one calls (Value.rangeItems start stop step)
          | .stream id =>
              Trace.silent.andThen (remaining id) fun items =>
                streamCalls one calls id items.length
          | _ => .silent
termination_by structural depth => depth

/-- The calls for the text of a value. -/
def textCalls (arguments : List Value) (value : Value) : Trace :=
  callsWithin arguments nestingBudget value

/-- The calls for the texts of several values, one after the other. -/
def textsCalls (arguments : List Value) (values : List Value) : Trace :=
  eachCalls (flatten arguments) (textCalls arguments) values

/-! ## Calls of visits -/

/-- The calls for the text of the first child. -/
def leadingCalls (scene : Scene) (children : List Value) : Trace :=
  textCalls scene.arguments (children.head?.getD .null)

/-- The calls for a processing instruction. -/
def instructionCalls (scene : Scene) (spec : Spec) (path : List String) (children : List Value)
    (attributes : RawAttributes) : Trace :=
  (leadingCalls scene children).andThen (leadingText scene .instruction spec path children) fun _ =>
    match children.tail with
    | [] => textsCalls scene.arguments ((Text.sortByText Prod.fst attributes).map Prod.snd)
    | rest => textCalls scene.arguments (.list rest)

/-- The calls for a child of a doctype, or for an attribute in its stead. -/
def identifierCalls (scene : Scene) (children : List Value) (index : Nat) (key : String)
    (attributes : RawAttributes) : Trace :=
  let child := children[index]?.getD .null
  (textCalls scene.arguments child).andThen (flatten scene.arguments child) fun text =>
    match text with
    | some _ => .silent
    | none => textCalls scene.arguments ((attributes.lookup key).getD .null)

/-- The calls for a doctype. -/
def doctypeCalls (scene : Scene) (spec : Spec) (path : List String) (children : List Value)
    (attributes : RawAttributes) : Trace :=
  (leadingCalls scene children).andThen (leadingText scene .doctype spec path children) fun _ =>
    (identifierCalls scene children 1 "public" attributes).andThen
      (identifier scene children 1 "public" attributes) fun _ =>
        identifierCalls scene children 2 "system" attributes

/-- The calls for the attributes of an element, once it has a name. -/
def attributeCalls (scene : Scene) (place : Place) (attributes : RawAttributes)
    (name : Option String) : Trace :=
  match name with
  | none => .silent
  | some _ =>
      Trace.silent.andThen place.nearest fun _ =>
        textsCalls scene.arguments (attributes.map Prod.snd)

/-- The calls for the name and the attributes of an element. -/
def elementCalls (scene : Scene) (place : Place) (name : Value) (attributes : RawAttributes) :
    Trace :=
  (textCalls scene.arguments name).andThen (flatten scene.arguments name)
    (attributeCalls scene place attributes)

/-- The calls for what a value was read as, apart from those for what is inside of it. -/
def Spec.calls (scene : Scene) (place : Place) (spec : Spec) : Trace :=
  match spec with
  | .callable function => .one function scene.arguments
  | .element name attributes _ => elementCalls scene place name attributes
  | .comment children | .cdata children => textCalls scene.arguments (.list children)
  | .instruction children attributes => instructionCalls scene spec place.path children attributes
  | .doctype children attributes => doctypeCalls scene spec place.path children attributes
  | .sequence _ | .existing _ | .text _ => .silent

/-- The calls of a visit, apart from those of the visits inside of it. -/
def Visit.calls (scene : Scene) (visit : Visit) : List Invocation :=
  match visit.part? scene with
  | some (spec, world) => spec.calls scene visit.place world
  | none => []

/-- The calls of visits, one after the other. -/
def visitCalls (scene : Scene) (visits : List Visit) : List Invocation :=
  visits.flatMap (Visit.calls scene)

theorem visitCalls_append (scene : Scene) (front back : List Visit) :
    visitCalls scene (front ++ back) = visitCalls scene front ++ visitCalls scene back :=
  List.flatMap_append

/-- The calls of a build.  Getting ready calls nothing. -/
def compileCalls (settings : Settings) (spec : Value) (where? : Option (Mode × Value))
    (document arguments : Value) (before : World) : List Invocation :=
  match prepare settings where? document arguments before with
  | .ok task start => visitCalls task.scene (task.visits spec start)
  | .error _ _ => []

end MarkupSpec
