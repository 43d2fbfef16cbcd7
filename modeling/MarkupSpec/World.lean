import MarkupSpec.Error

/-!
# The world that a build works on

Besides the forest a build reads and changes a few more things: what each stream
still has to give, the log of labelled calls, the notices for whoever watches,
and the values that have a name.  All of it is one `World`.

A `Build` is a step on a world that may fail.  A step that fails keeps what it
did before, and so does the world.
-/

namespace MarkupSpec

/-- A call of a labelled function, with its arguments and the forest as the call
found it. -/
structure Call where
  label : String
  arguments : List Value
  forest : Forest

/-- Who a notice is from. -/
inductive Topic where
  | compiling
  | attaching
  | doctypes
deriving DecidableEq, Repr

/-- How much a notice matters. -/
inductive Severity where
  | debug
  | warning
deriving DecidableEq, Repr

/-- A remark for whoever watches. -/
structure Notice where
  severity : Severity
  topic : Topic
  text : String
deriving DecidableEq, Repr

/-- All that a build reads and changes. -/
structure World where
  forest : Forest := {}
  /-- What each stream still has to give. -/
  streams : Array (List Value) := #[]
  /-- The number of the next function or thing. -/
  nextId : Nat := 0
  /-- The labelled calls, oldest first. -/
  calls : Array Call := #[]
  /-- The notices, oldest first. -/
  notices : Array Notice := #[]
  /-- The values that have a name. -/
  names : List (String × Value) := []

instance : Inhabited World := ⟨{}⟩

/-- A step on a world that may fail and keeps what it did before. -/
abbrev Build (α : Type) := EStateM Failure World α

namespace Build

/-- Do an edit on the forest of the world. -/
def edit {α : Type} (step : Edit α) : Build α := fun world =>
  match step world.forest with
  | .ok result forest => .ok result { world with forest }
  | .error cause forest => .error (.edit cause) { world with forest }

/-- The forest as it is now. -/
def forest : Build Forest := return (← get).forest

/-- How nodes are described now. -/
def describe : Build (NodeId → String) := return (← forest).describe

/-- The quoted text of a value as it is now. -/
def quoted (value : Value) : Build String := return value.quoted (← describe)

/-- Fail for a cause in a spec. -/
def failSpec {α : Type} (cause : SpecCause) (context : Option ErrorContext := none)
    (level : ErrorLevel := .user) : Build α :=
  throw (.spec { cause, context, level })

/-- Leave a notice. -/
def note (severity : Severity) (topic : Topic) (text : String) : Build Unit :=
  modify fun world => { world with notices := world.notices.push { severity, topic, text } }

/-! ## Streams -/

/-- A new stream of the given items. -/
def newStream (items : List Value) : Build Value := do
  let id := (← get).streams.size
  modify fun world => { world with streams := world.streams.push items }
  pure (.stream id)

/-- What a stream still has to give. -/
def remaining (id : Nat) : Build (List Value) :=
  return ((← get).streams[id]?).getD []

/-- Say what a stream still has to give. -/
def setRemaining (id : Nat) (items : List Value) : Build Unit :=
  modify fun world => { world with streams := world.streams.modify id fun _ => items }

/-- The next item of a stream, if it has one left. -/
def takeNext (id : Nat) : Build (Option Value) := do
  match ← remaining id with
  | [] => pure none
  | item :: rest =>
      setRemaining id rest
      pure (some item)

/-- All that a stream has left. -/
def drain (id : Nat) : Build (List Value) := do
  let items ← remaining id
  setRemaining id []
  pure items

/-! ## Members -/

/-- The greatest number of members that there is room for. -/
def roomLimit : Nat := Nat.pow 2 32

/-- The integers of a range, all at once. -/
def rangeMembers (start stop step : Int) : Build (List Value) :=
  let length := Value.rangeLength start stop step
  if Value.countLimit < length then throw .uncountable
  else if roomLimit < length then throw .noRoom
  else pure (Value.rangeItems start stop step)

/-- Does the value stand for nothing at all?  To tell, its members are counted. -/
def absent (value : Value) : Build Bool :=
  if value.isCountable then pure value.isAbsent else throw .uncountable

/-- The members of a sequence, none for another value. -/
def members : Value → Build (List Value)
  | .list items | .tuple items => pure items
  | .range start stop step => rangeMembers start stop step
  | .stream id => drain id
  | _ => pure []

/-- All that a value gives one by one: the members of a sequence or a set, the
characters of a text, the bytes of a byte string, the keys of a map.  Other
values give nothing and are of the wrong type. -/
def spread : Value → Build (List Value)
  | .set _ members => pure members
  | .text content => pure (content.toList.map fun c => .text (String.singleton c))
  | .bytes _ content => pure (content.map fun byte => .int (Int.ofNat byte))
  | .map entries => pure (entries.map Prod.fst)
  | value => if value.isSequence then members value else throw .wrongType

/-! ## Identities -/

/-- A number that no function or thing has. -/
def freshId : Build Nat := do
  let id := (← get).nextId
  modify fun world => { world with nextId := id + 1 }
  pure id

/-! ## What a value must be -/

/-- The node that a value is.  Any other value stands for a node that does not
exist, which has no operations. -/
def nodeOrNone (value : Value) : Build NodeId := do
  match value with
  | .node id => pure id
  | _ => return (← forest).size

/-- The text that a value is. -/
def text (value : Value) : Build String :=
  match value with
  | .text content => pure content
  | _ => throw .wrongType

/-- The text that a value is, or nothing for null. -/
def textOrNull (value : Value) : Build (Option String) :=
  if value.isNull then pure none else some <$> text value

/-- The name that a value is, which is going to be split at its colon.  A byte
string is split too, but not by a text. -/
def name (value : Value) : Build String :=
  match value with
  | .text content => pure content
  | .bytes .. => throw .wrongType
  | _ => throw (.edit .noSuchOperation)

end Build

end MarkupSpec
