import MarkupSpec.Forest.Edit
import MarkupSpec.Forest.Printer
import MarkupSpec.Value.Printer

/-!
# Failures

A step fails for one of a few causes.  A cause that lies in a spec or in where
it is to go is a `SpecCause`.  Together with where in the spec it arose it makes
a `SpecError`.  All other causes are a `Failure` of their own: an edit that the
forest refuses, a value that has the right type and is wrong all the same, a
value of the wrong type, a range that is too long, a name that stands for
nothing, and a nesting that the budget does not allow.

The wording is apart from the causes (`SpecCause.message`, `EditError.message`,
`BadValue.message`).  A location is added on lines of its own, and how much of it
depends on the level of detail (`ErrorContext.location`).
-/

namespace MarkupSpec

/-! ## Locations -/

/-- How much of a location a message shows. -/
inductive ErrorLevel where
  /-- Where the value is, and what was done with it. -/
  | user
  /-- The value too. -/
  | developer
deriving DecidableEq, Repr, Inhabited

/-- The word for a level of detail. -/
def ErrorLevel.word : ErrorLevel → String
  | .user => "user"
  | .developer => "developer"

/-- The level of detail that a word stands for. -/
def ErrorLevel.ofWord? (word : String) : Option ErrorLevel :=
  [ErrorLevel.user, .developer].find? (·.word == word)

@[simp]
theorem ErrorLevel.ofWord?_word (level : ErrorLevel) :
    ErrorLevel.ofWord? level.word = some level := by
  cases level <;> decide

/-- Where in a spec a failure arose.  Each part is a text, or null if there is
nothing to say. -/
structure ErrorContext where
  /-- The way to the value at fault. -/
  specPath : Value := .null
  /-- The quoted text of the value. -/
  specText : Value := .null
  /-- What the value was about to become. -/
  operation : Value := .null
deriving Repr, Inhabited

namespace ErrorContext

/-- The greatest length of a value in a message. -/
def textLimit : Nat := 120

/-- A text of at most the limit.  A longer one ends in three dots. -/
def bounded (text : String) : String :=
  if text.length > textLimit then String.ofList (text.toList.take (textLimit - 3)) ++ "..."
  else text

theorem length_bounded_le (text : String) : (bounded text).length ≤ textLimit := by
  unfold bounded
  split
  · rename_i h
    have : ("..." : String).length = 3 := by decide
    simp only [String.length_append, String.length_ofList, List.length_take, this]
    simp only [textLimit] at h ⊢
    omega
  · omega

/-- The context of a value, by its path and its quoted text. -/
def ofValue (path : List String) (quoted : String) (operation : Value) : ErrorContext :=
  { specPath := .text (String.join path)
    specText := .text (bounded quoted)
    operation }

/-- A line of a location, unless there is nothing to say. -/
def line (describe : NodeId → String) (intro : String) (part : Value) : List String :=
  if part.isTrue then [intro ++ part.plain describe] else []

/-- The lines of a location, with the value only for developers. -/
def location (describe : NodeId → String) (context : ErrorContext) (level : ErrorLevel) :
    String :=
  let line := line describe
  let value := if level = .developer then line "  spec: " context.specText else []
  let way := line "  at spec path " context.specPath
  let operation := line "  while compiling " context.operation
  "\n".intercalate (way ++ operation ++ value)

end ErrorContext

/-! ## Causes in a spec -/

/-- The kinds of causes in a spec. -/
inductive CauseKind where
  | general
  | severalPlaces
  | badReference
  | ambiguousMap
  | missingChild
  | missingName
  | unboundQualifiers
  | tooDeep
deriving DecidableEq, Repr, Inhabited

/-- The names of the parts that a cause of a kind has. -/
def CauseKind.partNames : CauseKind → List String
  | .general | .missingName => []
  | .severalPlaces => ["keys"]
  | .badReference => ["mode", "reason"]
  | .ambiguousMap => ["kind", "keys"]
  | .missingChild => ["kind"]
  | .unboundQualifiers => ["prefixes", "element_name"]
  | .tooDeep => ["max_depth"]

/-- What is wrong with a spec or with the place it is to go to. -/
inductive SpecCause where
  /-- A cause that a caller states, with parts of any shape. -/
  | stated (kind : CauseKind) (parts : List Value) (message : String)
  /-- More than one place was named. -/
  | severalPlaces (keywords : List String)
  /-- The node to be placed by cannot be used for that. -/
  | badReference (mode reason : String)
  /-- Several keys of a map could be its name slot. -/
  | ambiguousMap (slot : String) (keys : List Value)
  /-- A map for a kind of node that needs a child has none. -/
  | missingChild (kind : String)
  /-- A map has no name. -/
  | missingName
  /-- Qualifiers that stand for no namespace. -/
  | unboundQualifiers (qualifiers : List String) (element : String)
  /-- The nesting is deeper than the settings allow. -/
  | tooDeep (limit : Nat)
deriving Repr, Inhabited

namespace SpecCause

/-- The kind of a cause. -/
def kind : SpecCause → CauseKind
  | .stated kind .. => kind
  | .severalPlaces _ => .severalPlaces
  | .badReference .. => .badReference
  | .ambiguousMap .. => .ambiguousMap
  | .missingChild _ => .missingChild
  | .missingName => .missingName
  | .unboundQualifiers .. => .unboundQualifiers
  | .tooDeep _ => .tooDeep

/-- The parts of a cause, in the order of their names. -/
def parts : SpecCause → List Value
  | .stated _ parts _ => parts
  | .severalPlaces keywords => [.list (keywords.map .text)]
  | .badReference mode reason => [.text mode, .text reason]
  | .ambiguousMap slot keys => [.text slot, .list keys]
  | .missingChild kind => [.text kind]
  | .missingName => []
  | .unboundQualifiers qualifiers element => [.list (qualifiers.map .text), .text element]
  | .tooDeep limit => [.int limit]

/-- The parts of a cause, each with its name. -/
def fields (cause : SpecCause) : List (String × Value) := cause.kind.partNames.zip cause.parts

/-- The wording for several places, given their keywords. -/
def severalPlacesText (keywords : String) : String :=
  "Only one adjacency target may be given, got: " ++ keywords

/-- The wording for a node that cannot be placed by. -/
def badReferenceText (mode reason : String) : String :=
  "Invalid \x27" ++ mode ++ "\x27 adjacency reference: " ++ reason

/-- The wording for several name slots, given their form and their keys. -/
def ambiguousMapText (slot keys : String) : String :=
  "Spec can\x27t have multiple " ++ slot ++ " keys: " ++ keys

/-- The wording for a kind of node that has no child. -/
def missingChildText (kind : String) : String :=
  "A " ++ kind ++ " spec requires at least one child"

/-- The wording for a map without a name. -/
def missingNameText : String := "Element name inference is not supported"

/-- The wording for qualifiers that stand for no namespace. -/
def unboundQualifiersText (qualifiers element : String) : String :=
  "Unresolvable namespace prefix " ++ qualifiers ++ " on element \x27" ++ element ++ "\x27"

/-- The wording for a nesting that is too deep. -/
def tooDeepText (limit : String) : String := "Spec nesting exceeds maximum depth of " ++ limit

/-- The wording of a cause, without a location. -/
def message (describe : NodeId → String) : SpecCause → String
  | .stated _ _ message => message
  | .severalPlaces keywords => severalPlacesText (Value.commaList keywords)
  | .badReference mode reason => badReferenceText mode reason
  | .ambiguousMap slot keys =>
      ambiguousMapText slot (Value.commaList (keys.map (Value.quoted describe)))
  | .missingChild kind => missingChildText kind
  | .missingName => missingNameText
  | .unboundQualifiers qualifiers element =>
      unboundQualifiersText (Value.commaList (qualifiers.map Text.quoted)) element
  | .tooDeep limit => tooDeepText (toString limit)

end SpecCause

/-- A cause, where it arose, and how much of that a message shows. -/
structure SpecError where
  cause : SpecCause
  context : Option ErrorContext := none
  level : ErrorLevel := .user
deriving Repr, Inhabited

/-- The wording of a failure with its location, if that says anything. -/
def SpecError.message (describe : NodeId → String) (error : SpecError) : String :=
  let said := error.cause.message describe
  match error.context with
  | none => said
  | some context =>
      let location := context.location describe error.level
      if location = "" then said else said ++ "\n" ++ location

/-! ## Causes elsewhere -/

/-- The wording of an edit that fails. -/
def EditError.message (describe : NodeId → String) : EditError → String
  | .cannotBeChild child parent => describe child ++ " cannot be child of " ++ describe parent
  | .cannotHaveChildren name => name ++ " nodes cannot have children"
  | .secondElement => "two document elements disallowed"
  | .documentNotCopied => "cannot import document nodes"
  | .doctypeNotCopied => "cannot import document type nodes"
  | .badAttribute .reservedQualifier =>
      "illegal use of \x27xmlns\x27 prefix for the wrong namespace"
  | .notAChild | .noSuchOperation | .nameless | .badAttribute .unkeyed => ""

/-- The wording of a node that cannot be written out. -/
def WriteError.message : WriteError → String
  | .hyphensInComment => "\x27--\x27 is not allowed in a comment node"
  | .endMarkInCdata => "\x27]]>\x27 not allowed in a CDATA section"
  | .namelessDoctype | .nothingThere => ""

/-- A value that has the right type and is wrong all the same. -/
inductive BadValue where
  /-- A function failed with a message. -/
  | raised (message : String)
  /-- A title with no members. -/
  | emptyTitle
  /-- A member that should be a pair has another length. -/
  | notAPair (index length : Nat)
  /-- A range that never advances. -/
  | zeroStep
  /-- A text that does not read as a float. -/
  | notAFloat (text : String)
  /-- A number outside of what a byte holds. -/
  | notAByte (isMutable : Bool)
  /-- Not the word for a level of detail, as a quoted text. -/
  | notALevel (quoted : String)
deriving DecidableEq, Repr

/-- The wording of a wrong value. -/
def BadValue.message : BadValue → String
  | .raised message => message
  | .emptyTitle => "not enough values to unpack (expected at least 1, got 0)"
  | .notAPair index length =>
      "dictionary update sequence element #" ++ toString index ++ " has length " ++
        toString length ++ "; 2 is required"
  | .zeroStep => "range() arg 3 must not be zero"
  | .notAFloat text => "could not convert string to float: " ++ Text.quoted text
  | .notAByte isMutable =>
      (if isMutable then "byte" else "bytes") ++ " must be in range(0, 256)"
  | .notALevel quoted => quoted ++ " is not a valid ErrorLevel"

/-- Why a step fails. -/
inductive Failure where
  | spec (error : SpecError)
  | edit (cause : EditError)
  | badValue (cause : BadValue)
  /-- A value of a type that has no place here. -/
  | wrongType
  /-- A range with more members than can be counted. -/
  | uncountable
  /-- A range with more members than there is room for. -/
  | noRoom
  /-- A name that stands for nothing, or a walk from it that leads nowhere. -/
  | unbound (name : String)
  /-- The nesting is deeper than the budget. -/
  | exhausted
deriving Repr, Inhabited

/-! ## Examples -/

example : ({ specPath := .text "$[0]", specText := .text "1" } : ErrorContext).location
    (fun _ => "") .user = "  at spec path $[0]" := by decide +kernel
example : ({ specPath := .text "", specText := .text "1" } : ErrorContext).location
    (fun _ => "") .developer = "  spec: 1" := by decide +kernel
example : (SpecCause.badReference "before" "r").fields =
    [("mode", .text "before"), ("reason", .text "r")] := rfl

end MarkupSpec
