import MarkupSpec.World

/-!
# Stated failures

A caller may state a failure in a spec by hand, by its kind and by values for its
parts.  The values are taken as they are, whatever their shape, and the wording
is the same as for the causes that a build finds itself.

Each kind has a fixed number of parts.  The members of a list of keys are
written one after the other, so that it must have members.
-/

namespace MarkupSpec

open Build

namespace SpecCause

/-- The members of a value, which must be texts, with a comma between each two. -/
def joinedTexts (value : Value) : Build String :=
  return Value.commaList (← (← spread value).mapM text)

/-- The members of a value as quoted texts, with a comma between each two. -/
def joinedQuoted (value : Value) : Build String := do
  let members ← spread value
  let describe ← describe
  return Value.commaList (members.map (Value.quoted describe))

/-- The wording of a kind of cause for values of its parts. -/
def statedText (kind : CauseKind) (parts : List Value) : Build String := do
  let describe ← describe
  let plain (value : Value) : String := value.plain describe
  match kind, parts with
  | .severalPlaces, [keywords] => return severalPlacesText (← joinedTexts keywords)
  | .badReference, [mode, reason] => return badReferenceText (plain mode) (plain reason)
  | .ambiguousMap, [slot, keys] => return ambiguousMapText (plain slot) (← joinedQuoted keys)
  | .missingChild, [kind] => return missingChildText (plain kind)
  | .missingName, [] => return missingNameText
  | .unboundQualifiers, [qualifiers, element] =>
      return unboundQualifiersText (← joinedQuoted qualifiers) (plain element)
  | .tooDeep, [limit] => return tooDeepText (plain limit)
  | .general, [message] => return plain message
  | _, _ => throw .wrongType

end SpecCause

/-- The level of detail that a value names. -/
def ErrorLevel.ofValue (value : Value) : Build ErrorLevel := do
  match value.text?.bind ErrorLevel.ofWord? with
  | some level => pure level
  | none => throw (.badValue (.notALevel (← Build.quoted value)))

/-- The level of detail of a general failure, whose message may have two values
behind it: a context and a level, unless they are given apart.  No value is a
context; one that counts as true is asked for a location and has none. -/
def levelBehind (context : Option ErrorContext) (level : Option ErrorLevel) :
    List Value → Build ErrorLevel
  | [] => pure (level.getD .user)
  | first :: rest => do
      match context, level, rest with
      | none, level, [] =>
          if first.isTrue then throw (.edit .noSuchOperation) else pure (level.getD .user)
      | none, none, [word] =>
          if first.isTrue then throw (.edit .noSuchOperation) else ErrorLevel.ofValue word
      | _, _, _ => throw .wrongType

/-- State a failure of a kind, with values for its parts. -/
def SpecError.state (kind : CauseKind) (parts : List Value) (context : Option ErrorContext)
    (level : Option ErrorLevel) : Build SpecError := do
  if kind = .general then
    let message ← SpecCause.statedText kind (parts.take 1)
    let level ← levelBehind context level (parts.drop 1)
    return { cause := .stated kind [] message, context, level }
  else
    let message ← SpecCause.statedText kind parts
    return { cause := .stated kind parts message, context, level := level.getD .user }

end MarkupSpec
