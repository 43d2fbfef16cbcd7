import MarkupSpec.Flatten
import MarkupSpec.Forest.Scope
import MarkupSpec.Namespace.Name

/-!
# Resolving the namespaces of an element

An element that is about to be made has a name and raw attributes.  Its
attributes are flattened in order and those that come to nothing are dropped.
What is left is declarations and plain attributes.

Every qualifier in use, by the name or by a plain attribute, must stand for a
namespace: one that the element declares itself, or else one that is in scope
where the element is going to be.  The scope is that of a node, and behind it
that of another node where the first is not in its final place yet.  The
default namespace may stand for nothing.  The qualifier `xml` stands for its own
namespace and is never declared.
-/

namespace MarkupSpec

/-- What is known of the namespaces of an element. -/
structure Resolution where
  qualifier : Option String
  localName : String
  /-- The namespace of each qualifier, declared or in scope. -/
  bindings : List (Option String × String)
  /-- The namespaces that the element declares. -/
  declarations : List (Option String × String)
  /-- The plain attributes with their texts. -/
  attributes : List (String × String)
deriving DecidableEq, Repr

/-- The name of the element. -/
def Resolution.name (resolution : Resolution) : String :=
  Text.joinColon resolution.qualifier resolution.localName

/-- The qualifier that is never declared. -/
def xmlQualifier : Option String := some "xml"

/-- Give a qualifier a namespace.  A later one takes the place of an earlier. -/
def bindQualifier (qualifier : Option String) (uri : String) :
    List (Option String × String) → List (Option String × String)
  | [] => [(qualifier, uri)]
  | (other, old) :: rest =>
      if other = qualifier then (other, uri) :: rest
      else (other, old) :: bindQualifier qualifier uri rest
termination_by structural bindings => bindings

/-- Attributes with their texts, told apart into declarations and plain ones. -/
structure SortedAttributes where
  declared : List (Option String × String) := []
  plain : List (String × String) := []

/-- Add one attribute to what was sorted before. -/
def SortedAttributes.add (sofar : SortedAttributes) (entry : String × String) :
    SortedAttributes :=
  match declaredQualifier? entry.1 with
  | some qualifier =>
      { sofar with declared := bindQualifier qualifier entry.2 sofar.declared }
  | none => { sofar with plain := sofar.plain ++ [entry] }

/-- Tell declarations and plain attributes apart.  A qualifier that is declared
twice, in two spellings, has the last namespace. -/
def sortAttributes (entries : List (String × String)) : SortedAttributes :=
  entries.foldl SortedAttributes.add {}

/-- The qualifiers in use that an element does not declare itself, without the
one that is never declared. -/
def openQualifiers (name : String) (sorted : SortedAttributes) : List (Option String) :=
  let qualifierOf (name : String) : Option String := (splitQualified name).1
  let used := sorted.plain.map (fun entry => qualifierOf entry.1) ++ [qualifierOf name]
  (used.filter fun qualifier =>
    qualifier != xmlQualifier && (sorted.declared.lookup qualifier).isNone).eraseDups

/-- The qualifiers that stand for nothing in a scope, in order. -/
def unboundQualifiers (scope : List (String × String)) (qualifiers : List (Option String)) :
    List String :=
  let unbound := qualifiers.filter fun qualifier => (scope.lookup (declarationKey qualifier)).isNone
  Text.sortByText id (unbound.filterMap id)

/-- The namespaces that a scope gives to qualifiers. -/
def bindingsFrom (scope : List (String × String)) (qualifiers : List (Option String)) :
    List (Option String × String) :=
  qualifiers.filterMap fun qualifier =>
    (scope.lookup (declarationKey qualifier)).map fun uri => (qualifier, uri)

/-- Resolve an element against a scope, or name the qualifiers that stand for
nothing. -/
def resolveIn (scope : List (String × String)) (name : String) (sorted : SortedAttributes) :
    Except (List String) Resolution :=
  let qualifiers := openQualifiers name sorted
  let declared := sorted.declared.filter fun entry => entry.1 != xmlQualifier
  match unboundQualifiers scope qualifiers with
  | [] =>
      let (qualifier, localName) := splitQualified name
      .ok
        { qualifier, localName
          bindings := declared ++ bindingsFrom scope qualifiers
          declarations := declared
          attributes := sorted.plain }
  | missing => .error missing

open Build

/-- The texts of attributes in order, without those that come to nothing.  The
key of any other one is read once its text is there. -/
def flattenAttributes {Key : Type} (read : Key → Build String) (arguments : List Value) :
    List (Key × Value) → Build (List (String × String))
  | [] => pure []
  | (key, value) :: rest => do
      match ← flatten arguments value with
      | none => flattenAttributes read arguments rest
      | some text => do
          let key ← read key
          return (key, text) :: (← flattenAttributes read arguments rest)
termination_by structural attributes => attributes

/-- What is in scope at several nodes, each behind the one before it. -/
def scopeAt : List NodeId → Build (List (String × String))
  | [] => pure []
  | node :: behind => do
      edit (discard (Edit.look node))
      let near := (← forest).scope node
      return near ++ (← scopeAt behind)
termination_by structural nodes => nodes

/-- What was resolved, unless qualifiers of the name or of attributes stand for nothing. -/
def resolutionOr (name : String) (context : Option ErrorContext) (level : ErrorLevel) :
    Except (List String) Resolution → Build Resolution
  | .ok resolution => pure resolution
  | .error missing => failSpec (.unboundQualifiers missing name) context level

/-- Resolve the namespaces of an element with flattened attributes by what is in
scope at some nodes, each behind the one before it. -/
def resolveFlat (name : String) (attributes : List (String × String)) (nodes : List NodeId)
    (context : Option ErrorContext) (level : ErrorLevel) : Build Resolution := do
  let sorted := sortAttributes attributes
  let scope ← if (openQualifiers name sorted).isEmpty then pure [] else scopeAt nodes
  resolutionOr name context level (resolveIn scope name sorted)

/-- Resolve the namespaces of an element by what is in scope at some nodes, each
behind the one before it. -/
def resolve (name : String) (attributes : List (String × Value)) (nodes : List NodeId)
    (arguments : List Value) (context : Option ErrorContext) (level : ErrorLevel) :
    Build Resolution := do
  resolveFlat name (← flattenAttributes pure arguments attributes) nodes context level

/-- Resolve the namespaces of an element that is given by values.  The name must
be a text and the attributes a map; a key must be a text where its value comes
to something.  Null stands for no node. -/
def resolveValues (name attributes : Value) (nodes : List Value) (arguments : List Value) :
    Build Resolution := do
  let name ← text name
  match attributes with
  | .map entries => do
      let flat ← flattenAttributes text arguments entries
      let nodes ← (nodes.filter (!·.isNull)).mapM nodeOrNone
      resolveFlat name flat nodes none .user
  | _ => throw (.edit .noSuchOperation)

/-! ## Namespaces of names -/

/-- The namespace of an element with a qualifier.  An empty one is none. -/
def Resolution.elementNamespace (resolution : Resolution) : Option String :=
  if resolution.qualifier = xmlQualifier then some xmlNamespace
  else (resolution.bindings.lookup resolution.qualifier).filter (· != "")

/-- The namespace of an attribute.  Without a qualifier it has none. -/
def Resolution.attributeNamespace (resolution : Resolution) (key : String) : Option String :=
  match (splitQualified key).1 with
  | none => none
  | some qualifier =>
      if some qualifier = xmlQualifier then some xmlNamespace
      else (resolution.bindings.lookup (some qualifier)).filter (· != "")

end MarkupSpec
