import MarkupSpec.Settings.Basic

/-!
# Setting a name on settings

Settings are not changed once they are made.  A name that does not begin with an
underscore may be the name of a setting, and setting it is refused whether there
is such a setting or not.

A name that begins with an underscore is private, and never the name of a
setting.  It may be set to any value, and the settings are what they were.  A few
private names are reserved for the record that holds the settings, and none of
them can be set: `assign_eq_ok_iff` says that exactly the other private names
can.
-/

namespace MarkupSpec

/-- Why a name is not set. -/
inductive AssignmentFault where
  /-- Settings are not changed once they are made. -/
  | frozen
  /-- The name does not take a value of this type. -/
  | wrongType
  /-- The name can only be read. -/
  | readOnly
  /-- The record would have no settings left. -/
  | noSettings
deriving DecidableEq, Repr

/-- What a reserved name stands for. -/
inductive ReservedName where
  /-- The type of the record.  No value is a type. -/
  | type
  /-- All fields of the record, which are a map.  A map of values has no level of
  detail, so it is no table of settings. -/
  | fields
  /-- What is known of the record and cannot be set: which fields were given, and
  who refers to it. -/
  | description
deriving DecidableEq, Repr

/-- What a private name stands for, if it is reserved. -/
def ReservedName.ofName? (name : String) : Option ReservedName :=
  [("__class__", ReservedName.type), ("__dict__", .fields), ("__fields_set__", .description),
    ("__weakref__", .description)].lookup name

/-- Why a reserved name is not set to a value. -/
def ReservedName.fault : ReservedName → Value → AssignmentFault
  | .type, _ => .wrongType
  | .fields, .map _ => .noSettings
  | .fields, _ => .wrongType
  | .description, _ => .readOnly

/-- Is the name private, with an underscore in front? -/
def isPrivateName (name : String) : Bool := name.toList.head? == some '_'

namespace Settings

/-- The settings after a name is set on them. -/
def assign (settings : Settings) (name : String) (value : Value) :
    Except AssignmentFault Settings :=
  if isPrivateName name then
    match ReservedName.ofName? name with
    | some reserved => .error (reserved.fault value)
    | none => .ok settings
  else .error .frozen

/-- A name is set exactly when it is private and not reserved, and then the
settings are what they were. -/
theorem assign_eq_ok_iff {settings after : Settings} {name : String} {value : Value} :
    settings.assign name value = .ok after ↔
      after = settings ∧ isPrivateName name = true ∧ ReservedName.ofName? name = none := by
  unfold assign
  split
  · rename_i isPrivate
    split
    · rename_i reserved found
      simp [found]
    · rename_i found
      simp [isPrivate, found, eq_comm]
  · rename_i isPublic
    simp [isPublic]

end Settings

/-! ## Examples -/

example : ({} : Settings).assign "_x" (.int 1) = .ok {} := by rfl
example : ({} : Settings).assign "_" .null = .ok {} := by rfl
example : ({} : Settings).assign "" .null = .error .frozen := by rfl
example : ({} : Settings).assign "marker" (.text "!") = .error .frozen := by rfl
example : ({} : Settings).assign "__class__" (.int 1) = .error .wrongType := by rfl
example : ({} : Settings).assign "__dict__" (.map []) = .error .noSettings := by rfl
example : ({} : Settings).assign "__dict__" .null = .error .wrongType := by rfl

end MarkupSpec
