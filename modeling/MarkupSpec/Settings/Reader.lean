import MarkupSpec.Decimal.Reader
import MarkupSpec.Settings.Basic

/-!
# Reading settings

Settings are read from fields, each a name with a value.  A field that is not
there has its default, and a field of an unknown name is ignored.  All faults are
reported, in the order of the settings.

A text may be given as a byte string.  A depth may be given as a truth value, a
float without a fraction, or a text that reads as an integer: digits, a single
underscore between two of them, a sign in front, a fraction of zeros behind, and
padding around.

The zeros in front are dropped before the rest is looked at, and the underscores
among them with them.  So several underscores may stand there, and a minus may
follow.  A text that begins with too many digits is too long, whatever follows;
one that has too many digits only once it is cleaned does not read as an integer.
-/

namespace MarkupSpec

/-- The settings, by their place in the order of reports. -/
inductive SettingField where
  | marker
  | xmlVersion
  | maxDepth
  | errorLevel
deriving DecidableEq, Repr

/-- The name of a setting. -/
def SettingField.name : SettingField → String
  | .marker => "marker"
  | .xmlVersion => "xml_version"
  | .maxDepth => "max_depth"
  | .errorLevel => "error_level"

/-- What is wrong with a field. -/
inductive SettingFault where
  | notText
  | notUnicode
  | badMarker
  | notInteger
  | unreadable
  | tooLong
  | fractional
  | notFinite
  | tooSmall
  | badLevel
  /-- Settings are not changed once they are made. -/
  | frozen
deriving DecidableEq, Repr

/-- The wording of a fault. -/
def SettingFault.message : SettingFault → String
  | .notText => "Input should be a valid string"
  | .notUnicode => "Input should be a valid string, unable to parse raw data as a unicode string"
  | .badMarker => "Value error, marker must be a single non-alphanumeric character"
  | .notInteger => "Input should be a valid integer"
  | .unreadable => "Input should be a valid integer, unable to parse string as an integer"
  | .tooLong => "Unable to parse input string as an integer, exceeded maximum size"
  | .fractional => "Input should be a valid integer, got a number with a fractional part"
  | .notFinite => "Input should be a finite number"
  | .tooSmall => "Input should be greater than or equal to 1"
  | .badLevel => "Input should be \x27user\x27 or \x27developer\x27"
  | .frozen => "Instance is frozen"

/-! ## Integers in texts -/

namespace IntegerText

/-- What is left of a text when zeros and underscores in front are dropped, given
the character before it: digits, or a minus.  In front of a point one character
is left, and so it is at the end. -/
def behindZeros? (last : Char) : List Char → Option (List Char)
  | [] => some [last]
  | c :: rest =>
      if c = '0' || c = '_' then behindZeros? c rest
      else if c = '-' || Text.isAsciiDigit c then some (c :: rest)
      else if c = '.' then some (last :: c :: rest)
      else none
termination_by structural chars => chars

/-- A text that begins with a digit, without zeros in front. -/
def dropZeros? : List Char → Option (List Char)
  | [] => none
  | c :: rest =>
      if c = '0' then behindZeros? c rest
      else if Text.isAsciiDigit c then some (c :: rest)
      else none

/-- The text in front of a point and zeros, of which there is at least one. -/
def dropZeroFraction (chars : List Char) : List Char :=
  match Text.splitAt? '.' chars with
  | some (whole, zeros) =>
      if !zeros.isEmpty && zeros.all (· == '0') then whole else chars
  | none => chars

/-- Do two underscores stand in a row? -/
def hasDoubleUnderscore : List Char → Bool
  | '_' :: '_' :: _ => true
  | _ :: rest => hasDoubleUnderscore rest
  | [] => false
termination_by structural chars => chars

/-- The text without its underscores, if none is at an end or beside another
one. -/
def dropUnderscores (chars : List Char) : List Char :=
  let isEnd (c : Option Char) : Bool := c == some '_'
  if isEnd chars.head? || isEnd chars.getLast? || hasDoubleUnderscore chars then chars
  else chars.filter (· != '_')

/-- The greatest number of digits that are read. -/
def lengthLimit : Nat := 4300

/-- Does a text as it stands begin with too many digits, or a minus and too many
digits?  A zero in front is not the first of many. -/
def isTooLong (chars : List Char) : Bool :=
  let unsigned := if chars.head? = some '-' then chars.tail else chars
  let digits := unsigned.takeWhile Text.isAsciiDigit
  digits.head? != some '0' && digits.length > lengthLimit

/-- The number that a text of digits stands for.  A zero stands alone. -/
def natural? (chars : List Char) : Option Nat :=
  if chars.isEmpty || chars.length > lengthLimit || !chars.all Text.isAsciiDigit then none
  else if chars.head? = some '0' && chars.length > 1 then none
  else some (Text.readDigits 0 chars)

/-- The integer that a text without zeros in front stands for.  A minus is read
unless there was one in front of the zeros. -/
def signed? (negative : Bool) : List Char → Option Int
  | '-' :: rest => if negative then none else (natural? rest).map fun size => -(size : Int)
  | chars => (natural? chars).map fun size => if negative then -(size : Int) else size

/-- The integer that a text stands for once it is cleaned. -/
def cleaned? (chars : List Char) : Option Int := do
  let (negative, rest) := Decimal.sign (Text.trim chars)
  signed? negative (dropUnderscores (dropZeroFraction (← dropZeros? rest)))

/-- The integer that a text stands for. -/
def read (text : String) : Except SettingFault Int :=
  if isTooLong text.toList then .error .tooLong
  else
    match cleaned? text.toList with
    | some number => .ok number
    | none => .error .unreadable

end IntegerText

/-! ## Fields -/

/-- The text that a byte string spells. -/
def textOfBytes? (content : List Nat) : Option String :=
  String.fromUTF8? ⟨(content.map UInt8.ofNat).toArray⟩

namespace Settings

/-- A field that is a text. -/
def readText : Value → Except SettingFault String
  | .text content => .ok content
  | .bytes _ content =>
      match textOfBytes? content with
      | some text => .ok text
      | none => .error .notUnicode
  | _ => .error .notText

/-- A text of a single character that may be a marker. -/
def readMarker (value : Value) : Except SettingFault Marker := do
  match (← readText value).toList with
  | [c] => if h : isMarkerChar c = true then .ok ⟨c, h⟩ else .error .badMarker
  | _ => .error .badMarker

/-- The integer that a value stands for. -/
def readInteger : Value → Except SettingFault Int
  | .bool truth => .ok (if truth then 1 else 0)
  | .int number => .ok number
  | .float number =>
      match number with
      | .nan | .infinite _ => .error .notFinite
      | .finite .. =>
          match number.toInt? with
          | none => .error .fractional
          | some whole => if whole.natAbs < Nat.pow 2 63 then .ok whole else .error .tooLong
  | .nan _ => .error .notFinite
  | .text content => IntegerText.read content
  | .bytes false content =>
      match textOfBytes? content with
      | some text => IntegerText.read text
      | none => .error .unreadable
  | _ => .error .notInteger

/-- A depth, or null for no limit. -/
def readDepth (value : Value) : Except SettingFault (Option DepthLimit) := do
  if value.isNull then .ok none
  else
    let number ← readInteger value
    if h : 0 < number.toNat then .ok (some ⟨number.toNat, h⟩) else .error .tooSmall

/-- The word for a level of detail. -/
def readLevel : Value → Except SettingFault ErrorLevel
  | .text content =>
      match ErrorLevel.ofWord? content with
      | some level => .ok level
      | none => .error .badLevel
  | _ => .error .badLevel

/-- A field by its reader, or its default. -/
def field {α : Type} (fields : List (String × Value)) (which : SettingField) (default : α)
    (read : Value → Except SettingFault α) : Except SettingFault α :=
  match fields.lookup which.name with
  | some value => read value
  | none => .ok default

/-- The fault of a field, if it has one. -/
def faultOf {α : Type} (which : SettingField) :
    Except SettingFault α → List (SettingField × SettingFault)
  | .ok _ => []
  | .error fault => [(which, fault)]

/-- Settings from their fields, or all their faults. -/
def read (fields : List (String × Value)) :
    Except (List (SettingField × SettingFault)) Settings :=
  let base : Settings := {}
  let marker := field fields .marker base.marker readMarker
  let xmlVersion := field fields .xmlVersion base.xmlVersion readText
  let maxDepth := field fields .maxDepth base.maxDepth readDepth
  let errorLevel := field fields .errorLevel base.errorLevel readLevel
  match marker, xmlVersion, maxDepth, errorLevel with
  | .ok marker, .ok xmlVersion, .ok maxDepth, .ok errorLevel =>
      .ok { marker, xmlVersion, maxDepth, errorLevel }
  | _, _, _, _ =>
      .error (faultOf .marker marker ++ faultOf .xmlVersion xmlVersion ++
        faultOf .maxDepth maxDepth ++ faultOf .errorLevel errorLevel)

/-- No fields give the default settings. -/
theorem read_nil : read [] = .ok {} := rfl

end Settings

/-! ## Examples -/

example : (IntegerText.read " 1_0 ").toOption = some 10 := by decide +kernel
example : (IntegerText.read "+3.00").toOption = some 3 := by decide +kernel
example : (IntegerText.read "0__7").toOption = some 7 := by decide +kernel
example : (IntegerText.read "0-1").toOption = some (-1) := by decide +kernel
example : (IntegerText.read "-0-1").toOption = none := by decide +kernel
example : (IntegerText.read "1__0").toOption = none := by decide +kernel
example : (IntegerText.read "3.").toOption = none := by decide +kernel
example : (IntegerText.read "3.5").toOption = none := by decide +kernel
example : (IntegerText.read "0_").toOption = none := by decide +kernel

end MarkupSpec
