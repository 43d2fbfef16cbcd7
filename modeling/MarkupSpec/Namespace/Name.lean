import MarkupSpec.Text.Split

/-!
# Qualified names and declaration keys

A qualified name has a qualifier, a colon, and a local part on a single line.
The qualifier is what comes before the first colon and is not empty.  A name
that is not of this form is local as a whole.  One line feed at the end of a
name does not count and is dropped; any other one in the local part keeps the
name from being split.

An attribute key declares a namespace when it is `xmlns`, in any case, alone or
before a colon and a qualifier on a single line.  An empty qualifier stands for
the default namespace.
-/

namespace MarkupSpec

/-- The characters without a line feed at their end. -/
def dropLineFeed (chars : List Char) : List Char :=
  if chars.getLast? = some '\n' then chars.dropLast else chars

/-- A single line, without a line feed at its end.  It may be empty. -/
def singleLine? (chars : List Char) : Option (List Char) :=
  let line := dropLineFeed chars
  if line.contains '\n' then none else some line

/-- A single line that is not empty. -/
def nonemptyLine? (chars : List Char) : Option (List Char) :=
  (singleLine? chars).filter fun line => !line.isEmpty

/-- A name that is not split, without a line feed at its end. -/
def wholeName (name : String) : String :=
  match nonemptyLine? name.toList with
  | some line => String.ofList line
  | none => name

/-- The qualifier and the local part of a name. -/
def splitQualified (name : String) : Option String × String :=
  match Text.splitAt? ':' name.toList with
  | some (before, after) =>
      match before.isEmpty, nonemptyLine? after with
      | false, some line => (some (String.ofList before), String.ofList line)
      | _, _ => (none, wholeName name)
  | none => (none, wholeName name)

/-- Does a character stand for a letter of `xmlns`, in any case?  The long s is
a case of the letter s. -/
def matchesLetter (letter c : Char) : Bool :=
  c == letter || c.toLower == letter || letter == 's' && c == '\u017f'

/-- What follows `xmlns`, in any case. -/
def afterXmlns? : List Char → Option (List Char)
  | c₁ :: c₂ :: c₃ :: c₄ :: c₅ :: rest =>
      if matchesLetter 'x' c₁ && matchesLetter 'm' c₂ && matchesLetter 'l' c₃ &&
          matchesLetter 'n' c₄ && matchesLetter 's' c₅ then some rest
      else none
  | _ => none

/-- The qualifier that an attribute key declares, if it declares any.  The
default namespace has none. -/
def declaredQualifier? (key : String) : Option (Option String) :=
  match afterXmlns? key.toList with
  | some [] | some ['\n'] => some none
  | some (':' :: rest) =>
      (singleLine? rest).map fun line => if line.isEmpty then none else some (String.ofList line)
  | _ => none

/-! ## Names without line feeds -/

theorem singleLine?_of_not_mem {chars : List Char} (h : '\n' ∉ chars) :
    singleLine? chars = some chars := by
  have noEnd : chars.getLast? ≠ some '\n' := fun last => h (List.mem_of_getLast? last)
  simp [singleLine?, dropLineFeed, noEnd, h]

theorem nonemptyLine?_of_not_mem {chars : List Char} (h : '\n' ∉ chars) (nonempty : chars ≠ []) :
    nonemptyLine? chars = some chars := by
  simp [nonemptyLine?, singleLine?_of_not_mem h, nonempty]

/-! ## Examples -/

example : splitQualified "svg:rect" = (some "svg", "rect") := by decide
example : splitQualified ":a" = (none, ":a") := by decide
example : splitQualified "a:" = (none, "a:") := by decide
example : splitQualified "a:b:c" = (some "a", "b:c") := by decide
example : splitQualified "a\n" = (none, "a") := by decide
example : declaredQualifier? "xmlns" = some none := by decide
example : declaredQualifier? "XMLNS:a" = some (some "a") := by decide
example : declaredQualifier? "xmlns:" = some none := by decide
example : declaredQualifier? "xml" = none := by decide

end MarkupSpec
