import MarkupSpec.Error
import MarkupSpec.Text.Alphanumeric
import MarkupSpec.Text.Blank

/-!
# Settings

What a build is told beforehand: the character that marks special keys, the
version of the documents it makes, how deep a spec may nest, and how much of a
location its messages show.

A marker is a single character that is neither a letter nor a digit nor blank,
and a depth limit is positive.  Both are part of the type.
-/

namespace MarkupSpec

/-- May the character mark special keys? -/
def isMarkerChar (c : Char) : Bool := !Text.isAlphanumeric c && !Text.isBlank c

/-- The character that special keys begin with. -/
structure Marker where
  char : Char
  isSymbol : isMarkerChar char = true := by decide
deriving DecidableEq, Repr

/-- How deep a spec may nest. -/
structure DepthLimit where
  depth : Nat
  positive : 0 < depth := by decide
deriving DecidableEq, Repr

/-- The marker where none is given. -/
def Marker.usual : Marker := { char := '#' }

/-- What a build is told beforehand. -/
structure Settings where
  marker : Marker := .usual
  xmlVersion : String := "1.0"
  maxDepth : Option DepthLimit := none
  errorLevel : ErrorLevel := .user
deriving DecidableEq, Repr

instance : Inhabited Settings := ⟨{}⟩

namespace Marker

/-- The marker in front of a word. -/
def mark (marker : Marker) (word : String) : String := String.ofList (marker.char :: word.toList)

/-- What follows the marker, in a text that begins with it. -/
def unmark? (marker : Marker) (key : String) : Option String :=
  match key.toList with
  | c :: rest => if c = marker.char then some (String.ofList rest) else none
  | [] => none

@[simp]
theorem unmark?_mark (marker : Marker) (word : String) :
    marker.unmark? (marker.mark word) = some word := by
  simp [mark, unmark?]

/-- A text begins with the marker exactly when it is a marked word. -/
theorem unmark?_eq_some_iff {marker : Marker} {key word : String} :
    marker.unmark? key = some word ↔ key = marker.mark word := by
  constructor
  · intro h
    unfold unmark? at h
    split at h
    · rename_i c rest chars
      split at h
      · rename_i same
        have : key = String.ofList (c :: rest) := by rw [← chars, String.ofList_toList]
        simp only [Option.some.injEq] at h
        rw [this, same, ← h]
        simp [mark]
      · exact absurd h (by simp)
    · exact absurd h (by simp)
  · rintro rfl
    exact unmark?_mark marker word

end Marker

/-- Is the value a special key, a text that begins with the marker? -/
def Settings.isMarkerKey (settings : Settings) (key : Value) : Bool :=
  match key with
  | .text content => (settings.marker.unmark? content).isSome
  | _ => false

example : ({} : Settings).isMarkerKey (.text "#p") = true := by decide
example : ({} : Settings).isMarkerKey (.text "p#") = false := by decide

end MarkupSpec
