import MarkupSpec.Text.CharRange

/-!
# Blank characters

A character is blank when it separates words: the ASCII white space, the four
information separators from U+001C on, and the spaces and line separators of
other scripts.

Where a text is read as a number, the blanks around it do not count.  There the
information separators are no blanks.
-/

namespace MarkupSpec.Text

/-- The blank code points. -/
def blankRanges : List (Nat × Nat) := [
  (0x9, 0xd), (0x1c, 0x20), (0x85, 0x85), (0xa0, 0xa0), (0x1680, 0x1680), (0x2000, 0x200a),
  (0x2028, 0x2029), (0x202f, 0x202f), (0x205f, 0x205f), (0x3000, 0x3000)]

/-- Does the character separate words? -/
def isBlank (c : Char) : Bool := inRanges blankRanges c.toNat

/-- Is the character dropped at the ends of a number? -/
def isPadding (c : Char) : Bool := isBlank c && !(0x1c ≤ c.toNat && c.toNat ≤ 0x1f)

/-- The characters without the padding at both ends. -/
def trim (chars : List Char) : List Char :=
  ((chars.dropWhile isPadding).reverse.dropWhile isPadding).reverse

/-- Every white space character of ASCII is blank. -/
theorem isBlank_of_isWhitespace {c : Char} (h : c.isWhitespace = true) : isBlank c = true := by
  simp only [Char.isWhitespace, Bool.or_eq_true, decide_eq_true_eq] at h
  rcases h with ((rfl | rfl) | rfl) | rfl <;> decide

example : trim " 7\t".toList = ['7'] := by decide
example : trim "\x1c7".toList = ['\x1c', '7'] := by decide

end MarkupSpec.Text
