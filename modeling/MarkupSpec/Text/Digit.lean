import MarkupSpec.Text.CharRange

/-!
# Decimal digits

The decimal digits of a script are ten code points in a row, from zero to nine.
The table lists the zeros of Unicode 14, in ascending order.
-/

namespace MarkupSpec.Text

/-- The code points of the zeros of all scripts. -/
def zeros : List Nat := [
  0x30, 0x660, 0x6f0, 0x7c0, 0x966, 0x9e6, 0xa66, 0xae6, 0xb66, 0xbe6, 0xc66, 0xce6, 0xd66, 0xde6,
  0xe50, 0xed0, 0xf20, 0x1040, 0x1090, 0x17e0, 0x1810, 0x1946, 0x19d0, 0x1a80, 0x1a90, 0x1b50,
  0x1bb0, 0x1c40, 0x1c50, 0xa620, 0xa8d0, 0xa900, 0xa9d0, 0xa9f0, 0xaa50, 0xabf0, 0xff10, 0x104a0,
  0x10d30, 0x11066, 0x110f0, 0x11136, 0x111d0, 0x112f0, 0x11450, 0x114d0, 0x11650, 0x116c0,
  0x11730, 0x118e0, 0x11950, 0x11c50, 0x11d50, 0x11da0, 0x16a60, 0x16ac0, 0x16b50, 0x1d7ce,
  0x1d7d8, 0x1d7e2, 0x1d7ec, 0x1d7f6, 0x1e140, 0x1e2f0, 0x1e950, 0x1fbf0]

/-- The number that a digit of any script stands for. -/
def digit? (c : Char) : Option Nat :=
  (zeros.find? fun start => start ≤ c.toNat && c.toNat ≤ start + 9).map (c.toNat - ·)

/-- The number that a digit of ASCII stands for. -/
def asciiDigit? (c : Char) : Option Nat :=
  if '0' ≤ c ∧ c ≤ '9' then some (c.toNat - '0'.toNat) else none

/-- Is the character a digit of ASCII? -/
def isAsciiDigit (c : Char) : Bool := (asciiDigit? c).isSome

/-- A digit stands for a number below ten. -/
theorem lt_ten_of_digit? {c : Char} {n : Nat} (h : digit? c = some n) : n < 10 := by
  obtain ⟨start, found, rfl⟩ := Option.map_eq_some_iff.mp h
  have inRow := List.find?_some found
  simp only [Bool.and_eq_true, decide_eq_true_eq] at inRow
  omega

/-- The number that digits of ASCII stand for, read on from what is there.  Any
other character counts as a zero. -/
def readDigits (sofar : Nat) (chars : List Char) : Nat :=
  chars.foldl (fun number c => 10 * number + (asciiDigit? c).getD 0) sofar

/-- Digits in two parts are read one part after the other. -/
@[simp]
theorem readDigits_append (sofar : Nat) (front back : List Char) :
    readDigits sofar (front ++ back) = readDigits (readDigits sofar front) back := by
  simp [readDigits]

/-- The characters without the underscores, each of which stands between two
digits of ASCII.  The flag says whether a digit comes before. -/
def dropUnderscores? (afterDigit : Bool) : List Char → Option (List Char)
  | [] => some []
  | c :: rest =>
      if c = '_' then
        if afterDigit && rest.head?.any isAsciiDigit then dropUnderscores? false rest else none
      else (dropUnderscores? (isAsciiDigit c) rest).map (c :: ·)
termination_by structural chars => chars

example : digit? '7' = some 7 := by decide
example : digit? '\u0661' = some 1 := by decide
example : digit? 'a' = none := by decide
example : readDigits 0 "1204".toList = 1204 := by decide
example : dropUnderscores? false "1_0.5".toList = some "10.5".toList := by decide
example : dropUnderscores? false "1_.5".toList = none := by decide

end MarkupSpec.Text
