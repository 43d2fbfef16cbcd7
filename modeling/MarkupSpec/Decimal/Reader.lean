import MarkupSpec.Decimal.Binary64
import MarkupSpec.Text.Blank
import MarkupSpec.Text.Digit

/-!
# Reading decimals

A text is read as the binary number nearest to the decimal that it spells, and
of two that are as near as the one with the even mantissa
(`Binary64.ofDecimal`).  What is too great for that is an infinity.

A decimal is spelled with digits, of which there is at least one, a point among
or beside them, and an exponent after the letter `e` (`spelled?`).  The words for
the infinities and for no number are read too, in any case, a sign may come in
front, an underscore may stand between two digits, and padding around it all
does not count.  The digits may be those of any script.
-/

namespace MarkupSpec

/-! ## Rounding -/

namespace Decimal

/-- The natural number nearest to a quotient, and of two as near the even one. -/
def roundQuotient (num den : Nat) : Nat :=
  let floor := num / den
  let twice := 2 * (num % den)
  if twice < den || twice = den && floor % 2 = 0 then floor else floor + 1

/-- A rounded quotient is off by at most a half. -/
theorem roundQuotient_near (num : Nat) {den : Nat} (positive : 0 < den) :
    2 * num ≤ (2 * roundQuotient num den + 1) * den ∧
      2 * (roundQuotient num den * den) ≤ 2 * num + den := by
  have whole := Nat.div_add_mod num den
  have small := Nat.mod_lt num positive
  unfold roundQuotient
  generalize num / den = floor at *
  generalize num % den = rest at *
  have scaled : den * floor = floor * den := Nat.mul_comm ..
  simp only
  split
  · rename_i down
    simp only [Bool.or_eq_true, Bool.and_eq_true, decide_eq_true_eq] at down
    grind
  · rename_i up
    simp only [Bool.or_eq_true, Bool.and_eq_true, decide_eq_true_eq] at up
    grind

/-- A quotient over a power of two, as a quotient. -/
def overPower (num den : Nat) (exponent : Int) : Nat × Nat :=
  (num * Nat.pow 2 (-exponent).toNat, den * Nat.pow 2 exponent.toNat)

/-- The exponent of the last binary place of a positive quotient: the one that
leaves 53 places, but none below that of the smallest numbers. -/
def lastPlace (num den : Nat) : Int :=
  let guess : Int := (num.log2 : Int) - den.log2 - 52
  let (above, below) := overPower num den guess
  max (-1074) (if above < Nat.pow 2 52 * below then guess - 1 else guess)

/-- The binary number nearest to a positive quotient. -/
def nearest (negative : Bool) (num den : Nat) : Binary64 :=
  let exponent := lastPlace num den
  let (above, below) := overPower num den exponent
  let rounded := roundQuotient above below
  let carried := rounded = Nat.pow 2 53
  let mantissa := if carried then Nat.pow 2 52 else rounded
  let exponent := if carried then exponent + 1 else exponent
  if 971 < exponent then .infinite negative else .finite negative mantissa exponent

end Decimal

/-- The number with so many decimal digits, for a positive number. -/
def Decimal.width (n : Nat) : Nat := (Nat.toDigits 10 n).length

/-- The binary number nearest to `digits * 10 ^ exponent`.  Powers far outside of
what is represented are not computed. -/
def Binary64.ofDecimal (negative : Bool) (digits : Nat) (exponent : Int) : Binary64 :=
  let magnitude : Int := Decimal.width digits + exponent
  if digits = 0 || magnitude < -330 then .finite negative 0 (-1074)
  else if 310 < magnitude then .infinite negative
  else Decimal.nearest negative (digits * Nat.pow 10 exponent.toNat) (Nat.pow 10 (-exponent).toNat)

/-! ## Spelling -/

namespace Decimal

/-- The sign in front of a text, if it is negative, and the rest. -/
def sign : List Char → Bool × List Char
  | '-' :: rest => (true, rest)
  | '+' :: rest => (false, rest)
  | chars => (false, chars)

/-- The digits in front of a text, and the rest. -/
def digits (chars : List Char) : List Char × List Char := chars.span Text.isAsciiDigit

/-- The digits after a point, if the text begins with one, and the rest. -/
def fraction : List Char → List Char × List Char
  | '.' :: rest => digits rest
  | chars => ([], chars)

/-- The exponent that a text is, nothing if it is empty. -/
def power? : List Char → Option Int
  | [] => some 0
  | letter :: rest =>
      let (negative, rest) := sign rest
      let (power, rest) := digits rest
      if letter.toLower = 'e' && !power.isEmpty && rest.isEmpty then
        let size : Int := Text.readDigits 0 power
        some (if negative then -size else size)
      else none

/-- The decimal that a text without a sign spells. -/
def spelled? (negative : Bool) (chars : List Char) : Option Binary64 := do
  let (whole, rest) := digits chars
  let (places, rest) := fraction rest
  let power ← power? rest
  if whole.isEmpty && places.isEmpty then none
  else
    let number := Text.readDigits 0 (whole ++ places)
    some (.ofDecimal negative number (power - places.length))

/-- A digit of any script as the digit of ASCII. -/
def asciiDigit (c : Char) : Char :=
  match Text.digit? c with
  | some n => Char.ofNat ('0'.toNat + n)
  | none => c

end Decimal

open Decimal in
/-- The number that a text stands for. -/
def Binary64.ofText? (text : String) : Option Binary64 := do
  let chars ← Text.dropUnderscores? false ((Text.trim text.toList).map asciiDigit)
  let (negative, rest) := sign chars
  let word := String.ofList (rest.map Char.toLower)
  if word = "nan" then some .nan
  else if word = "inf" || word = "infinity" then some (.infinite negative)
  else spelled? negative rest

/-! ## Examples -/

example : Binary64.ofText? "1.5" = some (.finite false (3 * 2 ^ 51) (-52)) := by decide +kernel
example : Binary64.ofText? " -1_0e-1 " = some (.finite true (2 ^ 52) (-52)) := by decide +kernel
example : Binary64.ofText? "5e-324" = some (.finite false 1 (-1074)) := by decide +kernel
example : Binary64.ofText? "1.8e308" = some (.infinite false) := by decide +kernel
example : Binary64.ofText? "9007199254740993" = some (.finite false (2 ^ 52) 1) := by
  decide +kernel
example : Binary64.ofText? "-Infinity" = some (.infinite true) := by decide +kernel
example : Binary64.ofText? "1e" = none := by decide +kernel
example : Binary64.ofText? "." = none := by decide +kernel

end MarkupSpec
