import MarkupSpec.Decimal.Shortest

/-!
# The layout of a decimal

The shortest digits of a number say nothing of how they are set out.  A
`Layout` fixes that: the range of exponents that are written with a point among
the digits, the least number of digits of an exponent, and the words for the
numbers that have no digits.
-/

namespace MarkupSpec.Decimal

/-- How the digits of a number are set out. -/
structure Layout where
  /-- The least exponent of the first digit that is written with a point. -/
  leastPositional : Int
  /-- The first exponent that is written as one. -/
  firstScientific : Int
  /-- The least number of digits of an exponent. -/
  exponentWidth : Nat
  /-- What stands for no number. -/
  nan : String
  /-- What stands for infinity, without its sign. -/
  infinity : String

/-- Numbers from a ten-thousandth to ten to the sixteenth have a point among
their digits, with at least one digit on either side.  All others have a signed
exponent of at least two digits. -/
def plainLayout : Layout :=
  { leastPositional := -4
    firstScientific := 16
    exponentWidth := 2
    nan := "nan"
    infinity := "inf" }

/-- The decimal digits of a number, most significant first. -/
def digitChars (n : Nat) : List Char := Nat.toDigits 10 n

/-- The digits with the point after the first `whole` of them. -/
def positional (digits : List Char) (whole : Int) : List Char :=
  if whole ≤ 0 then '0' :: '.' :: List.replicate (-whole).toNat '0' ++ digits
  else
    let places := whole.toNat
    let front := digits.take places ++ List.replicate (places - digits.length) '0'
    let back := digits.drop places
    front ++ '.' :: (if back.isEmpty then ['0'] else back)

/-- The digits with a point after the first of them and an exponent. -/
def scientific (layout : Layout) (digits : List Char) (exponent : Int) : List Char :=
  let power := digitChars exponent.natAbs
  let mantissa :=
    match digits with
    | first :: second :: rest => first :: '.' :: second :: rest
    | short => short
  let sign := if exponent < 0 then '-' else '+'
  mantissa ++ 'e' :: sign ::
    (List.replicate (layout.exponentWidth - power.length) '0' ++ power)

/-- The text of a positive decimal, or of zero. -/
def Scaled.layOut (layout : Layout) (number : Scaled) : List Char :=
  if number.digits = 0 then ['0', '.', '0']
  else
    let digits := digitChars number.digits
    let lead := number.exponent + digits.length - 1
    if layout.leastPositional ≤ lead ∧ lead < layout.firstScientific then
      positional digits (lead + 1)
    else scientific layout digits lead

end MarkupSpec.Decimal

namespace MarkupSpec.Binary64

open MarkupSpec.Decimal

/-- The text of a floating point number. -/
def text (number : Binary64) : String :=
  match number with
  | .nan => plainLayout.nan
  | .infinite negative => (if negative then "-" else "") ++ plainLayout.infinity
  | .finite negative mantissa exponent =>
      (if negative then "-" else "") ++
        String.ofList ((shortest mantissa exponent).layOut plainLayout)

/-! ## Examples -/

example : (ofBits 0x8000000000000000).text = "-0.0" := by decide +kernel
example : (ofBits 0x3fd3333333333334).text = "0.30000000000000004" := by decide +kernel
example : (ofBits 0x4341c37937e08000).text = "1e+16" := by decide +kernel
example : (ofBits 0x3ee4f8b588e368f1).text = "1e-05" := by decide +kernel
example : (ofBits 0x4008000000000000).text = "3.0" := by decide +kernel
example : (ofBits 0x7ff0000000000000).text = "inf" := by decide +kernel

end MarkupSpec.Binary64
