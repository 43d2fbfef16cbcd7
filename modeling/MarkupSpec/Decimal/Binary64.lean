/-!
# Binary floating point numbers

A `Binary64` is what a 64 bit floating point number stands for: a signed
natural number times a power of two, an infinity, or no number.  Keeping the
meaning in place of the bits makes equality and size plain arithmetic.
-/

namespace MarkupSpec

/-- The meaning of a 64 bit floating point number.  A finite one is
`mantissa * 2 ^ exponent`, with a sign that a zero has too. -/
inductive Binary64 where
  | nan
  | infinite (negative : Bool)
  | finite (negative : Bool) (mantissa : Nat) (exponent : Int)
deriving DecidableEq, Repr, Inhabited

namespace Binary64

/-- Read the sign, the eleven exponent bits and the 52 fraction bits. -/
def ofBits (bits : Nat) : Binary64 :=
  let negative : Bool := bits / Nat.pow 2 63 % 2 == 1
  let field : Nat := bits / Nat.pow 2 52 % Nat.pow 2 11
  let fraction : Nat := bits % Nat.pow 2 52
  if field = 2047 then
    if fraction = 0 then .infinite negative else .nan
  else if field = 0 then .finite negative fraction (-1074)
  else .finite negative (Nat.pow 2 52 + fraction) ((field : Int) - 1075)

/-- Is the number a zero of either sign? -/
def isZero : Binary64 → Bool
  | .finite _ mantissa _ => mantissa == 0
  | _ => false

/-- The integer that the number equals, if there is one. -/
def toInt? : Binary64 → Option Int
  | .finite negative mantissa exponent =>
      let signed (size : Nat) : Int := if negative then -(size : Int) else size
      if mantissa = 0 then some 0
      else
        match exponent with
        | .ofNat up => some (signed (mantissa * Nat.pow 2 up))
        | .negSucc down =>
            let unit := Nat.pow 2 (down + 1)
            if mantissa % unit = 0 then some (signed (mantissa / unit)) else none
  | _ => none

/-- Are the numbers equal in value?  The two zeros are, and no number that is
not one. -/
def same : Binary64 → Binary64 → Bool
  | .finite n₁ m₁ e₁, .finite n₂ m₂ e₂ =>
      if m₁ = 0 then m₂ == 0 else n₁ == n₂ && m₁ == m₂ && e₁ == e₂
  | .infinite n₁, .infinite n₂ => n₁ == n₂
  | _, _ => false

/-- A number equals itself in value exactly when it is a number. -/
theorem same_self (x : Binary64) : x.same x = true ↔ x ≠ .nan := by
  cases x with
  | nan => simp [same]
  | infinite negative => simp [same]
  | finite negative mantissa exponent =>
      by_cases h : mantissa = 0 <;> simp [same, h]

/-! ## Examples -/

example : ofBits 0x3ff8000000000000 = .finite false (3 * 2 ^ 51) (-52) := by decide
example : (ofBits 0x4014000000000000).toInt? = some 5 := by decide
example : (ofBits 0x3ff8000000000000).toInt? = none := by decide
example : (ofBits 0x8000000000000000).toInt? = some 0 := by decide

end Binary64

end MarkupSpec
