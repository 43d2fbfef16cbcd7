import MarkupSpec.Decimal.Binary64

/-!
# The shortest decimal

A finite binary number is written with the fewest decimal digits that read back
as the same number.  A decimal reads back when it lies in the interval of the
reals that round to the number: half a step of the last binary place to each
side, a quarter below a power of two, with the ends included when the mantissa
is even.

The search goes through the decimal grids from coarse to fine.  On each it
tests the two neighbours of the number, in exact arithmetic, and stops at the
first grid with a hit.  Of two hits it takes the nearer, and of two equally
near the even one.
-/

namespace MarkupSpec.Decimal

/-- A decimal number `digits * 10 ^ exponent`. -/
structure Scaled where
  digits : Nat
  exponent : Int
deriving DecidableEq, Repr

/-- The interval of the reals that read back as one binary number, and the
number itself, all four over `unit`. -/
structure ReadBack where
  low : Nat
  value : Nat
  high : Nat
  unit : Nat
  closed : Bool

/-- The interval of `mantissa * 2 ^ exponent`, in quarters of the last place. -/
def ReadBack.of (mantissa : Nat) (exponent : Int) : ReadBack :=
  let below := if mantissa = Nat.pow 2 52 && decide (-1074 < exponent) then 1 else 2
  let up := Nat.pow 2 (exponent - 2).toNat
  { low := (4 * mantissa - below) * up
    value := 4 * mantissa * up
    high := (4 * mantissa + 2) * up
    unit := Nat.pow 2 (2 - exponent).toNat
    closed := mantissa % 2 = 0 }

/-- The interval with the grid of `10 ^ exponent` as its unit. -/
def ReadBack.onGrid (interval : ReadBack) (exponent : Int) : ReadBack :=
  let finer := Nat.pow 10 (-exponent).toNat
  { interval with
    low := interval.low * finer
    value := interval.value * finer
    high := interval.high * finer
    unit := interval.unit * Nat.pow 10 exponent.toNat }

/-- Does a point of the grid lie in the interval? -/
def ReadBack.holds (interval : ReadBack) (point : Nat) : Bool :=
  let place := point * interval.unit
  if interval.closed then interval.low ≤ place && place ≤ interval.high
  else interval.low < place && place < interval.high

/-- The point of the grid to write, if a neighbour of the number reads back. -/
def ReadBack.pick? (interval : ReadBack) : Option Nat :=
  let down := interval.value / interval.unit
  let toDown := interval.value - down * interval.unit
  let toUp := (down + 1) * interval.unit - interval.value
  match interval.holds down, interval.holds (down + 1) with
  | true, true =>
      if toDown < toUp || toDown == toUp && down % 2 == 0 then some down else some (down + 1)
  | true, false => some down
  | false, true => some (down + 1)
  | false, false => none

/-- The decimal exponent of the first digit: the greatest power of ten that is
not above the number, looked for from `start` downward. -/
def leadingExponent (value unit : Nat) : Nat → Int → Int
  | 0, start => start
  | steps + 1, start =>
      if unit * Nat.pow 10 start.toNat ≤ value * Nat.pow 10 (-start).toNat then start
      else leadingExponent value unit steps (start - 1)
termination_by structural steps => steps

/-- The number without the zeros at its end. -/
def Scaled.trim : Nat → Scaled → Scaled
  | 0, number => number
  | steps + 1, number =>
      if number.digits ≠ 0 ∧ number.digits % 10 = 0 then
        Scaled.trim steps ⟨number.digits / 10, number.exponent + 1⟩
      else number
termination_by structural steps => steps

/-- Try grids from coarse to fine.  Seventeen digits always read back. -/
def searchGrids (interval : ReadBack) : Nat → Int → Scaled
  | 0, grid => ⟨(interval.onGrid grid).value / (interval.onGrid grid).unit, grid⟩
  | finer + 1, grid =>
      match (interval.onGrid grid).pick? with
      | some point => ⟨point, grid⟩
      | none => searchGrids interval finer (grid - 1)
termination_by structural finer => finer

/-- The shortest decimal that reads back as `mantissa * 2 ^ exponent`. -/
def shortest (mantissa : Nat) (exponent : Int) : Scaled :=
  if mantissa = 0 then ⟨0, 0⟩
  else
    let interval := ReadBack.of mantissa exponent
    -- the decimal logarithm of two is just under 0.30103
    let bound : Int := ((mantissa.log2 : Int) + 1 + exponent) * 30103 / 100000 + 1
    let lead := leadingExponent interval.value interval.unit 10 bound
    (searchGrids interval 17 lead).trim 20

/-! ## Examples -/

example : shortest (3 * 2 ^ 51) (-52) = ⟨15, -1⟩ := by decide +kernel
example : shortest 1 (-1074) = ⟨5, -324⟩ := by decide +kernel

end MarkupSpec.Decimal
