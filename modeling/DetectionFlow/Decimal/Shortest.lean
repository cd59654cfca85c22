import DetectionFlow.Double

/-!
# Decimals near a double

The decimals that stand for a double in a text: the shortest one that reads back as the same
double (`Decimal.shortest`), and the one with a given count of significant digits
(`Decimal.significant`). Both compare exact fractions of natural numbers.
-/

namespace DetectionFlow

-- Powers are those of the core library, so that they are the same whatever is imported.
attribute [local instance (high)] instPowNat

/-- The number `coefficient * 10 ^ exponent`. -/
structure Decimal where
  coefficient : Nat
  exponent : Int
  deriving DecidableEq, Repr

namespace Decimal

/-- The decimal digits of a number, most significant first. -/
def digitsOf (n : Nat) : List Char := Nat.toDigits 10 n

/-- How many decimal digits a number has. -/
def digitCount (n : Nat) : Nat := (digitsOf n).length

/-- The power of ten of the first digit of a positive count of units. -/
def leadingPlace (units : Nat) : Int :=
  (digitCount (units * 10 ^ (400 : Nat) / Double.unit) : Int) - 401

theorem leadingPlace_eq (units : Nat) :
    leadingPlace units = (digitCount (units * 10 ^ (400 : Nat) / Double.unit) : Int) - 401 := rfl

-- Unfolding the power would compute it.
attribute [irreducible] leadingPlace

/-- The fraction `units / 10 ^ place`, as numerator and denominator. -/
def onGrid (units : Nat) (place : Int) : Nat × Nat :=
  if 0 ≤ place then (units, Double.unit * 10 ^ place.toNat)
  else (units * 10 ^ (-place).toNat, Double.unit)

/-- The decimal of `count` significant digits nearest to a positive count of units, a half to the
even neighbour. -/
def significant (units count : Nat) : Decimal :=
  let place := leadingPlace units - count + 1
  let (num, den) := onGrid units place
  ⟨Double.roundQuotient num den, place⟩

/-- The distances, in quarters of a unit, to the ends of the interval of numbers that round to a
double: below it and above it. Below a power of two the doubles lie twice as close. -/
def halfGaps (units : Nat) : Nat × Nat :=
  let spacing := 2 ^ (units.log2 - 52)
  let low := if units = spacing * 2 ^ (52 : Nat) ∧ 1 < spacing then spacing else 2 * spacing
  (low, 2 * spacing)

/-- `candidate * 10 ^ place` reads back as the double of `units`. The ends of the interval belong
to the double with the even significand. -/
def readsBack (units : Nat) (place : Int) (candidate : Nat) : Bool :=
  let (_, den) := onGrid units place
  let scale := if 0 ≤ place then 1 else 10 ^ (-place).toNat
  let (low, high) := halfGaps units
  -- All three numbers count quarters of a unit on the same scale.
  let number := 4 * candidate * den
  let least := (4 * units - low) * scale
  let most := (4 * units + high) * scale
  if units / 2 ^ (units.log2 - 52) % 2 = 0 then least ≤ number && number ≤ most
  else least < number && number < most

/-- Of the neighbours of a number on the grid, the one that reads back. When both do, `nearer` says
which of them is the nearer one. -/
def choose? (place : Int) (below nearer : Nat) : Bool → Bool → Option Decimal
  | true, true => some ⟨nearer, place⟩
  | true, false => some ⟨below, place⟩
  | false, true => some ⟨below + 1, place⟩
  | false, false => none

/-- The decimal of at most `count` digits that reads back, if there is one: of the two neighbours
on the grid the nearer, and of two equally near the even one. -/
def candidate? (units count : Nat) : Option Decimal :=
  let place := leadingPlace units - count + 1
  let grid := onGrid units place
  let below := grid.1 / grid.2
  choose? place below (Double.roundQuotient grid.1 grid.2) (readsBack units place below)
    (readsBack units place (below + 1))

/-- The decimal with the fewest digits that reads back as the double of `units`. Seventeen digits
always suffice. -/
def shortest (units : Nat) : Decimal :=
  ((List.range 17).findSome? fun n => candidate? units (n + 1)).getD (significant units 17)

/-- The digits of a coefficient without the zeros it ends with. -/
def strippedDigits (coefficient : Nat) : List Char :=
  ((digitsOf coefficient).reverse.dropWhile (· = '0')).reverse

/-- The digits of a decimal and the power of ten of the first of them. Zero has the one digit
zero. -/
def leading (d : Decimal) : List Char × Int :=
  if d.coefficient = 0 then (['0'], 0)
  else (strippedDigits d.coefficient, d.exponent + digitCount d.coefficient - 1)

end Decimal
end DetectionFlow
