import DetectionFlow.Decimal.Shortest

/-!
# Number texts

How a double is written. A `Layout` holds the decisions of one written form: how many digits, which
numbers are written without a power of ten, whether a whole number keeps its point, and the words
for what has no digits. The program has three of them.
-/

namespace DetectionFlow

/-- The decisions of one written form of doubles. -/
structure Layout where
  /-- The count of significant digits; without one, the fewest that read back. -/
  precision : Option Nat
  /-- The least power of ten of a number written without one. -/
  leastPlain : Int
  /-- The first power of ten that is written out. -/
  firstScientific : Int
  /-- A whole number keeps `.0`. -/
  keepsPoint : Bool
  nanText : String
  infinityText : String

namespace Layout

/-- The form of numbers in texts and in document files: the fewest digits that read back,
positional from `1e-4` to below `1e16`. -/
def plain : Layout := ⟨none, -4, 16, true, "nan", "inf"⟩

/-- The form of numbers in records sent to the backend. -/
def record : Layout := { plain with nanText := "NaN", infinityText := "Infinity" }

/-- The form of numbers offered for editing: six significant digits, no superfluous zeros. -/
def brief : Layout := ⟨some 6, -4, 6, false, "nan", "inf"⟩

/-- The power of ten with its sign and at least two digits. -/
def exponentText (place : Int) : List Char :=
  let digits := Decimal.digitsOf place.natAbs
  let sign := if place < 0 then '-' else '+'
  'e' :: sign :: (if digits.length < 2 then '0' :: digits else digits)

/-- Digits with a power of ten for the first of them. -/
def digitsText (l : Layout) (digits : List Char) (place : Int) : List Char :=
  if l.leastPlain ≤ place ∧ place < l.firstScientific then
    if place < 0 then '0' :: '.' :: (List.replicate (place.natAbs - 1) '0' ++ digits)
    else
      let whole := place.toNat + 1
      let fraction := digits.drop whole
      digits.take whole ++ List.replicate (whole - digits.length) '0' ++
        (if fraction.isEmpty then (if l.keepsPoint then ['.', '0'] else []) else '.' :: fraction)
  else
    match digits with
    | [] => []
    | [d] => d :: exponentText place
    | d :: rest => d :: '.' :: rest ++ exponentText place

/-- The decimal that stands for a positive count of units in this form. -/
def decimal (l : Layout) (units : Nat) : Decimal :=
  match l.precision with
  | none => Decimal.shortest units
  | some count => Decimal.significant units count

/-- The text of a double. -/
def render (l : Layout) : Double → String
  | .nan => l.nanText
  | .infinity negative => if negative then "-" ++ l.infinityText else l.infinityText
  | .finite negative units _ =>
    let (digits, place) := if units = 0 then (['0'], 0) else (l.decimal units).leading
    let text := l.digitsText digits place
    String.ofList (if negative then '-' :: text else text)

end Layout
end DetectionFlow
