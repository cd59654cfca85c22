/-!
# Binary64 numbers

A finite double is a sign and a magnitude counted in units of `2 ^ -1074`, the smallest positive
double. A count of units belongs to a double when it has at most 53 significant bits and stays
below `2 ^ 2098`. Order, equality and integrality are then exact questions about natural numbers,
and rounding is one function, `Double.nearest`.

Main statements: integers of at most 53 bits are represented exactly (`representable_of_lt`).
-/

namespace DetectionFlow

-- Powers are those of the core library, so that they are the same whatever is imported.
attribute [local instance (high)] instPowNat

/-! ## The type -/

/-- The bits that the largest finite double has, counted in units. -/
def limitBits : Nat := 2098

/-- The first count of units beyond every finite double. -/
def limitUnits : Nat := 2 ^ limitBits

theorem limitUnits_eq : limitUnits = 2 ^ limitBits := rfl

attribute [irreducible] limitUnits

/-- The count of units is that of a double: 53 significant bits suffice, and it is below the limit
beyond which only infinity is left. -/
def Representable (units : Nat) : Prop :=
  units < limitUnits ∧ units % 2 ^ (units.log2 - 52) = 0

instance (units : Nat) : Decidable (Representable units) :=
  inferInstanceAs (Decidable (_ ∧ _))

/-- A number of the binary64 format. The many bit patterns that are no number are one value. -/
inductive Double
  | nan
  | infinity (negative : Bool)
  | finite (negative : Bool) (units : Nat) (exact : Representable units)
  deriving DecidableEq

namespace Double

/-- The bits below the point of a double. -/
def unitBits : Nat := 1074

/-- One, as a count of units. -/
def unit : Nat := 2 ^ unitBits

theorem unit_eq : unit = 2 ^ unitBits := rfl

-- Unfolding the power would compute it.
attribute [irreducible] unit

/-- The double with this sign and magnitude, or infinity when the magnitude is none. -/
def ofUnits (negative : Bool) (units : Nat) : Double :=
  if h : Representable units then finite negative units h else infinity negative

def zero : Double := ofUnits false 0

instance : Inhabited Double := ⟨zero⟩

/-! ## Rounding -/

/-- The quotient rounded to the nearest integer, a half to the even one. -/
def roundQuotient (num den : Nat) : Nat :=
  let q := num / den
  let r := num % den
  if 2 * r < den then q
  else if den < 2 * r then q + 1
  else q + q % 2

/-- The double nearest to `num / den` units, a half to the even neighbour. Beyond the largest
double lies infinity. -/
def nearest (negative : Bool) (num den : Nat) : Double :=
  let spacing := 2 ^ ((num / den).log2 - 52)
  ofUnits negative (roundQuotient num (den * spacing) * spacing)

/-- The double, unless it is an infinity. -/
def bounded? : Double → Option Double
  | infinity _ => none
  | d => some d

/-- The double nearest to an integer; `none` when that is infinity. -/
def ofInt? (n : Int) : Option Double :=
  (nearest (decide (n < 0)) (n.natAbs * unit) 1).bounded?

/-- The double nearest to `coefficient * 10 ^ exponent`. Exponents far outside the range of the
format are settled without computing the power. -/
def ofDecimal (negative : Bool) (coefficient : Nat) (exponent : Int) : Double :=
  let size : Int := (coefficient.log2 : Int)
  if coefficient = 0 then ofUnits negative 0
  else if 0 ≤ exponent then
    if 1100 < exponent then infinity negative
    else nearest negative (coefficient * 10 ^ exponent.toNat * unit) 1
  else if size + 1200 < -3 * exponent then ofUnits negative 0
  else nearest negative (coefficient * unit) (10 ^ (-exponent).toNat)

/-! ## Order and parts -/

/-- A magnitude with its sign. -/
def signed (negative : Bool) (units : Nat) : Int :=
  if negative then -(units : Int) else units

def isNegative : Double → Bool
  | nan => false
  | infinity negative | finite negative _ _ => negative

def isFinite : Double → Bool
  | finite .. => true
  | _ => false

/-- The place of a double in the numeric order: its signed count of units, with both infinities
outside all finite counts. Zero has one place whatever its sign, and what is no number has none. -/
def place? : Double → Option Int
  | nan => none
  | infinity negative => some (signed negative limitUnits)
  | finite negative units _ => some (signed negative units)

/-- Strictly below in the numeric order; false when either side is no number. -/
def lt (x y : Double) : Bool :=
  match x.place?, y.place? with
  | some a, some b => decide (a < b)
  | _, _ => false

/-- At most, in the numeric order; false when either side is no number. -/
def le (x y : Double) : Bool :=
  match x.place?, y.place? with
  | some a, some b => decide (a ≤ b)
  | _, _ => false

/-- Numeric equality: the two zeros are equal, and what is no number equals nothing. -/
def same (x y : Double) : Bool :=
  match x.place?, y.place? with
  | some a, some b => decide (a = b)
  | _, _ => false

/-- The integer that a double equals, if it equals one. -/
def toInt? : Double → Option Int
  | finite negative units _ =>
    if units % unit = 0 then
      some (signed negative (units / unit))
    else none
  | _ => none

/-- The double with the integer's value where one exists, without the overflow case: for small
constants. -/
def ofInt (n : Int) : Double := (ofInt? n).getD nan

def one : Double := ofInt 1

/-- The sum, rounded to the nearest double. A sum of zero is negative only if both terms are. -/
def add (x y : Double) : Double :=
  match x, y with
  | nan, _ | _, nan => nan
  | infinity a, infinity b => if a = b then infinity a else nan
  | infinity a, finite .. => infinity a
  | finite .., infinity b => infinity b
  | finite a u _, finite b v _ =>
    let sum := signed a u + signed b v
    if sum = 0 then ofUnits (a && b) 0 else nearest (decide (sum < 0)) sum.natAbs 1

/-- The double on the other side of zero. -/
def negate : Double → Double
  | nan => nan
  | infinity negative => infinity (!negative)
  | finite negative units h => finite (!negative) units h

/-- The product, rounded to the nearest double. Zero times infinity is no number. -/
def mul (x y : Double) : Double :=
  match x, y with
  | nan, _ | _, nan => nan
  | infinity a, infinity b => infinity (a != b)
  | infinity a, finite b v _ | finite b v _, infinity a =>
    if v = 0 then nan else infinity (a != b)
  | finite a u _, finite b v _ => nearest (a != b) (u * v) unit

/-! ## Small lemmas -/

@[simp] theorem place?_ofUnits {units : Nat} (h : Representable units) (negative : Bool) :
    (ofUnits negative units).place? = some (signed negative units) := by
  simp [ofUnits, h, place?]

theorem two_pow_le_limitUnits {k : Nat} (h : k ≤ limitBits) : 2 ^ k ≤ limitUnits := by
  rw [limitUnits_eq]
  exact Nat.pow_le_pow_right (by omega) h

/-- A whole number of units of at most 53 bits belongs to a double. -/
theorem representable_of_lt {units : Nat} (h : units < 2 ^ (53 : Nat)) : Representable units := by
  have hlog : units.log2 - 52 = 0 := by
    rcases Nat.eq_zero_or_pos units with rfl | hpos
    · simp
    · have := (Nat.log2_lt (by omega)).mpr h
      omega
  refine ⟨Nat.lt_of_lt_of_le h (two_pow_le_limitUnits (by decide)), ?_⟩
  rw [hlog]
  simp [Nat.mod_one]

end Double
end DetectionFlow
