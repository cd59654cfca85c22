import DetectionFlow.Value.Coerce
import DetectionFlow.Json.Reader
import DetectionFlow.Text.Base64
import DetectionFlow.Text.Lower
import DetectionFlow.Yaml.Node

/-!
# The values of scalars

What the text of a scalar stands for, given its type. A tag may state a type whose form the text does
not have; then it is read as far as the type goes, and what is wrong with it is a fault.

Main function: `scalarValue`.
-/

namespace DetectionFlow
namespace Yaml

-- Powers are those of the core library, so that they are the same whatever is imported.
attribute [local instance (high)] instPowNat

open Text

/-! ## Integers -/

/-- The letter after the zero of an integer that states its base. -/
def baseLetter? (base : Nat) : Option Char :=
  if base = 2 then some 'b' else if base = 8 then some 'o' else if base = 16 then some 'x' else none

/-- The digits after a sign, without the zero and the letter of their base. -/
def withoutBase (base : Nat) (cs : List Char) : List Char :=
  match cs with
  | '0' :: letter :: rest =>
    if (baseLetter? base).any fun l => letter = l || letter = l.toUpper then rest else cs
  | _ => cs

/-- The number that digits of a base denote, and what follows them. -/
def spanBase (base : Nat) : Nat → List Char → Nat × List Char
  | n, [] => (n, [])
  | n, c :: rest =>
    match (Json.hexDigit? c).filter (· < base) with
    | some d => spanBase base (base * n + d) rest
    | none => (n, c :: rest)

/-- The integer that a text denotes in a base: blanks around it, a sign, the letter of the base, and
digits, which for the bases up to ten may be those of any script. -/
def integerIn (base : Nat) (cs : List Char) : Except Fault Int :=
  let (negative, body) := Numeral.splitSign (plainDigits (Numeral.trimNumber cs))
  let digits := withoutBase base body
  let (n, rest) := spanBase base 0 digits
  let count := digits.length - rest.length
  if base = 10 ∧ Fault.digitLimit < count then .error (.tooManyDigits count)
  else if count = 0 ∨ !rest.isEmpty then .error (.badInteger base (String.ofList cs))
  else .ok (if negative then -(n : Int) else n)

/-- The value of an integer without sign and underscores. -/
def magnitude (cs : List Char) : Except Fault Int :=
  match cs with
  | [] => .error .absentPlace
  | ['0'] => .ok 0
  | '0' :: 'b' :: rest => integerIn 2 rest
  | '0' :: 'x' :: rest => integerIn 16 rest
  | '0' :: _ => integerIn 8 cs
  | _ =>
    if cs.contains ':' then do
      let parts ← (splitAt ':' cs).mapM (integerIn 10)
      return parts.foldl (fun n part => 60 * n + part) 0
    else integerIn 10 cs

/-- The text without its underscores. -/
def withoutGaps (s : String) : List Char := s.toList.filter (· ≠ '_')

/-- The value of an integer. -/
def int (s : String) : Except Fault Int :=
  let cs := withoutGaps s
  (magnitude (unsigned cs)).map fun n => if cs.head? = some '-' then -n else n

/-! ## Doubles -/

/-- The double that a text denotes. -/
def plainDouble (cs : List Char) : Except Fault Double :=
  (Value.text (String.ofList cs)).toDouble

/-- The sum of parts in base sixty, the last one first, behind those after them. Every power of
sixty must be near to a double. -/
def sumSixties (sum : Double) : Nat → List Double → Except Fault Double
  | _, [] => .ok sum
  | place, part :: rest =>
    match Double.ofInt? ((60 ^ place : Nat) : Int) with
    | some power => sumSixties (sum.add (part.mul power)) (place + 1) rest
    | none => .error .tooLarge

/-- The value of a double. The word for no number is a value of its own. -/
def double (s : String) : Except Fault Value := do
  let cs := (lower (String.ofList (withoutGaps s))).toList
  let negative := cs.head? = some '-'
  let body := unsigned cs
  if cs.isEmpty then .error .absentPlace
  else if body = ".inf".toList then return .float (.infinity negative)
  else if body = ".nan".toList then return .undefined
  else
    let x ← if body.contains ':' then do
        sumSixties Double.zero 0 (← (splitAt ':' body).mapM plainDouble).reverse
      else plainDouble body
    return .float (if negative then x.negate else x)

/-! ## Words, bytes and dates -/

/-- The value of a truth word in any case. -/
def truth (s : String) : Except Fault Bool :=
  let word := lower s
  if trueWords.contains word then .ok true
  else if falseWords.contains word then .ok false
  else .error (.absentKey word)

/-- The microseconds of a fraction of a second; what is finer is cut off. -/
def microseconds (digits : List Nat) : Nat :=
  let kept := digits.take 6
  digitsValue kept * 10 ^ (6 - kept.length)

/-- The value of a date. An offset of a day or more is found first. -/
def date (s : String) : Except Fault Value :=
  let cs := s.toList
  match dateParts? (if cs.getLast? = some '\n' then cs.dropLast else cs) with
  | none => .error (.noFields Value.null.typeName)
  | some parts =>
    let day := (Day.of parts.year parts.month parts.day).mapError .impossibleDate
    match parts.time with
    | none => day.map .day
    | some (hour, minute, second) =>
      match parts.offset.filter fun minutes => minutesOfDay ≤ minutes.natAbs with
      | some minutes => .error (.farOffset minutes)
      | none => do
        let moment := Moment.of (← day) hour minute second (microseconds parts.fraction)
          parts.offset
        (moment.mapError .impossibleDate).map .moment

/-! ## Scalars -/

/-- A fault as a reason why a text is no value. -/
def ofFault (r : Except Fault α) : Except ReadError α := r.mapError .fault

/-- The value of a scalar of a type; collections and signs are none. -/
def scalarValue (tag : Tag) (s : String) : Except ReadError Value :=
  match tag with
  | .null => .ok .null
  | .bool => (ofFault (truth s)).map .bool
  | .int => (ofFault (int s)).map .int
  | .float => ofFault (double s)
  | .date => ofFault (date s)
  | .text => .ok (.text s)
  | .bytes =>
    if s.toList.all (·.toNat < 0x80) then
      match Base64.decode? s with
      | some bytes => .ok (.bytes bytes)
      | none => .error .malformed
    else .error .malformed
  | .sequence | .mapping | .set | .ordered | .pairs | .merge | .default | .other =>
    .error .malformed

end Yaml
end DetectionFlow
