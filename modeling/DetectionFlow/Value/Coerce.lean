import DetectionFlow.Decimal.Numeral
import DetectionFlow.Failure

/-!
# Values as numbers and sequences

Reading a given value as what a payload needs: a double, a finite number, a sequence, a set of keys.
Each reading either yields the thing or names the fault of the value.
-/

namespace DetectionFlow
namespace Value

/-- The numeral in a text, or in bytes that are ASCII. -/
def numeral? : Value → Option String
  | .text s => some s
  | .bytes bs =>
    if bs.all (· < 0x80) then some (String.ofList (bs.map fun b => Char.ofNat b.toNat)) else none
  | _ => none

/-- The double that a number, a truth value or a numeral denotes. -/
def toDouble (v : Value) : Except Fault Double :=
  match v with
  | .text _ | .bytes _ => match v.numeral?.bind Numeral.readTyped? with
    | some x => .ok x
    | none => .error (.badNumeral v)
  | _ => match v.number? with
    | some (.float x) => .ok x
    | some (.int n) => (Double.ofInt? n).elim (.error .tooLarge) .ok
    | none => .error (.notNumeric v.typeName)

/-- A finite number or numeral, rounded to a double; a whole one becomes an integer. -/
def toFinite (v : Value) : Except Fault Number :=
  match v with
  | .bool _ => .error (.expectedNumber v)
  | _ => do
    let x ← v.toDouble
    if x.isFinite then .ok (.ofDouble x) else .error (.expectedFinite v)

/-- A number as it is offered for editing. -/
def toBrief (v : Value) : Except Fault String :=
  match v.number? with
  | some (.float x) => .ok (Layout.brief.render x)
  | some (.int n) =>
    (Double.ofInt? n).elim (.error .tooLarge) fun x => .ok (Layout.brief.render x)
  | none => match v with
    -- A date lays itself out, and takes the letter of the layout for its own text.
    | .day _ | .moment _ => .ok "g"
    | _ => .error (.noLayout v)

/-- The values that a value runs through. -/
def toItems (v : Value) : Except Fault (List Value) :=
  match v.items? with
  | some items => .ok items
  | none => .error (.notIterable v.typeName)

/-- The first of each group of equal keys, in order. -/
def distinctKeys : List Value → List Value → List Value
  | _, [] => []
  | seen, v :: rest =>
    if seen.any v.same then distinctKeys seen rest
    else v :: distinctKeys (v :: seen) rest

/-- The values that a value runs through, each once. All of them must be usable as keys. -/
def toDistinct (v : Value) : Except Fault (List Value) := do
  let items ← v.toItems
  match items.find? (!·.isKey) with
  | some bad => .error (.noKey bad.typeName)
  | none => .ok (distinctKeys [] items)

end Value

/-- The integer next to a number on the side of zero. -/
def Number.truncate : Number → Int
  | .int n => n
  | .float x => match x with
    | .finite negative units _ => Double.signed negative (units / Double.unit)
    | _ => 0

end DetectionFlow
