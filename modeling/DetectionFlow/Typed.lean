import DetectionFlow.Payload
import DetectionFlow.Text.Split

/-!
# Typed answers

What an operator may type for points, numbers of seconds and count conditions, and what the program
answers to anything else. Each check yields the words of its complaint, or nothing.

`Typed.points` reads points and `Typed.pointsText` writes them for editing.
-/

namespace DetectionFlow
namespace Typed

open Text

/-! ## Points -/

/-- A coordinate. -/
def coordinate (cs : List Char) : Except Fault Double :=
  (Value.text (String.ofList cs)).toDouble

/-- The coordinate lies within the frame. -/
def inFrame (x : Double) : Bool := Double.zero.le x && x.le Double.one

/-- A point as two numbers around a comma. -/
def point (cs : List Char) : Except Fault Point :=
  match splitAt ',' cs with
  | [first, second] => do
    let x ← coordinate (trim first)
    let y ← coordinate (trim second)
    if inFrame x && inFrame y then return ⟨x, y⟩ else .error (.outsideFrame x y)
  | _ => .error (.badPoint (String.ofList cs))

/-- Points between semicolons. Empty parts count for nothing. -/
def points (s : String) : Except Fault (List Point) :=
  (((splitAt ';' s.toList).map trim).filter (!·.isEmpty)).mapM point

/-- Points as they are offered for editing. -/
def pointsText (ps : List Point) : String :=
  String.intercalate "; " (ps.map fun p => Layout.brief.render p.x ++ "," ++ Layout.brief.render p.y)

/-- A pair of numbers as it is offered for editing. -/
def pairText (v : Value) : Except Fault String := do
  match ← v.toItems with
  | [x, y] => return (← x.toBrief) ++ "," ++ (← y.toBrief)
  | vs => .error (.notPair vs.length)

/-- A value that runs through pairs of numbers, as it is offered for editing. -/
def pairsText (v : Value) : Except Fault String := do
  return String.intercalate "; " (← (← v.toItems).mapM pairText)

/-- What is wrong with typed points of which there must be some number. -/
def pointsComplaint (least : Nat) (most : Option Nat) (s : String) : Option String :=
  match points s with
  | .error f => some f.message
  | .ok ps =>
    if ps.length < least then some ("Need at least " ++ toString least ++ " points")
    else match most with
      | some most =>
        if most < ps.length then some ("Need exactly " ++ toString most ++ " points") else none
      | none => none

/-! ## Seconds -/

/-- What is wrong with a typed number of seconds. -/
def secondsComplaint (s : String) : Option String :=
  match Numeral.readTyped? s with
  | some x => if Double.zero.le x then none else some "Must be 0 or more"
  | none => some "Enter a number"

/-! ## Conditions -/

/-- What follows the comparison that a text begins with. -/
def afterComparison? : List Char → Option (List Char)
  | '>' :: '=' :: rest | '<' :: '=' :: rest | '=' :: '=' :: rest | '!' :: '=' :: rest => some rest
  | '>' :: rest | '<' :: rest => some rest
  | _ => none

/-- One digit or more of any script, and a line break at most after them. -/
def isDigitLine (cs : List Char) : Bool :=
  let rest := cs.dropWhile fun c => (digit? c).isSome
  rest.length < cs.length && (rest = [] || rest = ['\n'])

/-- A comparison with a number, blanks between them. -/
def isCondition (s : String) : Bool :=
  match afterComparison? s.toList with
  | some rest => isDigitLine (rest.dropWhile isBlank)
  | none => false

/-- What is wrong with a typed condition. -/
def conditionComplaint (s : String) : Option String :=
  if isCondition (trimText s) then none else some "Use <op><n>, e.g. >=3"

/-- A typed condition without its spaces. -/
def condition (s : String) : String := String.ofList (s.toList.filter (· ≠ ' '))

/-! ## Names -/

/-- What is wrong with a typed name. -/
def nameComplaint (s : String) : Option String :=
  if (trim s.toList).isEmpty then some "Required" else none

end Typed
end DetectionFlow
