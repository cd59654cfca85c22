import DetectionFlow.Decimal.Numeral
import DetectionFlow.Failure

/-!
# Reading JSON

A text is cut into tokens, and each token is handed to a machine with a stack of open lists and
objects before the next one is cut. What comes first in the text is refused first.

Beyond the standard the words `NaN`, `Infinity` and `-Infinity` are numbers. Of fields with one
name the last value counts, at the place of the first.
-/

namespace DetectionFlow
namespace Json

/-- Why a text is no JSON. -/
inductive ReadError
  /-- The text breaks the grammar. -/
  | malformed
  /-- An integer has more digits than are read: so many. -/
  | tooManyDigits (count : Nat)
  /-- Lists and objects stand too deep inside each other. -/
  | tooDeep
  deriving DecidableEq

/-! ## Tokens -/

inductive Token
  | openList
  | closeList
  | openObject
  | closeObject
  | comma
  | colon
  | scalar (v : Value)

def isSpace (c : Char) : Bool := c = ' ' || c = '\t' || c = '\n' || c = '\r'

/-- The value of a hexadecimal digit. -/
def hexDigit? (c : Char) : Option Nat :=
  if '0' ≤ c ∧ c ≤ '9' then some (c.toNat - 0x30)
  else if 'a' ≤ c ∧ c ≤ 'f' then some (c.toNat - 0x57)
  else if 'A' ≤ c ∧ c ≤ 'F' then some (c.toNat - 0x37)
  else none

/-- The number that four hexadecimal digits denote. -/
def hexFour? (a b c d : Char) : Option Nat := do
  return (((← hexDigit? a) * 16 + (← hexDigit? b)) * 16 + (← hexDigit? c)) * 16 + (← hexDigit? d)

/-- The character of a short escape. -/
def shortEscape? : Char → Option Char
  | '"' => some '"'
  | '\\' => some '\\'
  | '/' => some '/'
  | 'b' => some '\x08'
  | 'f' => some '\x0c'
  | 'n' => some '\n'
  | 'r' => some '\r'
  | 't' => some '\t'
  | _ => none

/-- The codes of the characters up to the closing quote, and what follows it. Control characters
must be escaped. An escape may stand for half of a surrogate pair. -/
def scanCodes? : List Char → Option (List Nat × List Char)
  | [] => none
  | '"' :: rest => some ([], rest)
  | '\\' :: 'u' :: a :: b :: c :: d :: rest =>
    match hexFour? a b c d with
    | none => none
    | some code => (scanCodes? rest).map fun (codes, tail) => (code :: codes, tail)
  | '\\' :: c :: rest =>
    match shortEscape? c with
    | none => none
    | some e => (scanCodes? rest).map fun (codes, tail) => (e.toNat :: codes, tail)
  | c :: rest =>
    if c.toNat < 0x20 then none
    else (scanCodes? rest).map fun (codes, tail) => (c.toNat :: codes, tail)

/-- The digits of the whole part: one zero, or digits that begin with another digit. -/
def scanWhole? : List Char → Option (List Nat × List Char)
  | '0' :: rest => some ([0], rest)
  | cs => match Numeral.spanDigits cs with
    | ([], _) => none
    | r => some r

/-- The digits after a point, if a point with digits follows. -/
def scanFraction : List Char → Option (List Nat) × List Char
  | '.' :: rest => match Numeral.spanDigits rest with
    | ([], _) => (none, '.' :: rest)
    | (ds, tail) => (some ds, tail)
  | cs => (none, cs)

/-- The power of ten, if one with digits follows. -/
def scanExponent : List Char → Option Int × List Char
  | [] => (none, [])
  | c :: rest =>
    if c = 'e' ∨ c = 'E' then
      let (negative, body) := Numeral.splitSign rest
      match Numeral.spanDigits body with
      | ([], _) => (none, c :: rest)
      | (ds, tail) =>
        (some (if negative then -(Text.digitsValue ds : Int) else Text.digitsValue ds), tail)
    else (none, c :: rest)

/-- A number without its sign: an integer unless it has a fraction or a power of ten. -/
def scanNumber (negative : Bool) (cs : List Char) : Except ReadError (Value × List Char) :=
  match scanWhole? cs with
  | none => .error .malformed
  | some (whole, afterWhole) =>
    let (fraction, afterFraction) := scanFraction afterWhole
    let (exponent, rest) := scanExponent afterFraction
    match fraction, exponent with
    | none, none =>
      if Fault.digitLimit < whole.length then .error (.tooManyDigits whole.length)
      else
        let n : Int := Text.digitsValue whole
        .ok (.int (if negative then -n else n), rest)
    | _, _ =>
      let digits := fraction.getD []
      .ok (.float (Double.ofDecimal negative (Text.digitsValue (whole ++ digits))
        (exponent.getD 0 - digits.length)), rest)

/-- The rest after a word that the text begins with. -/
def dropWord? : List Char → List Char → Option (List Char)
  | [], cs => some cs
  | _ :: _, [] => none
  | w :: ws, c :: cs => if w = c then dropWord? ws cs else none

/-- The words that are values. -/
def words : List (String × Value) :=
  [("null", .null), ("true", .bool true), ("false", .bool false), ("NaN", .float .nan),
   ("Infinity", .float (.infinity false)), ("-Infinity", .float (.infinity true))]

/-- A word or a number in front of a text. -/
def scanScalar (cs : List Char) : Except ReadError (Value × List Char) :=
  match words.findSome? fun w => (dropWord? w.1.toList cs).map (w.2, ·) with
  | some r => .ok r
  | none => match cs with
    | '-' :: rest => scanNumber true rest
    | _ => scanNumber false cs

/-- The first token of a text that begins with no blank. -/
def scanToken (c : Char) (rest : List Char) : Except ReadError (Token × List Char) :=
  match c with
  | '[' => .ok (.openList, rest)
  | ']' => .ok (.closeList, rest)
  | '{' => .ok (.openObject, rest)
  | '}' => .ok (.closeObject, rest)
  | ',' => .ok (.comma, rest)
  | ':' => .ok (.colon, rest)
  | '"' => match scanCodes? rest with
    | some (codes, tail) => .ok (.scalar (.text (String.ofList (Text.joinPairs codes))), tail)
    | none => .error .malformed
  | _ => (scanScalar (c :: rest)).map fun (v, tail) => (.scalar v, tail)

/-! ## The machine -/

/-- A list or an object that is still open, its parts in reverse. -/
inductive Frame
  | list (items : List Value)
  | object (fields : List (String × Value)) (key : Option String)

/-- What may come next. -/
inductive Expect
  | value
  | valueOrClose
  | keyOrClose
  | key
  | colon
  | commaOrClose
  | nothing

structure Machine where
  stack : List Frame
  expect : Expect
  result : Value

/-- The machine before the first token. -/
def Machine.start : Machine := ⟨[], .value, .null⟩

/-- Hands a complete value to the innermost open list or object. -/
def Machine.deliver (stack : List Frame) (v : Value) : Option Machine :=
  match stack with
  | [] => some ⟨[], .nothing, v⟩
  | .list items :: below => some ⟨.list (v :: items) :: below, .commaOrClose, .null⟩
  | .object fields (some key) :: below =>
    some ⟨.object ((key, v) :: fields) none :: below, .commaOrClose, .null⟩
  | .object _ none :: _ => none

/-- The fields of an object in their order; a repeated name keeps its first place and takes its
last value. -/
def gather (fields : List (String × Value)) : Fields :=
  fields.reverse.foldl (fun acc f => acc.put f.1 f.2) []

/-- One step of the machine; `none` when the token is out of place. -/
def Machine.step (m : Machine) (token : Token) : Option Machine :=
  match m.expect, token, m.stack with
  | .value, .scalar v, stack | .valueOrClose, .scalar v, stack => Machine.deliver stack v
  | .value, .openList, stack | .valueOrClose, .openList, stack =>
    some ⟨.list [] :: stack, .valueOrClose, .null⟩
  | .value, .openObject, stack | .valueOrClose, .openObject, stack =>
    some ⟨.object [] none :: stack, .keyOrClose, .null⟩
  | .valueOrClose, .closeList, .list items :: below
  | .commaOrClose, .closeList, .list items :: below =>
    Machine.deliver below (.list items.reverse)
  | .keyOrClose, .closeObject, .object fields none :: below
  | .commaOrClose, .closeObject, .object fields none :: below =>
    Machine.deliver below (.object (gather fields))
  | .keyOrClose, .scalar (.text key), .object fields none :: below
  | .key, .scalar (.text key), .object fields none :: below =>
    some ⟨.object fields (some key) :: below, .colon, .null⟩
  | .colon, .colon, stack => some ⟨stack, .value, .null⟩
  | .commaOrClose, .comma, .list items :: below => some ⟨.list items :: below, .value, .null⟩
  | .commaOrClose, .comma, .object fields none :: below =>
    some ⟨.object fields none :: below, .key, .null⟩
  | _, _, _ => none

/-- The machine waits for a value. -/
def Machine.takesValue (m : Machine) : Bool := (m.step (.scalar .null)).isSome

/-- The most lists and objects inside each other. -/
def depthLimit : Nat := 980

/-- More lists and objects are open than are read. -/
def Machine.isTooDeep (m : Machine) : Bool := depthLimit < m.stack.length

/-- The value that the machine has read if the text ends here. -/
def Machine.result? (m : Machine) : Option Value :=
  match m with
  | ⟨[], .nothing, v⟩ => some v
  | _ => none

/-- Reads the rest of a text, of at most `fuel` characters. A number that is too long is out of place
like any other where the machine waits for no value. -/
def Machine.readWithin (m : Machine) : Nat → List Char → Except ReadError Value
  | _, [] => match m.result? with
    | some v => .ok v
    | none => .error .malformed
  | 0, _ :: _ => .error .malformed
  | fuel + 1, c :: rest =>
    if isSpace c then m.readWithin fuel rest
    else match scanToken c rest with
      | .error e => .error (if m.takesValue then e else .malformed)
      | .ok (token, tail) => match m.step token with
        | some m => if m.isTooDeep then .error .tooDeep else m.readWithin fuel tail
        | none => .error .malformed

/-- Reads one value that is the whole of a text. Each token takes at least one character. -/
def read (s : String) : Except ReadError Value :=
  Machine.start.readWithin s.length s.toList

/-- The fault that a refusal is where a text has to be JSON. -/
def ReadError.toFault : ReadError → Fault
  | malformed => .badJson
  | tooManyDigits count => .tooManyDigits count
  | tooDeep => .endless

end Json
end DetectionFlow
