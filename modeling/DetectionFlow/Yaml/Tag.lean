import DetectionFlow.Text.Blank
import DetectionFlow.Text.Split

/-!
# The types of document nodes

What a node of a document file is meant to be. A tag says so, or else the form of a plain scalar does:
null, a truth value, an integer, a double, a date, or one of the two signs that mean something as
keys. Whatever has no other form is a text. Integers may be binary, octal, hexadecimal or in base
sixty, and numbers may hold underscores.

Main functions: `Tag.named` and `Tag.ofText`.
-/

namespace DetectionFlow
namespace Yaml

open Text

/-- The type of a node. -/
inductive Tag
  | null
  | bool
  | int
  | float
  | bytes
  /-- A day, or a moment on it. -/
  | date
  | text
  | sequence
  | mapping
  /-- A mapping of which only the keys count. -/
  | set
  /-- A sequence of mappings with one pair each, whose order counts. -/
  | ordered
  /-- The same, with keys that may occur again. -/
  | pairs
  /-- The key under which mappings are merged. -/
  | merge
  /-- The key of a value that stands for its mapping. -/
  | default
  /-- Nothing that can be read. -/
  | other
  deriving DecidableEq, Inhabited

namespace Tag

/-- What the names of the known types begin with. -/
def standardStem : String := "tag:yaml.org,2002:"

/-- The known types by the rest of their names. -/
def names : List (String × Tag) :=
  [("null", null), ("bool", bool), ("int", int), ("float", float), ("binary", bytes),
   ("timestamp", date), ("str", text), ("seq", sequence), ("map", mapping), ("set", set),
   ("omap", ordered), ("pairs", pairs), ("merge", merge), ("value", default)]

/-- The type that a tag names. -/
def named (name : String) : Tag :=
  match names.find? fun n => standardStem ++ n.1 = name with
  | some n => n.2
  | none => other

/-- The nodes of the type are collections. -/
def isCollection : Tag → Bool
  | sequence | mapping | set | ordered | pairs => true
  | _ => false

end Tag

/-! ## Numbers by form -/

/-- The text without a sign in front. -/
def unsigned : List Char → List Char
  | '+' :: rest | '-' :: rest => rest
  | cs => cs

def isDigit (c : Char) : Bool := (asciiDigit? c).isSome

/-- A digit or an underscore. -/
def isDigitOrGap (c : Char) : Bool := isDigit c || c = '_'

/-- Digits of a base and underscores, at least one of them. -/
def allIn (digits : String) (cs : List Char) : Bool :=
  !cs.isEmpty && cs.all fun c => digits.toList.contains c || c = '_'

/-- A part of a number in base sixty: one digit, or two of which the first is at most five. -/
def isSixty : List Char → Bool
  | [a] => isDigit a
  | [a, b] => '0' ≤ a && a ≤ '5' && isDigit b
  | _ => false

/-- Digits and underscores that begin with a digit, but not with zero. -/
def isPositive : List Char → Bool
  | c :: rest => isDigit c && c ≠ '0' && rest.all isDigitOrGap
  | [] => false

/-- Digits and underscores that begin with a digit. -/
def isWhole : List Char → Bool
  | c :: rest => isDigit c && rest.all isDigitOrGap
  | [] => false

def isInt (cs : List Char) : Bool :=
  match unsigned cs with
  | ['0'] => true
  | '0' :: 'b' :: rest => allIn "01" rest
  | '0' :: 'x' :: rest => allIn "0123456789abcdefABCDEF" rest
  | '0' :: rest => allIn "01234567" rest
  | body => match splitAt ':' body with
    | [whole] => isPositive whole
    | whole :: parts => isPositive whole && parts.all isSixty
    | [] => false

/-- A power of ten with its sign, or nothing. -/
def isExponent : List Char → Bool
  | [] => true
  | e :: sign :: digits =>
    (e = 'e' || e = 'E') && (sign = '+' || sign = '-') && !digits.isEmpty && digits.all isDigit
  | _ => false

/-- What follows the point of a double. -/
def isFraction (cs : List Char) : Bool := isExponent (cs.dropWhile isDigitOrGap)

/-- The words for infinity, after a sign. -/
def infinityWords : List String := [".inf", ".Inf", ".INF"]

def nanWords : List String := [".nan", ".NaN", ".NAN"]

/-- A double has a point; before it stands a number, perhaps in base sixty, or nothing. -/
def isFloat (cs : List Char) : Bool :=
  let body := unsigned cs
  let word := String.ofList body
  if infinityWords.contains word then true
  else if nanWords.contains (String.ofList cs) then true
  else
    let whole := body.takeWhile (· ≠ '.')
    match body.dropWhile (· ≠ '.') with
    | '.' :: fraction =>
      if whole.isEmpty then
        body = cs && isWhole (fraction.takeWhile isDigitOrGap) && isFraction fraction
      else match splitAt ':' whole with
        | [w] => isWhole w && isFraction fraction
        | w :: parts => isWhole w && parts.all isSixty && fraction.all isDigitOrGap
        | [] => false
    | _ => false

/-! ## Words -/

def trueWords : List String := ["yes", "Yes", "YES", "true", "True", "TRUE", "on", "On", "ON"]

def falseWords : List String := ["no", "No", "NO", "false", "False", "FALSE", "off", "Off", "OFF"]

def nullWords : List String := ["", "~", "null", "Null", "NULL"]

/-- The signs of properties and aliases, which alone are no text. -/
def signWords : List String := ["!", "&", "*"]

/-! ## Dates by form -/

/-- The parts of a date, as they are written. -/
structure DateParts where
  year : Nat
  month : Nat
  day : Nat
  time : Option (Nat × Nat × Nat)
  /-- The digits of a fraction of a second. -/
  fraction : List Nat
  /-- How many minutes the clock is ahead, if that is stated. -/
  offset : Option Int

/-- At least so many and at most so many digits in front of a text, as a number. -/
def digitsInFront? (least most : Nat) (cs : List Char) : Option (Nat × List Char) :=
  let digits := (cs.takeWhile isDigit).take most
  if digits.length < least then none
  else some (digitsValue (digits.filterMap asciiDigit?), cs.drop digits.length)

/-- The rest after a character. -/
def after? (c : Char) : List Char → Option (List Char)
  | d :: rest => if c = d then some rest else none
  | [] => none

def isSpaceOrTab (c : Char) : Bool := c = ' ' || c = '\t'

/-- The offset at the end of a time; nothing need be there. -/
def offset? (cs : List Char) : Option (Option Int) :=
  match cs.dropWhile isSpaceOrTab with
  | [] => if cs.isEmpty then some none else none
  | ['Z'] => some (some 0)
  | sign :: rest =>
    let signed (minutes : Nat) : Int := if sign = '-' then -(minutes : Int) else minutes
    if sign ≠ '+' ∧ sign ≠ '-' then none
    else match digitsInFront? 1 2 rest with
      | some (hours, []) => some (some (signed (60 * hours)))
      | some (hours, ':' :: minutes) => match digitsInFront? 2 2 minutes with
        | some (m, []) => some (some (signed (60 * hours + m)))
        | _ => none
      | _ => none

/-- The time of the day, the fraction and the offset behind a day. -/
def time? (cs : List Char) : Option ((Nat × Nat × Nat) × List Nat × Option Int) := do
  let (hour, cs) ← digitsInFront? 1 2 cs
  let (minute, cs) ← digitsInFront? 2 2 (← after? ':' cs)
  let (second, cs) ← digitsInFront? 2 2 (← after? ':' cs)
  let (fraction, rest) := match cs with
    | '.' :: more => (more.takeWhile isDigit, more.dropWhile isDigit)
    | _ => ([], cs)
  return ((hour, minute, second), fraction.filterMap asciiDigit?, ← offset? rest)

/-- The text between a day and a time: a letter, or blanks. -/
def afterDay? (cs : List Char) : Option (List Char) :=
  match cs with
  | 'T' :: rest | 't' :: rest => some rest
  | ' ' :: _ | '\t' :: _ => some (cs.dropWhile isSpaceOrTab)
  | _ => none

/-- The parts of a date. -/
def dateParts? (cs : List Char) : Option DateParts := do
  let (year, rest) ← digitsInFront? 4 4 cs
  let (month, afterMonth) ← digitsInFront? 1 2 (← after? '-' rest)
  let (day, rest) ← digitsInFront? 1 2 (← after? '-' afterMonth)
  if rest.isEmpty then return ⟨year, month, day, none, [], none⟩
  else
    let (time, fraction, offset) ← time? (← afterDay? rest)
    return ⟨year, month, day, some time, fraction, offset⟩

/-- A date has a time, or else all its numbers have their full width. -/
def isDate (cs : List Char) : Bool :=
  match dateParts? cs with
  | some parts => parts.time.isSome || cs.length = 10
  | none => false

/-! ## Forms -/

/-- The text without a line end behind it, of which the forms of scalars admit one. -/
def withoutLineEnd (cs : List Char) : List Char :=
  match cs with
  | _ :: _ :: _ => if cs.getLast? = some '\n' then cs.dropLast else cs
  | _ => cs

/-- The type that the form of a scalar tells. -/
def Tag.ofText (s : String) : Tag :=
  let cs := withoutLineEnd s.toList
  let word := String.ofList cs
  if nullWords.contains word then .null
  else if trueWords.contains word || falseWords.contains word then .bool
  else if isFloat cs then .float
  else if isInt cs then .int
  else if word = "<<" then .merge
  else if isDate cs then .date
  else if word = "=" then .default
  else if signWords.contains word then .other
  else .text

end Yaml
end DetectionFlow
