import DetectionFlow.Double
import DetectionFlow.Text.Blank

/-!
# Reading numbers

What a number typed by a person or written in a file may look like. One grammar of plain decimal
numerals (`readPlain?`) serves three readers, which differ in the blanks, the digits and the
separators that they admit.
-/

namespace DetectionFlow
namespace Numeral

open Text

/-! ## The plain grammar -/

/-- A sign in front, if there is one, and what follows; true for minus. -/
def splitSign : List Char → Bool × List Char
  | '-' :: rest => (true, rest)
  | '+' :: rest => (false, rest)
  | cs => (false, cs)

/-- The ASCII digits in front, as numbers, and what follows them. -/
def spanDigits : List Char → List Nat × List Char
  | [] => ([], [])
  | c :: rest => match asciiDigit? c with
    | some d => let (ds, tail) := spanDigits rest; (d :: ds, tail)
    | none => ([], c :: rest)

/-- The power of ten at the end of a numeral; none written counts as zero. -/
def readExponent? : List Char → Option Int
  | [] => some 0
  | c :: rest =>
    if c = 'e' ∨ c = 'E' then
      let (negative, body) := splitSign rest
      match spanDigits body with
      | ([], _) => none
      | (ds, []) => some (if negative then -(digitsValue ds : Int) else digitsValue ds)
      | (_, _ :: _) => none
    else none

/-- An unsigned numeral: digits with at most one point among or around them, and a power of ten. -/
def readUnsigned? (negative : Bool) (cs : List Char) : Option Double :=
  let (whole, afterWhole) := spanDigits cs
  let (fraction, rest) := match afterWhole with
    | '.' :: more => spanDigits more
    | _ => ([], afterWhole)
  if whole.isEmpty && fraction.isEmpty then none
  else (readExponent? rest).map fun e =>
    Double.ofDecimal negative (digitsValue (whole ++ fraction)) (e - fraction.length)

/-- A numeral with an optional sign, or one of the words for infinity and for no number. -/
def readPlain? (cs : List Char) : Option Double :=
  let (negative, body) := splitSign cs
  let word := String.ofList (body.map Char.toLower)
  if word = "inf" ∨ word = "infinity" then some (.infinity negative)
  else if word = "nan" then some .nan
  else readUnsigned? negative body

/-! ## Separators -/

/-- The text without its underscores, each of which must stand between two digits. -/
def dropBetweenDigits? : List Char → Option (List Char)
  | [] => some []
  | '_' :: _ => none
  | c :: '_' :: rest =>
    match rest with
    | d :: _ =>
      if (asciiDigit? c).isSome && (asciiDigit? d).isSome then
        (dropBetweenDigits? rest).map (c :: ·)
      else none
    | [] => none
  | c :: rest => (dropBetweenDigits? rest).map (c :: ·)

/-- Two underscores follow each other. -/
def hasDoubledSeparator : List Char → Bool
  | '_' :: '_' :: _ => true
  | _ :: rest => hasDoubledSeparator rest
  | [] => false

/-- The text without its underscores, of which there is at least one, none at an end and no two
in a row. -/
def dropInner? (cs : List Char) : Option (List Char) :=
  if cs.head? = some '_' ∨ cs.getLast? = some '_' ∨ !cs.contains '_' ∨ hasDoubledSeparator cs then
    none
  else some (cs.filter (· ≠ '_'))

/-! ## Readers -/

/-- A blank that may stand around a number. The control characters that separate records are blanks
elsewhere, but not here. -/
def isNumberBlank (c : Char) : Bool :=
  isBlank c && !(0x1c ≤ c.toNat && c.toNat ≤ 0x1f)

/-- The text without the blanks that may stand around a number. -/
def trimNumber (cs : List Char) : List Char :=
  ((cs.dropWhile isNumberBlank).reverse.dropWhile isNumberBlank).reverse

/-- A number as a person types it: blanks around it, digits of any script, and single underscores
between digits. -/
def readTyped? (s : String) : Option Double :=
  (dropBetweenDigits? (plainDigits (trimNumber s.toList))).bind readPlain?

/-- A number given as text in a record field. Blanks and underscores exclude each other. -/
def readField? (s : String) : Option Double :=
  match readPlain? (trimNumber s.toList) with
  | some d => some d
  | none => (dropInner? s.toList).bind readPlain?

/-- A sequence of ASCII digits and nothing else, at least one. -/
def readDigits? (cs : List Char) : Option Nat :=
  match spanDigits cs with
  | ([], _) => none
  | (ds, []) => some (digitsValue ds)
  | (_, _ :: _) => none

/-! ### Integers in record fields -/

/-- A numeral without the zeros it begins with. The zero before a point stays, and so does the last
character of a text of zeros. A text that begins with neither a digit nor a minus sign is none. -/
def dropLeadingZeros? : List Char → Option (List Char)
  | [] => none
  | c :: rest =>
    if c = '0' then go c rest
    else if (asciiDigit? c).isSome ∨ c = '-' then some (c :: rest)
    else none
where
  /-- The part after a zero, which was the character before `cs`. -/
  go (last : Char) : List Char → Option (List Char)
    | [] => some [last]
    | c :: rest =>
      if c = '0' ∨ c = '_' then go c rest
      else if (asciiDigit? c).isSome ∨ c = '-' then some (c :: rest)
      else if c = '.' then some (last :: c :: rest)
      else none

/-- A numeral without a fraction of zeros at its end, of which there may be none. -/
def dropZeroFraction (cs : List Char) : List Char :=
  match cs.dropWhile (· ≠ '.') with
  | '.' :: zeros => if zeros.all (· = '0') then cs.takeWhile (· ≠ '.') else cs
  | _ => cs

/-- Why a text is no integer. -/
inductive IntRefusal
  | malformed
  /-- More digits than are read. -/
  | tooLong
  deriving DecidableEq

/-- The most digits of an integer, a minus sign among them. -/
def longestInt : Nat := 4300

/-- An integer with no zero in front of other digits. -/
def readStrictInt (cs : List Char) : Except IntRefusal Int :=
  let (negative, body) : Bool × List Char := match cs with
    | '-' :: rest => (true, rest)
    | _ => (false, cs)
  let (ds, rest) := spanDigits body
  match ds with
  | [] => .error .malformed
  | 0 :: _ :: _ => .error .malformed
  | _ =>
    -- The digits are counted before what follows them is looked at.
    if longestInt < ds.length + (if negative then 1 else 0) then .error .tooLong
    else if !rest.isEmpty then .error .malformed
    else .ok (if negative then -(digitsValue ds : Int) else digitsValue ds)

/-- The text of an integer in its strict form: zeros in front, a fraction of zeros and single
underscores inside are dropped. Of two signs the second must be a minus after some zero. -/
def strictForm? (cs : List Char) : Option (List Char) := do
  let body ← match cs with
    | '+' :: '-' :: _ => none
    | '+' :: rest => dropLeadingZeros? rest
    | '-' :: rest => do
      let body ← dropLeadingZeros? rest
      if body.head? = some '-' ∨ body.head? = some '_' then none else some ('-' :: body)
    | _ => dropLeadingZeros? cs
  let plain := dropZeroFraction body
  return (dropInner? plain).getD plain

/-- An integer given as text in a record field. -/
def readIntField (s : String) : Except IntRefusal Int :=
  match strictForm? (trimNumber s.toList) with
  | some cs => readStrictInt cs
  | none => .error .malformed

end Numeral
end DetectionFlow
