import DetectionFlow.Text.Half
import DetectionFlow.Text.Printable

/-!
# Quoted texts

How a text appears between quotes in a message: single quotes, unless it holds a single quote and
no double quote; the quote in use and the backslash get a backslash, and characters that cannot be
shown get an escape. Bytes appear as the characters of their numbers, all but ASCII escaped, after a
letter.
-/

namespace DetectionFlow
namespace Text

/-- The lower-case hexadecimal digits of a number, padded with zeros to a width. -/
def hexDigits (width n : Nat) : List Char :=
  let digits := Nat.toDigits 16 n
  List.replicate (width - digits.length) '0' ++ digits

/-- The escape of a character that has a short one between quotes. -/
def quotedShort? (quote c : Char) : Option (List Char) :=
  if c = quote ∨ c = '\\' then some ['\\', c]
  else if c = '\n' then some ['\\', 'n']
  else if c = '\r' then some ['\\', 'r']
  else if c = '\t' then some ['\\', 't']
  else none

/-- The escape of a character by its number. -/
def quotedCode (c : Char) : List Char :=
  match Half.code? c with
  | some half => '\\' :: 'u' :: hexDigits 4 half
  | none =>
    if c.toNat < 0x100 then '\\' :: 'x' :: hexDigits 2 c.toNat
    else if c.toNat < 0x10000 then '\\' :: 'u' :: hexDigits 4 c.toNat
    else '\\' :: 'U' :: hexDigits 8 c.toNat

/-- One character between quotes. -/
def quotedChar (quote c : Char) : List Char :=
  match quotedShort? quote c with
  | some escape => escape
  | none => if isPrintable c then [c] else quotedCode c

/-- The quote that a text is put between. -/
def quoteFor (cs : List Char) : Char :=
  if cs.contains '\'' && !cs.contains '"' then '"' else '\''

/-- A text between quotes. -/
def quoted (s : String) : String :=
  let quote := quoteFor s.toList
  String.ofList (quote :: (s.toList.flatMap (quotedChar quote) ++ [quote]))

/-- The number of a byte between quotes. -/
def quotedByte (quote : Char) (b : UInt8) : List Char :=
  let c := Char.ofNat b.toNat
  match quotedShort? quote c with
  | some escape => escape
  | none => if ' ' ≤ c ∧ c ≤ '~' then [c] else '\\' :: 'x' :: hexDigits 2 b.toNat

/-- Bytes between quotes. -/
def quotedBytes (bytes : List UInt8) : String :=
  let quote := quoteFor (bytes.map fun b => Char.ofNat b.toNat)
  String.ofList ('b' :: quote :: (bytes.flatMap (quotedByte quote) ++ [quote]))

end Text
end DetectionFlow
