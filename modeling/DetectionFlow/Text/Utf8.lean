/-!
# Texts as bytes

Files and the bodies of answers are bytes. `Utf8.decode` reads bytes as UTF-8, strictly: it refuses
bytes that no character begins with, characters that go on wrongly, and a character that the end
cuts short, and says where. `Utf8.encode` is the way back.

A machine reads one byte at a time. Between characters it holds nothing; inside one it holds the
bytes seen of it, how many are owed, and the range of the next one.
-/

namespace DetectionFlow
namespace Text
namespace Utf8

/-! ## Refusals -/

/-- What is wrong with some bytes. -/
inductive Defect
  | badStart
  | badContinuation
  /-- The bytes end inside a character. -/
  | unfinished
  /-- One of these, told without saying which. -/
  | unnamed
  deriving DecidableEq

def Defect.message : Defect → String
  | badStart => "invalid start byte"
  | badContinuation => "invalid continuation byte"
  | unfinished => "unexpected end of data"
  | unnamed => "invalid utf-8"

/-- The first bytes that are no character: their place, themselves, and what is wrong. -/
structure Refusal where
  place : Nat
  bytes : List UInt8
  defect : Defect
  deriving DecidableEq

/-- The first of the bytes alone, without a reason. -/
def Refusal.brief (r : Refusal) : Refusal := ⟨r.place, r.bytes.take 1, .unnamed⟩

/-! ## The machine -/

/-- A character of which some bytes were read. -/
structure Pending where
  /-- The place of its first byte. -/
  place : Nat
  seen : List UInt8
  /-- The number that the bytes seen so far denote. -/
  code : Nat
  /-- How many bytes are owed. -/
  owed : Nat
  /-- The least and the greatest byte that may follow. -/
  least : Nat
  greatest : Nat

/-- What a first byte begins: the number in it, how many bytes it owes, and the range of the next
one. The ranges leave out longer forms of short characters, surrogates, and what lies beyond the
last character. -/
def lead? (b : Nat) : Option (Nat × Nat × Nat × Nat) :=
  if b < 0x80 then some (b, 0, 0, 0)
  else if b < 0xc2 then none
  else if b < 0xe0 then some (b - 0xc0, 1, 0x80, 0xbf)
  else if b < 0xf0 then
    some (b - 0xe0, 2, if b = 0xe0 then 0xa0 else 0x80, if b = 0xed then 0x9f else 0xbf)
  else if b < 0xf5 then
    some (b - 0xf0, 3, if b = 0xf0 then 0x90 else 0x80, if b = 0xf4 then 0x8f else 0xbf)
  else none

/-- Reads on at a place, inside a character or between two. The characters read so far come in
reverse. -/
def run : Nat → Option Pending → List Char → List UInt8 → Except Refusal (List Char)
  | _, none, read, [] => .ok read.reverse
  | _, some p, _, [] => .error ⟨p.place, p.seen, .unfinished⟩
  | place, none, read, b :: rest =>
    match lead? b.toNat with
    | none => .error ⟨place, [b], .badStart⟩
    | some (code, 0, _, _) => run (place + 1) none (Char.ofNat code :: read) rest
    | some (code, owed, least, greatest) =>
      run (place + 1) (some ⟨place, [b], code, owed, least, greatest⟩) read rest
  | place, some p, read, b :: rest =>
    if p.least ≤ b.toNat ∧ b.toNat ≤ p.greatest then
      let code := p.code * 0x40 + b.toNat % 0x40
      if p.owed ≤ 1 then run (place + 1) none (Char.ofNat code :: read) rest
      else run (place + 1) (some ⟨p.place, p.seen ++ [b], code, p.owed - 1, 0x80, 0xbf⟩) read rest
    else .error ⟨p.place, p.seen, .badContinuation⟩

/-- The text that bytes denote. -/
def decode (bytes : List UInt8) : Except Refusal String :=
  (run 0 none [] bytes).map String.ofList

/-- The text that bytes denote, if they denote one. -/
def decode? (bytes : List UInt8) : Option String := (decode bytes).toOption

/-! ## Reading in pieces -/

/-- Whether a byte goes on with a character. -/
def isContinuation (b : UInt8) : Bool := b.toNat / 0x40 == 2

/-- How many bytes before a place belong to a character that goes on there. -/
def cutBefore (bytes : List UInt8) (place : Nat) : Nat :=
  if (bytes.drop place).head?.any isContinuation then
    ((bytes.take place).reverse.takeWhile isContinuation).length + 1
  else 0

/-- How many of its bytes have to be read until a refusal is certain. -/
def Refusal.certainAt (r : Refusal) : Nat :=
  match r.defect with
  | .badContinuation => r.place + r.bytes.length
  | _ => r.place

/-- A refusal as it is found by reading some bytes piece by piece. The bytes of a character that the
end of a piece cuts are read again with the next one, and a place is counted from the first byte that
is read with the piece. The end of the bytes is a piece of its own. -/
def Refusal.inPieces (size : Nat) (bytes : List UInt8) (r : Refusal) : Refusal :=
  if r.defect = .unfinished then { r with place := 0 }
  else
    let start := r.certainAt / size * size
    { r with place := if r.place ≤ start then 0 else r.place - (start - cutBefore bytes start) }

/-- The bytes of a text. -/
def encode (s : String) : List UInt8 := s.toUTF8.toList

end Utf8

/-! ## Line breaks -/

/-- The same text with every line break in one form. -/
def unifyBreaks : List Char → List Char
  | '\r' :: '\n' :: rest => '\n' :: unifyBreaks rest
  | '\r' :: rest => '\n' :: unifyBreaks rest
  | c :: rest => c :: unifyBreaks rest
  | [] => []

end Text
end DetectionFlow
