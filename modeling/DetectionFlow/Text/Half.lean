/-!
# Halves of characters

Some formats write a character beyond the first 65536 as a pair of codes, and a text in such a
format may hold one half of a pair alone. A half is no character. Texts keep it all the same, as a
stand-in from a range of characters that have no meaning, so that it can be written out again as it
came, and refused where only characters may stand.

Main statement: the stand-in of a half stands for that half
(`code?_char`).
-/

namespace DetectionFlow
namespace Text
namespace Half

/-! ## Codes -/

/-- The codes of halves. Those of the first half of a pair come before those of the second. -/
def first : Nat := 0xd800

def firstOfSecond : Nat := 0xdc00

/-- The first code after those of halves. -/
def limit : Nat := 0xe000

def isHalf (code : Nat) : Bool := first ≤ code && code < limit

/-- The character of a pair. -/
def join (high low : Nat) : Char :=
  Char.ofNat (0x10000 + (high - first) * 0x400 + (low - firstOfSecond))

/-- The two halves of a character that is written as a pair. -/
def split (code : Nat) : Nat × Nat :=
  let rest := code - 0x10000
  (first + rest / 0x400, firstOfSecond + rest % 0x400)

/-! ## Stand-ins -/

/-- How far the stand-in of a half lies above it. -/
def distance : Nat := 0xd0000

/-- The character of a code; of a half its stand-in. -/
def char (code : Nat) : Char :=
  Char.ofNat (if isHalf code then code + distance else code)

/-- The half that a character stands for. -/
def code? (c : Char) : Option Nat :=
  if isHalf (c.toNat - distance) && distance ≤ c.toNat then some (c.toNat - distance) else none

/-- The code of a character, or of the half that it stands for. -/
def code (c : Char) : Nat := (code? c).getD c.toNat

/-- The codes are the two halves of one character. The two halves of a stand-in are left as they are,
since it would stand for something else. -/
def isPair (high low : Nat) : Bool :=
  first ≤ high && high < firstOfSecond && firstOfSecond ≤ low && low < limit &&
    (code? (join high low)).isNone

/-- Some character of a text stands for a half. -/
def isIn (s : String) : Bool := s.toList.any fun c => (code? c).isSome

theorem toNat_char {n : Nat} (h : isHalf n = true) : (char n).toNat = n + distance := by
  have hn : first ≤ n ∧ n < limit := by simpa [isHalf] using h
  have hv : (n + distance).isValidChar := by
    right
    simp only [first, limit, distance] at *
    omega
  rw [char, if_pos h, Char.ofNat, dif_pos hv]
  rfl

/-- The half of a stand-in is the one that it was made for. -/
theorem code?_char {n : Nat} (h : isHalf n = true) : code? (char n) = some n := by
  simp [code?, toNat_char h, h]

end Half

/-- The characters of a sequence of codes, with the two halves of a pair made one. -/
def joinPairs : List Nat → List Char
  | high :: low :: rest =>
    if Half.isPair high low then Half.join high low :: joinPairs rest
    else Half.char high :: joinPairs (low :: rest)
  | [code] => [Half.char code]
  | [] => []

end Text
end DetectionFlow
