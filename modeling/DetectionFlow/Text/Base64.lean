import DetectionFlow.Text.Blank

/-!
# Bytes in base 64

Bytes as a text of letters, six bits each. Reading is lenient: characters that are no digits of the
base count for nothing, and once a group of four is filled up by equals signs, nothing behind it is
looked at. A group that is neither complete nor filled up is refused.

Main statement: each digit has six bits (`digit?_lt`).
-/

namespace DetectionFlow
namespace Text
namespace Base64

/-- The value of a digit of the base. -/
def digit? (c : Char) : Option Nat :=
  if 'A' ≤ c ∧ c ≤ 'Z' then some (c.toNat - 'A'.toNat)
  else if 'a' ≤ c ∧ c ≤ 'z' then some (c.toNat - 'a'.toNat + 26)
  else match asciiDigit? c with
    | some d => some (d + 52)
    | none => if c = '+' then some 62 else if c = '/' then some 63 else none

/-- The digits of a group so far: at most three, the others are bytes already. -/
inductive Group
  | none
  | one (a : Nat)
  | two (a b : Nat)
  | three (a b c : Nat)

/-- How many equals signs fill up the group; none if it is too small for that. -/
def Group.gap? : Group → Option Nat
  | none | one _ => .none
  | two .. => some 2
  | three .. => some 1

/-- The bytes that are complete in a group. -/
def Group.bytes : Group → List UInt8
  | none | one _ => []
  | two a b => [(a * 4 + b / 16).toUInt8]
  | three a b c => [(a * 4 + b / 16).toUInt8, (b % 16 * 16 + c / 4).toUInt8]

/-- Reads on inside a group after some equals signs. -/
def decodeFrom : Group → Nat → List Char → Option (List UInt8)
  | .none, _, [] => some []
  | _, _, [] => Option.none
  | group, signs, ch :: rest =>
    if ch = '=' then
      match group.gap? with
      | some gap =>
        if gap ≤ signs + 1 then some group.bytes else decodeFrom group (signs + 1) rest
      | Option.none => decodeFrom group signs rest
    else match digit? ch with
      | Option.none => decodeFrom group signs rest
      | some d => match group with
        | .none => decodeFrom (.one d) 0 rest
        | .one a => decodeFrom (.two a d) 0 rest
        | .two a b => decodeFrom (.three a b d) 0 rest
        | .three a b c =>
          ((Group.three a b c).bytes ++ [(c % 4 * 64 + d).toUInt8] ++ ·) <$>
            decodeFrom .none 0 rest

/-- The bytes that a text denotes. -/
def decode? (s : String) : Option (List UInt8) := decodeFrom .none 0 s.toList

/-- A digit has six bits. -/
theorem digit?_lt {c : Char} {d : Nat} (h : digit? c = some d) : d < 64 := by
  unfold digit? at h
  split at h
  · next hc =>
    obtain rfl := Option.some.inj h
    have := hc.2
    simp only [Char.le_def, UInt32.le_iff_toNat_le] at this
    simp only [Char.toNat]
    have h2 : ('Z' : Char).val.toNat = 90 := rfl
    have h3 : ('A' : Char).val.toNat = 65 := rfl
    omega
  · split at h
    · next hc =>
      obtain rfl := Option.some.inj h
      have := hc.2
      simp only [Char.le_def, UInt32.le_iff_toNat_le] at this
      simp only [Char.toNat]
      have h2 : ('z' : Char).val.toNat = 122 := rfl
      have h3 : ('a' : Char).val.toNat = 97 := rfl
      omega
    · split at h
      · next e he =>
        obtain rfl := Option.some.inj h
        unfold asciiDigit? at he
        split at he
        · next hc =>
          obtain rfl := Option.some.inj he
          have := hc.2
          simp only [Char.le_def, UInt32.le_iff_toNat_le] at this
          simp only [Char.toNat]
          have h2 : ('9' : Char).val.toNat = 57 := rfl
          omega
        · simp at he
      · split at h
        · obtain rfl := Option.some.inj h
          omega
        · split at h
          · obtain rfl := Option.some.inj h
            omega
          · simp at h

end Base64
end Text
end DetectionFlow
