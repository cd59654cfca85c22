import DetectionFlow.Value

/-!
# The order of a set

A set of numbers keeps them in a row of slots and is run through slot by slot. The slot of a number
follows from its residue. If it is taken, the number goes to the first free slot on a walk that the
residue determines. A row that fills up is exchanged for a longer one. Members other than numbers stay
in the order in which they came.

Main functions: `Slots.atOnce` for members that come together, `Slots.oneByOne` for members that come
after each other.
-/

namespace DetectionFlow

-- Powers are those of the core library, so that they are the same whatever is imported.
attribute [local instance (high)] instPowNat

/-! ## Residues -/

namespace Number

/-- The modulus of residues, a prime number. -/
def modulus : Nat := 2 ^ (61 : Nat) - 1

/-- The residue of all infinite numbers, up to the sign. -/
def infiniteResidue : Int := 314159

/-- The residue that a remainder stands for. Minus one is none. -/
def residueOf (remainder : Int) : Int := if remainder = -1 then -2 else remainder

/-- The residue of a number; equal numbers have one residue. What is no number has none. A double is a
count of units of `2 ^ -1074`, and that power leaves the same remainder as `2 ^ 24`. -/
def residue? : Number → Option Int
  | int n => some (residueOf (n.tmod modulus))
  | float x => match x with
    | .nan => none
    | .infinity negative => some (if negative then -infiniteResidue else infiniteResidue)
    | .finite negative units _ =>
      some (residueOf (Double.signed negative (units * 2 ^ (24 : Nat) % modulus)))

end Number

/-- The residue of a member that is a number. -/
def Value.residue? (v : Value) : Option Int := v.number?.bind Number.residue?

/-! ## Rows of slots -/

/-- A row of slots, of which some are taken by members with their residues. -/
structure Slots (α : Type) where
  row : Array (Option (Int × α))
  taken : Nat

namespace Slots

/-- The length of a row for more than a number of members: the next power of two, at least eight. -/
def lengthAbove (count : Nat) : Nat := max 8 (2 ^ (count.log2 + 1))

def empty (length : Nat) : Slots α := ⟨Array.replicate length none, 0⟩

def isTaken (s : Slots α) (slot : Nat) : Bool := (s.row.getD slot none).isSome

/-- The number of slots that a walk tries one after the other, where so many follow. -/
def stride : Nat := 10

/-- The slots from one on that are tried before the walk goes on elsewhere. -/
def tried (length slot : Nat) : List Nat :=
  if slot + stride ≤ length then (List.range stride).map (slot + ·) else [slot]

/-- The first free slot of a walk from a slot on. The walk leaps by what is left of the residue, which
gets smaller with each leap. -/
def walk (s : Slots α) : Nat → Nat → Nat → Nat
  | 0, slot, _ => slot
  | fuel + 1, slot, left =>
    match (tried s.row.size slot).find? (!s.isTaken ·) with
    | some free => free
    | none =>
      let left := left / 32
      s.walk fuel ((slot * 5 + 1 + left) % s.row.size) left

/-- Takes a slot for a member with its residue. A walk has reached all slots after as many leaps as
there are slots and as the residue, of 64 bits, has groups of five. -/
def put (s : Slots α) (member : Int × α) : Slots α :=
  let start := (member.1 % 2 ^ (64 : Nat)).toNat
  let slot := s.walk (s.row.size + 13) (start % s.row.size) start
  ⟨s.row.setIfInBounds slot (some member), s.taken + 1⟩

/-- The members with their residues, in the order of their slots. -/
def members (s : Slots α) : List (Int × α) := s.row.toList.filterMap id

/-- The members of a row in a row of another length. -/
def moved (s : Slots α) (length : Nat) : Slots α := s.members.foldl put (empty length)

/-- Three of five slots are taken. -/
def isFull (s : Slots α) : Bool := 3 * (s.row.size - 1) ≤ 5 * s.taken

/-- Takes a slot, and a longer row if the row is full then. -/
def add (s : Slots α) (member : Int × α) : Slots α :=
  let s := s.put member
  if s.isFull then s.moved (lengthAbove (4 * s.taken)) else s

/-- What stands beside the members of a set, in the order of their slots if all of them are numbers. -/
def arrange (start : Slots α) (members : List (Value × α)) : List α :=
  match members.mapM fun m => m.1.residue?.map (·, m.2) with
  | some numbers => (numbers.foldl add start).members.map (·.2)
  | none => members.map (·.2)

/-- What stands beside members that come together, into a row that is long enough from the start. -/
def atOnce (members : List (Value × α)) : List α :=
  arrange (empty (if members.length < 5 then lengthAbove 0 else lengthAbove (2 * members.length)))
    members

/-- What stands beside members that come one by one, into a row that gets longer. -/
def oneByOne (members : List (Value × α)) : List α := arrange (empty (lengthAbove 0)) members

end Slots
end DetectionFlow
