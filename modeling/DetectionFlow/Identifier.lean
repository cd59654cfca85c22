import DetectionFlow.Graph.Edit
import DetectionFlow.Text.Quoted

/-!
# Identifiers

The form of a fresh identifier: 32 hexadecimal digits in five groups, of which six bits are fixed.
The others come from a number, so that a run that starts at a random number draws identifiers that
no other run draws.
-/

namespace DetectionFlow
namespace Identifier

-- Powers are those of the core library, so that they are the same whatever is imported.
attribute [local instance (high)] instPowNat

/-- How many bits of an identifier are free. -/
def freeBits : Nat := 122

/-- Some bits of a number: so many, above so many others. -/
def bits (width above n : Nat) : Nat := n / 2 ^ above % 2 ^ width

/-- The identifier of a number. -/
def layout (n : Nat) : String :=
  let group := fun width value => String.ofList (Text.hexDigits width value)
  String.intercalate "-"
    [group 8 (bits 32 90 n), group 4 (bits 16 74 n), "4" ++ group 3 (bits 12 62 n),
     group 4 (0x8000 + bits 14 48 n), group 12 (bits 48 0 n)]

/-- The identifiers that follow on a number. -/
def source (start : Nat) : IdSource := ⟨fun n => layout (start + n), 0⟩

end Identifier
end DetectionFlow
