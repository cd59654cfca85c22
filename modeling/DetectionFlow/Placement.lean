import DetectionFlow.Record

/-!
# Placing records

Where the nodes of restored records are drawn. Roots stand side by side in the first row. All other
records are placed in passes: a pass places every record whose parent was placed before the pass
began, one row below it, each sibling further to the right. After ten passes the records that are
left stay unplaced.
-/

namespace DetectionFlow

/-- A record with its place in the drawing. -/
structure Placed where
  record : Record
  row : Nat
  x : Int
  deriving DecidableEq, Inhabited

namespace Placed

/-! ## Measures of the drawing -/

/-- The position of the first root. -/
def firstColumn : Int := 100

/-- The distance between roots. -/
def columnWidth : Int := 250

/-- The distance between rows. -/
def rowHeight : Nat := 120

/-- The distance between siblings. -/
def siblingOffset : Int := 180

/-- How many passes are made. -/
def passes : Nat := 10

/-- The distance of a place from the top. -/
def y (p : Placed) : Int := p.row * rowHeight

/-! ## Passes -/

/-- The roots in their columns. -/
def columns : Nat → List Record → List Placed
  | _, [] => []
  | n, r :: rest => ⟨r, 0, firstColumn + n * columnWidth⟩ :: columns (n + 1) rest

/-- The place of the record that another one names as its parent. -/
def parentOf? (placed : List Placed) (r : Record) : Option Placed :=
  r.parent.bind fun id => placed.find? (·.record.id = id)

/-- How many records were placed below the parent of a record. -/
def siblings (placed : List Placed) (r : Record) : Nat :=
  placed.countP fun p => 0 < p.row && p.record.parent = r.parent

/-- The state between two records of a pass: what is placed, and what is left for the next one. -/
structure Progress where
  placed : List Placed
  waiting : List Record

/-- Places a record below its parent if that was placed before the pass began. -/
def place (before : List Placed) (p : Progress) (r : Record) : Progress :=
  match parentOf? before r with
  | none => { p with waiting := p.waiting ++ [r] }
  | some parent =>
    -- Siblings are counted among all that is placed by now, this pass included.
    let x := parent.x + siblings p.placed r * siblingOffset
    { p with placed := p.placed ++ [⟨r, parent.row + 1, x⟩] }

/-- One pass over the records that wait. -/
def pass (p : Progress) : Progress :=
  p.waiting.foldl (place p.placed) ⟨p.placed, []⟩

/-- Several passes. -/
def run : Nat → Progress → Progress
  | 0, p => p
  | n + 1, p => run n (pass p)

/-- The placed records in the order of their placement, and those that are left. -/
def arrange (roots children : List Record) : Progress :=
  run passes ⟨columns 0 roots, children⟩

end Placed
end DetectionFlow
