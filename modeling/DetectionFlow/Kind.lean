/-!
# Node kinds, record types and directions

The nine kinds of node that a graph is built from, the six record types that the compositor knows,
and which kind is written as which record. Objects and Events have no record: they exist in the
graph only.

Main statements: names read back as what they name (`Kind.ofName?_name`, `RecordType.ofName?_name`,
`Direction.ofName?_name`).
-/

namespace DetectionFlow

/-! ## Record types -/

/-- The record types of the compositor. -/
inductive RecordType
  | roi
  | line
  | filter
  | speed
  | and
  | alarm
  deriving DecidableEq, Repr

namespace RecordType

/-- The name on the wire; case matters. -/
def name : RecordType → String
  | roi => "ROI"
  | line => "Line"
  | filter => "Filter"
  | speed => "Speed"
  | and => "And"
  | alarm => "Alarm"

def all : List RecordType := [roi, line, filter, speed, and, alarm]

/-- The spelling of the zone type in older payloads. -/
def olderRoi : String := "RoI"

/-- The record type with a name. Zones have an older spelling besides. -/
def ofName? (s : String) : Option RecordType :=
  if s = olderRoi then some roi else all.find? (·.name = s)

@[simp] theorem ofName?_name (t : RecordType) : ofName? t.name = some t := by
  cases t <;> decide

end RecordType

/-! ## Directions -/

/-- The direction in which a line is crossed. -/
inductive Direction
  | aToB
  | bToA
  | both
  deriving DecidableEq, Repr, Inhabited

namespace Direction

def name : Direction → String
  | aToB => "A2B"
  | bToA => "B2A"
  | both => "BOTH"

def all : List Direction := [aToB, bToA, both]

def ofName? (s : String) : Option Direction := all.find? (·.name = s)

@[simp] theorem ofName?_name (d : Direction) : ofName? d.name = some d := by
  cases d <;> decide

end Direction

/-! ## Node kinds -/

/-- The kinds of node, in the order in which menus list them. -/
inductive Kind
  | object
  | zone
  | line
  | event
  | count
  | timeout
  | speed
  | merge
  | alarm
  deriving DecidableEq, Repr, Inhabited

namespace Kind

/-- The name in documents. -/
def name : Kind → String
  | object => "object"
  | zone => "zone"
  | line => "line"
  | event => "event"
  | count => "count"
  | timeout => "timeout"
  | speed => "speed"
  | merge => "merge"
  | alarm => "alarm"

/-- The name shown to people, and the stem of default labels. -/
def title : Kind → String
  | object => "Object"
  | zone => "Zone"
  | line => "Line"
  | event => "Event"
  | count => "Count"
  | timeout => "Timeout"
  | speed => "Speed"
  | merge => "Merge"
  | alarm => "Alarm"

/-- All kinds in menu order. -/
def all : List Kind := [object, zone, line, event, count, timeout, speed, merge, alarm]

/-- All kinds in the order of the palette: sources, areas, conditions, sinks. -/
def palette : List Kind := [object, zone, line, count, timeout, speed, merge, event, alarm]

def ofName? (s : String) : Option Kind := all.find? (·.name = s)

@[simp] theorem ofName?_name (k : Kind) : ofName? k.name = some k := by
  cases k <;> decide

/-- The record that a kind is written as; none if it is never written. -/
def recordType? : Kind → Option RecordType
  | object | event => none
  | zone => some .roi
  | line => some .line
  | count | timeout => some .filter
  | speed => some .speed
  | merge => some .and
  | alarm => some .alarm

/-- Nodes of the kind are written as records. -/
def emits (k : Kind) : Bool := k.recordType?.isSome

/-- The kind accepts an incoming edge. -/
def hasInput (k : Kind) : Bool := k ≠ object

/-- The kind has an outgoing edge. -/
def hasOutput (k : Kind) : Bool := k ≠ alarm

/-- Nodes downstream derive their detection target from the kind. -/
def providesTarget (k : Kind) : Bool := k = object

/-- The kinds that a kind normally feeds. -/
def suggested : Kind → List Kind
  | object => [zone, line]
  | zone | line => [event, timeout, count, speed, merge]
  | count | timeout | speed => [event, merge]
  | merge => [event]
  | event => [alarm]
  | alarm => []

/-- The kinds that are written as a record type. -/
def ofRecordType (t : RecordType) : List Kind :=
  palette.filter fun k => k.recordType? = some t

/-- A kind that stands for an area of the frame. -/
def isArea (k : Kind) : Bool := k = zone || k = line

end Kind
end DetectionFlow
