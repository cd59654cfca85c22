import DetectionFlow.Check

/-!
# Plans

The records of a graph as the forest that their parent links describe, for an operator to look at
before saving. A record whose parent is among the records hangs below it; all others are roots.
-/

namespace DetectionFlow

/-- A record with the entries below it. -/
inductive Entry
  | node (record : Record) (children : List Entry)
  deriving Inhabited

/-- What would be saved. -/
structure Plan where
  roots : List Entry
  compiled : Compiled
  /-- The labels of the nodes without a record. -/
  elidedLabels : List String
  /-- The labels of the nodes that stages feed which are not recorded. -/
  droppedParentLabels : List String

namespace Plan

/-! ## The forest -/

/-- The parent of a record among some records. The empty identifier names none. -/
def parentIn? (records : List Record) (r : Record) : Option String :=
  r.parent.filter fun p => !p.isEmpty && records.any (·.id = p)

/-- The records without a parent among them. -/
def rootsOf (records : List Record) : List Record :=
  records.filter fun r => (parentIn? records r).isNone

/-- The records below one. -/
def childrenOf (records : List Record) (id : String) : List Record :=
  records.filter fun r => parentIn? records r = some id

/-- A record with all that hangs below it, at most so many levels deep. -/
def entryWithin (records : List Record) : Nat → Record → Entry
  | 0, r => .node r []
  | depth + 1, r => .node r ((childrenOf records r.id).map (entryWithin records depth))

/-- The forest of some records. A chain of links from a root passes no record twice, so no entry
lies deeper than there are records. -/
def forest (records : List Record) : List Entry :=
  (rootsOf records).map (entryWithin records records.length)

/-- The plan of a graph. -/
def ofCompiled (g : Graph) (c : Compiled) : Plan :=
  ⟨forest c.settings.records, c, c.elided.map g.labelOf, c.droppedParents.map g.labelOf⟩

end Plan

/-- The plan of a graph, with the notices of its compilation. -/
def Graph.plan (g : Graph) : Noted Plan := do
  let c ← g.compileNoted
  return Plan.ofCompiled g c

/-! ## The plan in words -/

mutual

/-- The lines of an entry and of what hangs below it, each level two blanks deeper. -/
def Entry.lines (indent : String) : Entry → List String
  | .node r children =>
    let details := r.describe
    (indent ++ "+ " ++ r.name ++ " (" ++ r.body.recordType.name ++ ")") ::
      (if details.isEmpty then [] else [indent ++ "    " ++ details]) ++
      Entry.linesOfAll (indent ++ "  ") children

def Entry.linesOfAll (indent : String) : List Entry → List String
  | [] => []
  | e :: rest => e.lines indent ++ Entry.linesOfAll indent rest

end

namespace Plan

/-- The plan in lines. -/
def lines (p : Plan) : List String :=
  ["", "Event Settings Plan", CheckReport.rule, "  version: " ++ p.compiled.settings.version,
    "", "Records:"] ++
  (if p.roots.isEmpty then ["  (none)"] else Entry.linesOfAll "  " p.roots) ++
  CheckReport.listing "Not saved (no wire record):" "-" p.elidedLabels ++
  CheckReport.listing "Extra upstream stages not recorded:" "!" p.droppedParentLabels ++
  ["", toString p.compiled.settings.records.length ++ " record(s) ready to save.", ""]

/-- The plan as it is printed. -/
def text (p : Plan) : String := CheckReport.ofLines p.lines

end Plan
end DetectionFlow
