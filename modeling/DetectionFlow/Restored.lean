import DetectionFlow.Alarm
import DetectionFlow.Graph.Edit
import DetectionFlow.Notice
import DetectionFlow.Placement
import DetectionFlow.Record.Reader

/-!
# Restored graphs

The graph of saved records. Records that no node stands for, or that break the schema, are dropped;
so is every record with the identifier of an earlier one. The others become nodes where `Placed`
puts them, with an edge from each parent to its child. Object and Event nodes are not restored,
since nothing of them was saved.

Main functions: `Saved.sift` (which records are kept), `Saved.isRoot` (which of them start a chain)
and `Saved.restore`.
-/

namespace DetectionFlow

/-- A saved entry: raw, as it was stored, or a record that was read already. -/
inductive Saved
  | raw (v : Value)
  | record (r : Record)

/-- A graph made of saved records. -/
structure Restored where
  graph : Graph
  /-- The records that no node was made for: unknown, invalid or repeated. -/
  dropped : List String
  /-- The records that no place was found for. -/
  unplaced : List String
  /-- What an operator should know about the graph. -/
  warnings : List String
  deriving Inhabited

namespace Saved

/-! ## Which records are kept -/

/-- The identifier that an entry states. -/
def id? : Saved → Option String
  | record r => some r.id
  | raw v => (v.get? "eventSettingId").bind Value.text?

/-- The identifier of an entry for reports. -/
def reportId (s : Saved) : String :=
  match s.id? with
  | some id => if id.isEmpty then "<missing id>" else id
  | none => "<missing id>"

/-- What becomes of an entry on its own. -/
inductive Verdict
  | keep (r : Record)
  | drop (id : String) (why : Notice)

/-- The type that a raw entry states; a list or a mapping cannot be looked up. -/
def typeOf (fs : Fields) : Except Fault (Value × Option RecordType) :=
  let v := (fs.get? "eventType").getD .null
  if v.isKey then .ok (v, v.text?.bind RecordType.ofName?) else .error (.noKey v.typeName)

/-- Reads the fields of a raw entry. -/
def judgeFields (s : Saved) (fs : Fields) : Except Fault Verdict := do
  match ← typeOf fs with
  | (type, none) => return .drop s.reportId (.unmapped s.reportId type)
  | (type, some _) =>
    match (Record.read (.object fs)).toExcept with
    | .ok r => return .keep r
    | .error vs => return .drop s.reportId (.invalid s.reportId type vs)

/-- Reads an entry. -/
def judge (s : Saved) : Except Fault Verdict :=
  match s with
  | record r => .ok (.keep r)
  | raw (.object fs) => judgeFields s fs
  | raw v => .ok (.drop s.reportId (.notObject v))

/-- The entries seen so far, kept and dropped. -/
structure Sifted where
  kept : List Record
  dropped : List String

/-- Takes one more entry. The first record with an identifier stays. -/
def siftOne (acc : Sifted) (s : Saved) : Noted Sifted := do
  match ← Noted.ofFault s.judge with
  | .drop id why =>
    Noted.tell why
    return { acc with dropped := acc.dropped ++ [id] }
  | .keep r =>
    -- Only a record that is valid itself can be a repetition.
    if acc.kept.any (·.id = r.id) then
      Noted.tell (.duplicate r.id)
      return { acc with dropped := acc.dropped ++ [r.id] }
    else return { acc with kept := acc.kept ++ [r] }

/-- Which records are kept, and what was dropped. -/
def sift (entries : List Saved) : Noted Sifted :=
  entries.foldlM siftOne ⟨[], []⟩

/-! ## Roots -/

/-- The identifiers that any entry states. -/
def present (entries : List Saved) : List String := entries.filterMap id?

/-- The kept record that another one names as its parent. -/
def parentAmong? (kept : List Record) (r : Record) : Option Record :=
  r.parent.bind fun id => kept.find? (·.id = id)

/-- The kind of a parent that has no output. -/
def closedParent? (kept : List Record) (r : Record) : Option Kind :=
  (parentAmong? kept r).bind fun p => if p.body.kind.hasOutput then none else some p.body.kind

/-- The record names a parent that some entry has. -/
def hasParent (present : List String) (r : Record) : Bool :=
  match r.parent with
  | some id => !id.isEmpty && present.contains id
  | none => false

/-- The record starts a chain: it names no parent that there is, or one without an output. -/
def isRoot (present : List String) (kept : List Record) (r : Record) : Bool :=
  !hasParent present r || (closedParent? kept r).isSome

/-- The notice about a record below one without an output. -/
def closedNotice? (present : List String) (kept : List Record) (r : Record) : Option Notice :=
  if hasParent present r then
    (closedParent? kept r).map fun kind => .closedParent r.id (r.parent.getD "") kind
  else none

/-! ## Nodes -/

/-- Why an alarm text cannot be read, for a warning. -/
def unreadable : Fault → String
  | .notBindingList => Fault.notBindingList.message
  | .badBinding why => (Fault.badBinding why).message
  | _ => Fault.badJson.message

/-- The payload of a record. An alarm text that cannot be read leaves no bindings and a notice; one
with a number beyond all doubles, or one that is too deep, is a fault. -/
def payloadOf (r : Record) : Noted Payload :=
  match r.body with
  | .zone points _ detectionPoint => .done (.zone points (Value.ofText? detectionPoint))
  | .line points direction _ detectionPoint =>
    .done (.line points direction (Value.ofText? detectionPoint))
  | .count condition => .done (.count (.text condition))
  | .timeout seconds => .done (.timeout seconds.toValue)
  | .speed turn => .done (.speed (match turn with | some n => .int n | none => .null))
  | .merge inOrder => .done (.merge (match inOrder with | some b => .bool b | none => .null))
  | .alarm ext =>
    match Alarm.decode ext with
    | .ok bindings => .done (.alarm bindings)
    | .error f => match f.family with
      | .overflow | .endless => .fail (.fault f)
      | _ => ⟨[.unreadableExt r.id (unreadable f)], .ok (.alarm [])⟩

/-- The label of a restored node; a record without a name gets the first label of its kind. -/
def labelOf (r : Record) : String :=
  if r.name.isEmpty then r.body.kind.title ++ "#1" else r.name

/-- The node of a placed record. -/
def nodeOf (p : Placed) : Noted Node := do
  let payload ← payloadOf p.record
  return ⟨p.record.id, labelOf p.record,
    [.float (Double.ofInt p.x), .float (Double.ofInt p.y)], payload⟩

/-! ## Edges -/

/-- Connects a placed record to its parent. A parent keeps the edge to its last child only. -/
def connectOne (draft : Draft) (p : Placed) : Noted Draft :=
  match p.record.parent with
  | none => .done draft
  | some parent =>
    -- A root may name a parent, but it hangs below none.
    if p.row = 0 then .done draft
    else
      let notices := if (draft.graph.outgoing? parent).isSome
        then [.severalChildren parent p.record.id] else []
      let edit := Graph.connect parent p.record.id none draft
      ⟨notices, edit.result.map fun _ => edit.draft⟩

/-! ## The graph -/

/-- The records that carry a target. -/
def targeted (kept : List Record) : List Record := kept.filter (·.body.target?.isSome)

/-- The notice about targets whose Objects are gone. -/
def targetNotices (kept : List Record) : List Notice :=
  if (targeted kept).isEmpty then [] else [.targetsWithoutObjects (targeted kept).length]

/-- Restores the graph of some entries, with fresh identifiers for its edges. -/
def restoreNoted (entries : List Saved) (ids : IdSource) :
    Noted (Graph × List String × List String × IdSource) := do
  let sifted ← sift entries
  let kept := sifted.kept
  -- A parent that was dropped still counts as present, so that its children are not roots.
  let isRoot := isRoot (present entries) kept
  Noted.tellAll (kept.filterMap (closedNotice? (present entries) kept))
  let placing := Placed.arrange (kept.filter isRoot) (kept.filter (!isRoot ·))
  Noted.tellAll (placing.waiting.map fun r => .neverPlaced r.id (r.parent.getD ""))
  let nodes ← placing.placed.mapM nodeOf
  let draft ← placing.placed.foldlM connectOne ⟨⟨nodes, []⟩, ids⟩
  Noted.tellAll (targetNotices kept)
  return (draft.graph, sifted.dropped, placing.waiting.map (·.id), draft.ids)

/-- Restores the graph of some entries, with the warnings for an operator. -/
def restore (entries : List Saved) (ids : IdSource) : Noted (Restored × IdSource) :=
  let r := restoreNoted entries ids
  let warnings := (r.notices.filter (·.isWarning)).map (·.message)
  ⟨r.notices, r.result.map fun (graph, dropped, unplaced, ids) =>
    (⟨graph, dropped, unplaced, warnings⟩, ids)⟩

end Saved
end DetectionFlow
