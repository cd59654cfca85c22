import DetectionFlow.Graph.Edit
import DetectionFlow.Json.Writer
import DetectionFlow.Schema
import DetectionFlow.Text.Lower
import DetectionFlow.Value.Slots

/-!
# Graph documents

The form in which a graph is kept between sessions. Other than records it carries Objects, Events,
positions and payload fields as they are. Reading is strict: unknown fields are refused, identifiers
of nodes are distinct, and edges join nodes of the document. Whether an edge may join its two nodes
is found only when the graph is built.

Main functions: `Document.read`, `Document.toGraph`, `Document.ofGraph` and `Document.toValue`.
-/

namespace DetectionFlow

/-! ## Documents -/

/-- A node of a document. -/
structure NodeEntry where
  id : String
  kind : Kind
  label : Option String
  x : Double
  y : Double
  /-- The payload fields. -/
  data : Fields
  /-- The keys among the payload fields that are no texts. -/
  badKeys : List Value
  deriving Inhabited

/-- An edge of a document. -/
structure EdgeEntry where
  id : Option String
  source : String
  target : String
  deriving DecidableEq, Inhabited

/-- A graph with a name, as it is kept in a file. -/
structure Document where
  name : Option String
  nodes : List NodeEntry
  edges : List EdgeEntry
  deriving Inhabited

/-! ## Reading -/

namespace NodeEntry

def fieldNames : List String := ["id", "kind", "label", "position", "data"]

/-- A kind by its name. The case of a text does not matter, but that of bytes does. -/
def kindReader : Reader Kind := fun v =>
  Reader.oneOf Kind.ofName? (match v with
    | .text s => .text (Text.lower s)
    | v => v)

/-- A mapping with any keys: its fields, and its keys that are no texts. -/
def dataReader : Reader (Fields × List Value) := fun v =>
  match v.entries? with
  | some entries =>
    .ok (Reader.fieldsIn entries, (entries.map (·.1)).filter (·.text?.isNone))
  | none => .wrong "dict_type"

def read : Reader NodeEntry :=
  Reader.strict fieldNames fun fs =>
    (fun id kind label (x, y) (data, badKeys) => ⟨id, kind, label, x, y, data, badKeys⟩)
      <$> Reader.required fs "id" "id" Reader.name
      <*> Reader.required fs "kind" "kind" kindReader
      <*> Reader.optional fs "label" "label" none (Reader.nullable Reader.text)
      <*> Reader.optional fs "position" "position" (Double.zero, Double.zero)
        (Reader.pair Reader.double)
      <*> Reader.optional fs "data" "data" ([], []) dataReader

end NodeEntry

namespace EdgeEntry

def fieldNames : List String := ["id", "source", "target"]

def read : Reader EdgeEntry :=
  Reader.strict fieldNames fun fs =>
    EdgeEntry.mk <$> Reader.optional fs "id" "id" none (Reader.nullable Reader.text)
      <*> Reader.required fs "source" "source" Reader.text
      <*> Reader.required fs "target" "target" Reader.text

end EdgeEntry

namespace Document

/-- The identifiers that several nodes have, each once, by code points. -/
def repeatedIds (d : Document) : List String :=
  let ids := d.nodes.map (·.id)
  ((ids.filter fun i => 1 < ids.count i).eraseDups).mergeSort fun a b => !decide (b < a)

/-- An edge with the end of it that is no node. -/
def danglingEnd? (d : Document) (e : EdgeEntry) : Option String :=
  [e.source, e.target].find? fun end_ => !d.nodes.any (·.id = end_)

/-- The rules that concern several entries. -/
def checkReferences (d : Document) : Checked Document :=
  if d.repeatedIds.isEmpty then
    match d.edges.findSome? fun e => (d.danglingEnd? e).map (e, ·) with
    | none => .ok d
    | some (e, missing) =>
      Checked.ruleBroken ("Edge " ++ e.source ++ " -> " ++ e.target ++
        " references non-existent node: '" ++ missing ++ "'")
  else Checked.ruleBroken ("Duplicate node ids: " ++ String.intercalate ", " d.repeatedIds)

def fieldNames : List String := ["name", "nodes", "edges"]

/-- A document from a value. -/
def read : Reader Document := fun v =>
  (Reader.strict fieldNames (fun fs =>
    Document.mk <$> Reader.optional fs "name" "name" none (Reader.nullable Reader.text)
      <*> Reader.optional fs "nodes" "nodes" [] (Reader.list NodeEntry.read)
      <*> Reader.optional fs "edges" "edges" [] (Reader.list EdgeEntry.read)) v).andThen
    checkReferences

/-! ## From a document to a graph -/

/-- The names that a payload field must not have. -/
def reservedNames : List String := ["self", "kind", "position", "label", "node_id"]

/-- Some key of the payload fields is unusable as the name of a field. -/
def hasBadName (n : NodeEntry) : Bool :=
  !n.badKeys.isEmpty || n.data.any fun f => reservedNames.contains f.1

/-- Adds the node of an entry. -/
def addEntry (n : NodeEntry) : Editing Unit :=
  if hasBadName n then Editing.fail (.fault .badFieldName)
  else do
    let _ ← Graph.addNode
      ⟨n.kind, .list [.float n.x, .float n.y], n.label, some n.id, n.data⟩
    return ()

def addEntries : List NodeEntry → Editing Unit
  | [] => .done ()
  | n :: rest => do
    addEntry n
    addEntries rest

/-- Connects the ends of each entry, one after the other. -/
def connectEntries : List EdgeEntry → Editing Unit
  | [] => .done ()
  | e :: rest => do
    let _ ← Graph.connect e.source e.target e.id
    connectEntries rest

/-- The nodes and edges of a document as operations on a graph. Of two edges from one source the
later one stays. -/
def insert (d : Document) : Editing Unit := do
  addEntries d.nodes
  connectEntries d.edges

/-- The graph of a document. -/
def toGraph (d : Document) (ids : IdSource) : Except Failure Draft :=
  let edit := d.insert ⟨Graph.empty, ids⟩
  edit.result.map fun _ => edit.draft

/-! ## From a graph to a document -/

/-- The entry of a node. Its identifier and its position must be what a document admits. -/
def entryOf (n : Node) : Except Failure NodeEntry :=
  -- The payload is copied before anything is looked at.
  if (Value.object n.payload.fields).isEndless then .error (.fault .endless)
  else ((fun id (x, y) => ⟨id, n.kind, some n.label, x, y, n.payload.fields, []⟩)
    <$> (Reader.name (.text n.id)).under (.field "id")
    <*> (Reader.pair Reader.double (.list n.position)).under (.field "position")).toFailure

/-- The document of a graph. The failure is that of the first node that has one. -/
def ofGraph (g : Graph) (name : Option String) : Except Failure Document := do
  let nodes ← g.nodes.mapM entryOf
  (checkReferences ⟨name, nodes, g.edges.map fun e => ⟨some e.id, e.source, e.target⟩⟩).toFailure

/-! ## The written form -/

/-- A number in a written document, where what is no finite number is null. -/
def finite (x : Double) : Option Double := if x.isFinite then some x else none

/-- The text of bytes in a written document. -/
def decoded (bs : List UInt8) : Except Fault String :=
  match Text.Utf8.decode bs with
  | .ok s => .ok s
  | .error r => .error (.badEncoding r.brief)

/-- A key as text. -/
def keyName : Value → Except Fault String
  | .text s => if Text.Half.isIn s then .error (.halvedKey s) else .ok s
  | .bool b => .ok (if b then "true" else "false")
  | .float x => .ok (((finite x).map fun x => (Value.float x).shown).getD Value.null.shown)
  | .undefined => .ok Value.null.shown
  | .bytes bs => decoded bs
  | .moment m => .ok m.written
  | .pair a b => do return (← keyName a) ++ "," ++ (← keyName b)
  | .int n => if Fault.isLong n then .error .longInteger else .ok (toString n)
  | v => .ok v.shown

mutual

/-- A payload value as documents write it: what is no finite number becomes null, dates and bytes
become texts, pairs and sets become lists, and all keys become texts. Of keys that become the same
text the last value counts, at the place of the first. -/
def plain : Value → Except Fault Value
  | .float x => .ok (((finite x).map .float).getD .null)
  | .undefined => .ok .null
  | .bytes bs => (decoded bs).map .text
  | .day d => .ok (.text d.shown)
  | .moment m => .ok (.text m.written)
  | .pair a b => do return .list [← plain a, ← plain b]
  | .list items => do return .list (← plainItems items)
  | .set members => do return .list (Slots.oneByOne (members.zip (← plainItems members)))
  | .object fields => do return .object (← plainFields [] fields)
  | .table entries => do return .object (← plainEntries [] entries)
  | .again .. => .error .endless
  | .null => .ok .null
  | .bool b => .ok (.bool b)
  | .int n => .ok (.int n)
  | .text s => .ok (.text s)

def plainItems : List Value → Except Fault (List Value)
  | [] => .ok []
  | v :: rest => do
    let v ← plain v
    return v :: (← plainItems rest)

/-- The fields so far, and more of them. -/
def plainFields (written : Fields) : List (String × Value) → Except Fault Fields
  | [] => .ok written
  | (key, v) :: rest => do
    let key ← keyName (.text key)
    let v ← plain v
    plainFields (written.put key v) rest

def plainEntries (written : Fields) : List (Value × Value) → Except Fault Fields
  | [] => .ok written
  | (key, v) :: rest => do
    let key ← keyName key
    let v ← plain v
    plainEntries (written.put key v) rest

end

/-- A field that is left out when there is nothing in it. -/
def textField (name : String) (s : Option String) : Fields :=
  match s with
  | some s => [(name, .text s)]
  | none => []

def nodeValue (n : NodeEntry) : Except Fault Value := do
  return .object ([("id", .text n.id), ("kind", .text n.kind.name)] ++ textField "label" n.label ++
    [("position", .list [.float n.x, .float n.y]), ("data", ← plain (.object n.data))])

def edgeValue (e : EdgeEntry) : Value :=
  .object (textField "id" e.id ++ [("source", .text e.source), ("target", .text e.target)])

/-- The written form of a document. -/
def toValue (d : Document) : Except Fault Value := do
  return .object (textField "name" d.name ++
    [("nodes", .list (← d.nodes.mapM nodeValue)), ("edges", .list (d.edges.map edgeValue))])

end Document
end DetectionFlow
