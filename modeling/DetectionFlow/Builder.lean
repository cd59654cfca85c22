import DetectionFlow.Dialog.Fields
import DetectionFlow.Plan
import DetectionFlow.Template
import DetectionFlow.World

/-!
# The builder

A menu on a terminal for drawing a graph: nodes and templates are added, connected, edited and
deleted, and the graph is shown with its warnings before every choice. All edits go through the
session, so that the warnings are those of the editor. A change that the graph refuses is reported
and changes nothing.

Main function: `Builder.run`.
-/

namespace DetectionFlow

/-- What the builder works with. -/
structure Builder where
  client : Option Client
  app : Option String
  video : Option String
  /-- The file that the graph is saved to, as it was given. -/
  file : Option String

namespace Builder

/-- The backend with the app and the camera, when all of them are known. -/
def remote? (b : Builder) : Option (Client × String × String) := do
  let client ← b.client
  let app ← b.app
  let video ← b.video
  if app.isEmpty || video.isEmpty then none else some (client, app, video)

/-- The file that the graph is saved to, if there is one. -/
def file? (b : Builder) : Option String := b.file.filter (!·.isEmpty)

/-! ## Showing the graph -/

def printHeader : Job Unit := do
  Job.printLine ("\n" ++ Look.cyan.code ++ Look.bold.paint "=== Event Pipeline Builder ===")
  Job.printLine (Look.grey.paint "Build Object -> Area -> ... -> Alarm pipelines")
  Job.printLine ""

/-- The lines about a node: what it feeds, and its warning. -/
def nodeLines (g : Graph) (ws : Advice.Warnings) (n : Node) : List String :=
  let arrow := match g.outgoing? n.id with
    | some e => " -> " ++ g.labelOf e.target
    | none => ""
  ("  " ++ n.caption ++ arrow) ::
    match Advice.warningOf ws n.id with
    | some w => if w.isEmpty then [] else ["    " ++ Look.yellow.paint ("! " ++ w)]
    | none => []

def graphLines (g : Graph) (ws : Advice.Warnings) : List String :=
  ("\n" ++ Look.bold.paint ("Nodes (" ++ toString g.size ++ "):")) ::
    (if g.nodes.isEmpty then ["  " ++ Look.grey.paint "(empty)"] else []) ++
    g.nodes.flatMap (nodeLines g ws)

def printGraph : Job Unit := do
  let s ← Job.session
  Job.print (CheckReport.ofLines (graphLines s.graph s.warnings))

/-! ## Choosing nodes and kinds -/

/-- Asks for one of some nodes. -/
def askNode (message : String) (nodes : List Node) : Job (Option Node) := do
  if nodes.isEmpty then
    Job.printLine (Look.yellow.paint "No suitable nodes")
    return none
  else
    let answer ← Job.dialog
      (Dialog.askOne message (nodes.map fun n => .of n.caption (.text n.id)))
    return answer.bind fun id => nodes.find? (·.id = id)

/-- The kinds as choices. -/
def kindChoices (kinds : List Kind) : List Choice :=
  kinds.map fun k => .of k.title (.text k.name)

/-- Asks for one of some kinds. -/
def askKind (message : String) (kinds : List Kind) : Job (Option Kind) := do
  return (← Job.dialog (Dialog.askOne message (kindChoices kinds))).bind Kind.ofName?

/-- Asks for the fields of a payload; none if they stay as they are. -/
def askFields (p : Payload) : Job Fields := do
  match p.askFields? (← Job.session).options with
  | some d => return (← Job.dialog d).getD []
  | none => return []

/-! ## The entries of the menu -/

/-- The areas that a template can have. -/
def areas : List Kind := Kind.all.filter Kind.isArea

def templateChoices : List Choice :=
  Template.all.map fun t => .of (t.name ++ " (" ++ t.description ++ ")") (.text t.id)

def addTemplate : Job Unit := do
  match ← Job.dialog (Dialog.askOne "Template:" templateChoices) with
  | none => return
  | some id =>
    match ← askKind "Area type:" areas with
    | none => return
    | some area =>
      let nodes ← Job.edit (Template.insert (.text id) (.text area.name))
      Job.printLine (Look.green.paint ("Added " ++ toString nodes.length ++ " nodes"))

def addNode : Job Unit := do
  match ← askKind "Node kind:" Kind.all with
  | none => return
  | some kind =>
    let node ← Job.edit (Graph.addNode ⟨kind, .null, none, none, []⟩)
    let fields ← askFields node.payload
    unless fields.isEmpty do
      let _ ← Job.edit (Graph.updateNode node.id none fields)
    Job.printLine (Look.green.paint ("Added " ++ node.label))

/-- The kinds that a node of a kind is offered to feed. -/
def targetKinds (k : Kind) : List Kind :=
  let all := Kind.all.filter Kind.hasInput
  let suggested := all.filter k.suggested.contains
  if suggested.isEmpty then all else suggested

def connect : Job Unit := do
  let g ← Job.graph
  match ← askNode "From:" (g.nodes.filter (·.kind.hasOutput)) with
  | none => return
  | some source =>
    match ← askNode "To:" (g.nodes.filter fun n => (targetKinds source.kind).contains n.kind) with
    | none => return
    | some target =>
      if (g.outgoing? source.id).isSome then
        Job.printLine (Look.grey.paint "Replacing the existing connection")
      let _ ← Job.edit (Graph.connect source.id target.id none)

def editNode : Job Unit := do
  match ← askNode "Edit which node?" (← Job.graph).nodes with
  | none => return
  | some node =>
    match ← Job.dialog (Dialog.askText "Label:" (.text node.label) fun _ => none) with
    | none => return
    | some label =>
      let fields ← askFields node.payload
      let _ ← Job.edit (Graph.updateNode node.id (some label) fields)

def deleteNode : Job Unit := do
  match ← askNode "Delete which node?" (← Job.graph).nodes with
  | none => return
  | some node =>
    Job.edit (Graph.removeNode node.id)
    Job.printLine (Look.green.paint ("Deleted " ++ node.label))

/-- Runs a job; a node that cannot be compiled is reported. -/
def reporting (job : Job Unit) : Job Unit :=
  tryCatch job fun stop => match stop with
    | .failure (.compile e) => Job.printLine (Look.red.paint ("Cannot compile: " ++ e.message))
    | stop => throw stop

def showPlan : Job Unit := reporting do
  let plan ← Job.noted (← Job.graph).plan
  Job.print plan.text

def saveFile (file : String) : Job Unit := do
  Job.saveGraph (.ofString file) (← Job.graph)
  Job.printLine (Look.green.paint ("Saved " ++ file))

/-- What is said about the outcome of a save. -/
def reportLine (r : SaveReport) : String :=
  if r.accepted then
    Look.green.paint
      ("Saved. Monitoring " ++ toString r.terminalEvents.length ++ " event(s)")
  else Look.yellow.paint ("Stored but not applied: " ++ r.message.getD "None")

def saveRemote (remote : Client × String × String) : Job Unit :=
  tryCatch
    (reporting do
      let (client, app, video) := remote
      Job.printLine (reportLine (← Job.save client app video)))
    fun stop => match stop with
      | .failure (.save e) => Job.printLine (Look.red.paint ("Save failed: " ++ e.message))
      | stop => throw stop

/-! ## The menu -/

/-- An entry that needs nodes. -/
def needingNodes (g : Graph) (title value : String) : Choice :=
  .titled title (.text value) (if g.nodes.isEmpty then some "empty" else none) false

/-- The entries of the menu. -/
def entries (b : Builder) (g : Graph) : List Choice :=
  [.of "Add template" (.text "template"), .of "Add node" (.text "add"),
   .of "Connect nodes" (.text "connect"), needingNodes g "Edit node" "edit",
   needingNodes g "Delete node" "delete", .of "Show plan" (.text "plan")] ++
  (match b.file? with
    | some file => [.of ("Save to " ++ file) (.text "save_file")]
    | none => []) ++
  (match b.remote? with
    | some _ => [.of "Save to backend" (.text "save_remote")]
    | none => []) ++
  [.of "Done" (.text "done"), .of "Quit without saving" (.text "quit")]

/-- What an entry does. -/
def perform (b : Builder) (entry : String) : Job Unit :=
  match entry with
  | "template" => addTemplate
  | "add" => addNode
  | "connect" => connect
  | "edit" => editNode
  | "delete" => deleteNode
  | "plan" => showPlan
  | "save_file" => (b.file?.map saveFile).getD (pure ())
  | "save_remote" => (b.remote?.map saveRemote).getD (pure ())
  | _ => pure ()

/-- Performs an entry. What the graph refuses is reported. -/
def performSafely (b : Builder) (entry : String) : Job Unit :=
  tryCatch (b.perform entry) fun stop => match stop with
    | .failure (.graph e) => Job.printLine (Look.red.paint e.message)
    | stop => throw stop

/-- Nothing is lost by leaving, or the operator does not mind. -/
def mayLeave : Job Bool := do
  if (← Job.session).dirty then
    return (← Job.dialog (Dialog.askConfirm "Discard changes?" false)) = some true
  else return true

/-- Shows the menu until the operator leaves it, at most so many times. Yields the graph, or nothing
if it is given up. -/
def menu (b : Builder) : Nat → Job (Option Graph)
  | 0 => return none
  | n + 1 => do
    printGraph
    match ← Job.dialog (Dialog.askOne "What next?" (b.entries (← Job.graph))) with
    | none => return none
    | some "done" => return some (← Job.graph)
    | some "quit" => if ← mayLeave then return none else menu b n
    | some entry => do
      b.performSafely entry
      menu b n

/-! ## The run -/

/-- What is said about a loaded graph. -/
def loadedLines (r : Restored) : List String :=
  Look.green.paint ("Loaded " ++ toString r.graph.size ++ " node(s)") ::
    r.warnings.map fun w => "  " ++ Look.yellow.paint ("! " ++ w)

/-- Starts from the graph on the backend. -/
def loadRemote (remote : Client × String × String) : Job Unit :=
  tryCatch
    (do
      let (client, app, video) := remote
      let restored ← Job.load client app video
      let _ ← Job.loadApp client app
      Job.print (CheckReport.ofLines (loadedLines restored)))
    fun stop => match stop with
      | .failure (.backend e) =>
        Job.printLine (Look.red.paint ("Could not load from backend: " ++ e.message))
      | stop => throw stop

/-- The run up to the point where it is interrupted. -/
def conduct (b : Builder) : Job (Option Graph) := do
  printHeader
  -- A graph that was given is not replaced by the one on the backend.
  match b.remote? with
  | some remote => if (← Job.graph).nodes.isEmpty then loadRemote remote
  | none => pure ()
  b.menu (← Job.dialog Dialog.rounds)

/-- Runs the builder on the session. An interrupted run is given up. The session is closed in any
case. -/
def run (b : Builder) : Job (Option Graph) :=
  tryFinally
    (tryCatch b.conduct fun stop => match stop with
      | .interrupted => do
        Job.printLine ("\n" ++ Look.yellow.paint "Cancelled")
        return none
      | stop => throw stop)
    (do Job.setSession (← Job.session).close)

end Builder
end DetectionFlow
