import DetectionFlow.Dialog
import DetectionFlow.Files
import DetectionFlow.Session

/-!
# The world of a run

All that a run of the program reads and changes: the disk, the environment, the line to the backend,
the session, the operator, and the log. A `Job` is a stretch of a run; what it changed stays changed
when it stops early.
-/

namespace DetectionFlow

/-- A line of the log. -/
inductive LogLine
  | notice (n : Notice)
  /-- An error of the command line, in its words. -/
  | error (message : String)

/-- A line of the log as it is shown. -/
def LogLine.shown : LogLine → String
  | notice n => n.source.name ++ " WARNING " ++ n.message
  | error message => Source.commandLine.name ++ " ERROR " ++ message

/-- The world of a run. -/
structure World where
  disk : Disk
  /-- The folder of the user. -/
  home : Path
  environment : Settings.Environment
  line : Line
  session : Session
  operator : Operator
  log : List LogLine

/-- A stretch of a run. -/
abbrev Job := ExceptT Stop (StateM World)

namespace Job

def fail (e : Failure) : Job α := throw (.failure e)

def ofResult (r : Except Failure α) : Job α :=
  match r with
  | .ok a => pure a
  | .error e => fail e

/-- Puts notices into the log. -/
def notify (ns : List Notice) : Job Unit :=
  modifyThe World fun w => { w with log := w.log ++ ns.map .notice }

/-- A result whose notices go into the log. -/
def noted (m : Noted α) : Job α := do
  notify m.notices
  ofResult m.result

/-- A dialog with the operator. -/
def dialog (d : Dialog α) : Job α := do
  let w ← getThe World
  let (r, o) := (d.run).run w.operator
  set (σ := World) { w with operator := o }
  match r with
  | .ok a => return a
  | .error stop => throw stop

/-- Prints a text. -/
def print (s : String) : Job Unit :=
  modifyThe World fun w => { w with operator := w.operator.print s }

/-- Prints a line. -/
def printLine (s : String) : Job Unit := print (s ++ "\n")

/-! ## The session -/

def session : Job Session := return (← getThe World).session

def setSession (s : Session) : Job Unit := modifyThe World fun w => { w with session := s }

/-- The graph under edit. -/
def graph : Job Graph := return (← session).graph

/-- An operation on the graph under edit. -/
def edit (m : Editing α) : Job α := do
  let (s, r) := (← session).edit m
  setSession s
  ofResult r

/-- A step of the session. -/
def step (f : Session → Session × Noted α) : Job α := do
  let (s, r) := f (← session)
  setSession s
  noted r

/-- Starts a session with a graph. -/
def startSession (d : Draft) : Job Unit := do
  setSession (← ofResult (Session.start d))

/-! ## The backend -/

/-- Sends the request of a call; what the reply means. -/
def exchange (c : Client) (call : Call α) : Job (Noted α) := do
  let w ← getThe World
  let (reply, line) := w.line.send c call.request
  set (σ := World) { w with line }
  return call.read reply

/-- Loads the graph of an app on a camera into the session. -/
def load (c : Client) (app video : String) : Job Restored := do
  let answer ← exchange c (Client.getInference app video)
  step (·.load answer)

/-- Loads what an app detects into the session. -/
def loadApp (c : Client) (app : String) : Job VisionApp := do
  let answer ← exchange c (Client.getApp app)
  step (·.loadApp answer)

/-- Compiles the graph of the session. -/
def compile : Job Compiled := do noted (← session).compile

/-- Saves the graph of the session for an app on a camera. The graph stays as it is. -/
def save (c : Client) (app video : String) : Job SaveReport := do
  let compiled ← compile
  let answer ← exchange c (Client.updateSettings app video compiled.settings.toValue)
  step (·.saved answer)

/-! ## The disk -/

/-- A graph from a file, with the source of further identifiers. -/
def loadGraph (p : Path) : Job Draft := do
  let w ← getThe World
  ofResult (Files.loadGraph w.disk p w.session.ids)

/-- Writes a graph to a file. -/
def saveGraph (p : Path) (g : Graph) : Job Unit := do
  let w ← getThe World
  let (disk, r) := Files.saveGraph w.disk p g none
  set (σ := World) { w with disk }
  ofResult r

/-- Writes a text to a file. -/
def write (p : Path) (s : String) : Job Unit := do
  let w ← getThe World
  let disk ← ofResult (Files.ofDisk (w.disk.write p s))
  set (σ := World) { w with disk }

end Job
end DetectionFlow
