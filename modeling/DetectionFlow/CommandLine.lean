import DetectionFlow.Builder
import DetectionFlow.Check
import DetectionFlow.CommandLine.Arguments

/-!
# The command line

One run of the program. A run reads its arguments and its settings, performs one command, and ends
with an exit code. What is wrong with the given files and what the backend refuses is put into the
log, and ends the run with code 1; a failure that no user can mend ends it without a code.

Main function: `CommandLine.run`.
-/

namespace DetectionFlow
namespace CommandLine

/-! ## Results -/

/-- A text that is printed, or written to the file that is asked for. -/
def emitText (text : String) (output : Option String) : Job Unit :=
  match output with
  | none => Job.printLine text
  | some path => Job.write (.ofString path) (text ++ "\n")

/-- The name of a file that holds a document. -/
def isDocumentName (path : String) : Bool := path.endsWith ".yaml" || path.endsWith ".yml"

/-- The text of a graph's document without blanks at its end. -/
def documentText (g : Graph) : Except Failure String :=
  (Files.graphText g none).map fun s => String.ofList (Text.trimRight s.toList)

/-- A graph that is written to a document file, or else printed or written as a text. -/
def emitGraph (g : Graph) (output : Option String) : Job Unit := do
  match output.filter isDocumentName with
  | some path => Job.saveGraph (.ofString path) g
  | none => emitText (← Job.ofResult (documentText g)) output

/-! ## Commands -/

/-- The code of a run that did what it was asked for. -/
def success : Nat := 0

/-- The code of a run that could not do it. -/
def failure : Nat := 1

/-- The code of a run whose arguments make no sense. -/
def misuse : Nat := 2

/-- Reports what is wrong with a graph. -/
def validate (path : String) : Job Nat := do
  let draft ← Job.loadGraph (.ofString path)
  let report ← Job.noted draft.graph.check
  Job.print report.text
  return if report.isValid then success else failure

/-- Shows what would be saved, or else why nothing can be. -/
def plan (path : String) : Job Nat := do
  let draft ← Job.loadGraph (.ofString path)
  let report ← Job.noted draft.graph.check
  if report.isValid then
    let plan ← Job.noted draft.graph.plan
    Job.print plan.text
    return success
  else
    Job.print report.text
    return failure

/-- Writes the settings that a graph stands for. -/
def compile (path : String) (output : Option String) : Job Nat := do
  let draft ← Job.loadGraph (.ofString path)
  let compiled ← Job.noted draft.graph.compileNoted
  let value := compiled.settings.toValue
  match Json.fault? value with
  | some f => Job.ofResult (.error (.fault f))
  | none =>
    emitText (Json.pretty value) output
    return success

/-- Rebuilds the graph of saved settings. -/
def decompile (path : String) (output : Option String) : Job Nat := do
  let w ← getThe World
  let records ← Job.ofResult (Files.loadRecords w.disk (.ofString path))
  let (restored, _) ← Job.noted (Saved.restore (records.map .raw) w.session.ids)
  emitGraph restored.graph output
  unless restored.dropped.isEmpty && restored.unplaced.isEmpty do
    -- Told after the graph is out, since the loss is no error.
    Job.notify [.recordsLost restored.dropped.length restored.unplaced.length]
  return success

/-- The graph of a file, or the empty graph if no file is named. -/
def graphOrEmpty (path : Option String) : Job Draft := do
  match path.filter (!·.isEmpty) with
  | some path => Job.loadGraph (.ofString path)
  | none => return ⟨Graph.empty, (← Job.session).ids⟩

/-- Inserts a template into a graph. -/
def template (name area : String) (graph output : Option String) : Job Nat := do
  let draft ← graphOrEmpty graph
  let edit := Template.insert (.text name) (.text area) draft
  let _ ← Job.ofResult edit.result
  emitGraph edit.draft.graph output
  return success

/-- The file that a loaded graph is written to if none is asked for. -/
def loadedPath (settings : Settings) (app video : String) : String :=
  ((Path.ofString settings.graphFolder).join (.ofString (app ++ "_" ++ video ++ ".yaml"))).shown

/-- Writes the graph that the backend holds for an app on a camera. -/
def load (settings : Settings) (app video : String) (output : Option String) : Job Nat := do
  let _ ← Job.load (Client.ofSettings settings) app video
  emitGraph (← Job.graph) (some (output.getD (loadedPath settings app video)))
  return success

/-- What is said about events that the compositor reports on. -/
def eventList (events : List String) : String :=
  let listed := String.intercalate ", " events
  if listed.isEmpty then "(none)" else listed

/-- Saves a graph for an app on a camera. -/
def save (settings : Settings) (path app video : String) : Job Nat := do
  Job.startSession (← Job.loadGraph (.ofString path))
  let report ← Job.save (Client.ofSettings settings) app video
  if report.accepted then
    Job.printLine ("Saved. Terminal events: " ++ eventList report.terminalEvents)
    return success
  else
    Job.printLine ("Settings stored but not applied: " ++ report.message.getD "None")
    return failure

/-- The graph that the builder starts from: that of the file, if there is such a file. -/
def builderDraft (path : String) : Job Draft := do
  if path.isEmpty then graphOrEmpty none
  else
    let w ← getThe World
    let isThere ← Job.ofResult (Files.ofDisk (w.disk.has (.ofString path)))
    graphOrEmpty (if isThere then some path else none)

/-- Builds a graph in a dialog, and saves it. -/
def build (settings : Settings) (path : String) (app video : Option String) : Job Nat := do
  let draft ← builderDraft path
  let client :=
    if Arguments.isGiven app && Arguments.isGiven video then some (Client.ofSettings settings)
    else none
  Job.startSession draft
  match ← Builder.run ⟨client, app, video, if path.isEmpty then none else some path⟩ with
  | none => return failure
  | some graph =>
    unless path.isEmpty do Job.saveGraph (.ofString path) graph
    return success

/-- Performs a command under some settings. -/
def perform (settings : Settings) (a : Arguments) : Job Nat :=
  match a.command with
  | .validate path => validate path
  | .plan path => plan path
  | .compile path => compile path a.output
  | .decompile path => decompile path a.output
  | .template name => template name a.area a.graph a.output
  | .load => load settings (a.app.getD "") (a.video.getD "") a.output
  | .save path => save settings path (a.app.getD "") (a.video.getD "")
  | .build path => build settings path a.app a.video

/-! ## The run -/

/-- The settings of the run. -/
def settings (path : Option String) : Job Settings := do
  let w ← getThe World
  Job.ofResult (Files.loadSettings w.disk w.home w.environment (path.getD ""))

/-- How a run ends. -/
inductive Ending
  | exit (code : Nat)
  /-- Before its time, for a reason that the command line has no words for. -/
  | broken (stop : Stop)

/-- The words for a fault, if it is in what the user gave. -/
def faultReport? (f : Fault) : Option String :=
  match f with
  | .unknownTemplate .. => some (Text.quoted f.message)
  | _ =>
    match f.family with
    | .missingKey | .wrongValue | .badBytes | .halfCharacter | .badJson => some f.message
    | .wrongType | .overflow | .missingOperation | .missingPlace | .endless => none

/-- The words for a failure, if it is in what the user gave or what the backend answered. -/
def report? (e : Failure) : Option String :=
  match e with
  | .config _ | .compile _ | .schema _ => some e.message
  | .save _ => some ("Save failed: " ++ e.message)
  | .backend _ => some ("Backend error: " ++ e.message)
  | .fault f => faultReport? f
  | .disk .nullCharacter => some e.message
  | .graph _ | .disk _ => none

/-- Puts an error into the log. -/
def logError (w : World) (message : String) : World :=
  { w with log := w.log ++ [.error message] }

/-- The end of a run that a command came to. -/
def conclude : Except Stop Nat × World → Ending × World
  | (.ok code, w) => (.exit code, w)
  | (.error stop, w) =>
    match stop with
    | .failure e =>
      match report? e with
      | some message => (.exit failure, logError w message)
      | none => (.broken stop, w)
    | .interrupted => (.broken stop, w)

/-- Runs the program on its arguments. -/
def run (args : List String) (w : World) : Ending × World :=
  match Arguments.parse args with
  | .error _ => (.exit misuse, w)
  | .ok none => (.exit success, w)
  | .ok (some a) =>
    conclude ((do perform (← settings a.config) a : Job Nat).run.run w)

end CommandLine
end DetectionFlow
