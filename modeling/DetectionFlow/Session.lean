import DetectionFlow.Advice
import DetectionFlow.Backend
import DetectionFlow.Compiled
import DetectionFlow.Restored

/-!
# Editing sessions

The state behind one open editor. A session listens to the changes of the graph it edits: after each
of them it has the warnings of the graph at that moment, and knows that there is something to save.
Loading another graph makes it listen there, and to the old one no more.

Main functions: `Session.edit`, `Session.attach`, `Session.load`, `Session.saved` and
`Session.close`.
-/

namespace DetectionFlow

/-- A graph, and how many times the session hears of each of its changes. -/
structure Heard where
  graph : Graph
  listeners : Nat

/-- An editing session. -/
structure Session where
  /-- The graphs that were edited before, the oldest first. -/
  past : List Heard
  current : Heard
  /-- The session listens to the graph it edits. -/
  attached : Bool
  /-- The warnings of the graph. -/
  warnings : Advice.Warnings
  /-- The graph changed since it was loaded or saved. -/
  dirty : Bool
  /-- The app whose classes Objects can detect, once it was asked for. -/
  app : Option VisionApp
  /-- The source of the identifiers of new nodes and edges. -/
  ids : IdSource

namespace Session

def graph (s : Session) : Graph := s.current.graph

/-- The graph under edit with the source of identifiers. -/
def draft (s : Session) : Draft := ⟨s.graph, s.ids⟩

/-- A session that edits nothing yet. -/
def blank (ids : IdSource) : Session := ⟨[], ⟨Graph.empty, 0⟩, false, [], false, none, ids⟩

/-! ## Listening -/

/-- What the session does on hearing of a change. -/
def hear (s : Session) : Except Fault Session := do
  return { s with warnings := ← Advice.warnings s.graph, dirty := true }

/-- Hearing of a change so many times. -/
def hearTimes : Nat → Session → Except Fault Session
  | 0, s => .ok s
  | n + 1, s => do hearTimes n (← s.hear)

/-- The session with another version of the graph it edits. -/
def withDraft (s : Session) (d : Draft) : Session :=
  { s with current := { s.current with graph := d.graph }, ids := d.ids }

/-- Goes through the changes of an operation. One that the session cannot take in ends them. -/
def follow : List (Change × Draft) → Session → Session × Option Fault
  | [], s => (s, none)
  | (_, d) :: rest, s =>
    let s := s.withDraft d
    match hearTimes s.current.listeners s with
    | .ok s => follow rest s
    | .error f => (s, some f)

/-- An operation on the graph under edit. -/
def edit (s : Session) (m : Editing α) : Session × Except Failure α :=
  let edit := m s.draft
  match follow edit.steps s with
  | (s, none) => (s.withDraft edit.draft, edit.result)
  | (s, some f) => (s, .error (.fault f))

/-! ## The graph under edit -/

/-- The graph that the session listened to is heard once less. -/
def detach (s : Session) : Session :=
  if s.attached then
    { s with current := { s.current with listeners := s.current.listeners - 1 }, attached := false }
  else s

/-- Takes up another graph. -/
def attach (s : Session) (g : Graph) : Session × Except Failure Unit :=
  -- The old graph is let go of even if no advice can be given on the new one.
  let old := s.detach
  let s := { old with past := old.past ++ [old.current], current := ⟨g, 1⟩, attached := true }
  match Advice.warnings g with
  | .ok ws => ({ s with warnings := ws, dirty := false }, .ok ())
  | .error f => (s, .error (.fault f))

/-- A session that edits a graph. -/
def start (d : Draft) : Except Failure Session :=
  let s : Session := { blank d.ids with current := ⟨d.graph, 1⟩, attached := true }
  match Advice.warnings d.graph with
  | .ok ws => .ok { s with warnings := ws }
  | .error f => .error (.fault f)

/-- Listens to the graph no more. -/
def close (s : Session) : Session := s.detach

/-- The nodes that have a warning, with it. -/
def activeWarnings (s : Session) : List (String × String) :=
  Advice.active s.warnings

/-! ## The backend -/

/-- The graph of what the backend answered, and the source of identifiers after it. No inference
yields the empty graph. -/
def restoreAnswer (ids : IdSource) (answer : Noted (Option InferenceRecord)) :
    Noted (Restored × IdSource) := do
  let configs ← match ← answer with
    | some inference => Noted.ofFault inference.configs
    | none => pure []
  Saved.restore (configs.map .raw) ids

/-- Takes up the graph of what the backend answered. A failure leaves the session as it is. -/
def load (s : Session) (answer : Noted (Option InferenceRecord)) : Session × Noted Restored :=
  let r := restoreAnswer s.ids answer
  match r.result with
  -- Whatever is wrong with the entries is found before an identifier is drawn.
  | .error e => (s, ⟨r.notices, .error e⟩)
  | .ok (restored, ids) =>
    let (s, result) := { s with ids }.attach restored.graph
    (s, ⟨r.notices, result.map fun _ => restored⟩)

/-- Keeps the app that the backend answered. -/
def loadApp (s : Session) (answer : Noted VisionApp) : Session × Noted VisionApp :=
  match answer.result with
  | .ok app => ({ s with app := some app }, answer)
  | .error _ => (s, answer)

/-- The classifiers of each class of the loaded app. Of equal labels the last output counts, at the
place of the first. -/
def options (s : Session) : List (String × List String) :=
  (s.app.map (·.outputs)).getD [] |>.foldl (fun acc o =>
    if acc.any (·.1 = o.label) then
      acc.map fun e => if e.1 = o.label then (e.1, o.classifiers) else e
    else acc ++ [(o.label, o.classifiers)]) []

/-- What is to be saved. -/
def compile (s : Session) : Noted Compiled := s.graph.compileNoted

/-- After the answer to a save; there is nothing to save any more if the settings were taken. -/
def saved (s : Session) (answer : Noted SaveReport) : Session × Noted SaveReport :=
  match answer.result with
  | .ok report => (if report.accepted then { s with dirty := false } else s, answer)
  | .error _ => (s, answer)

end Session
end DetectionFlow
