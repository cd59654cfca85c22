import DetectionFlow.Disk
import DetectionFlow.Document
import DetectionFlow.Json.Reader
import DetectionFlow.Settings
import DetectionFlow.Yaml.Reader
import DetectionFlow.Yaml.Writer

/-!
# Settings, graphs and records in files

Which file holds the settings, and how graphs and saved records are read from files and graphs are
written to them. What is wrong with a file is told with its path; a value in it that is wrong in
itself is a failure of its own.
-/

namespace DetectionFlow
namespace Files

/-! ## Document files -/

/-- Documents are read in pieces of this many bytes. -/
def pieceSize : Nat := 8192

/-- A result of the disk with the failure that an error means outside. -/
def ofDisk (r : Except DiskError α) : Except Failure α :=
  match r with
  | .ok a => .ok a
  | .error e => .error (.disk e)

/-- The text of a document, with one kind of line break. -/
def documentLines (s : String) : String := String.ofList (Text.unifyBreaks s.toList)

/-- The value of a document file. -/
def readDocument (d : Disk) (p : Path) : Except Failure Value :=
  match d.read p with
  -- A path that is none at all is not the fault of the file.
  | .error .nullCharacter => .error (.disk .nullCharacter)
  | .error _ => .error (.config (.unreadable p.shown))
  | .ok bytes =>
    match Text.Utf8.decode bytes with
    | .error r => .error (.fault (.badEncoding (r.inPieces pieceSize bytes)))
    | .ok s =>
      match Yaml.read (documentLines s) with
      | .ok v => .ok v
      | .error .malformed => .error (.config (.invalidYaml p.shown))
      | .error (.fault f) => .error (.fault f)

/-! ## Settings -/

/-- The name of a settings file. -/
def settingsName : String := "pipeline.yaml"

/-- Where settings are looked for, in order: in the current folder, then in that of the user. -/
def settingsPaths (d : Disk) (home : Path) : List Path :=
  [d.folder.join ⟨"", [settingsName]⟩,
   home.join ⟨"", [".config", "event-pipeline", settingsName]⟩]

/-- The first of some paths that leads to something. -/
def firstThere (d : Disk) : List Path → Except Failure (Option Path)
  | [] => .ok none
  | p :: rest => do
    if ← ofDisk (d.has p) then return some p else firstThere d rest

/-- The settings file. One that is asked for by path must be there. -/
def settingsPath (d : Disk) (home : Path) (given : String) : Except Failure (Option Path) :=
  if given.isEmpty then firstThere d (settingsPaths d home)
  else do
    let p := Path.ofString given
    if ← ofDisk (d.has p) then return some p else .error (.config (.settingsMissing given))

/-- The two sections of a settings file are one and the same mapping. -/
def sectionsAreOne (d : Disk) (p : Path) : Bool :=
  match d.read p with
  | .error _ => false
  | .ok bytes => match Text.Utf8.decode bytes with
    | .error _ => false
    | .ok s => Yaml.areOne (documentLines s) "api" "output"

/-- The fields that a settings file states. An empty file states none. -/
def fieldsOf : Value → Except Failure Fields
  | .null => .ok []
  | .object fs => .ok fs
  | .table _ => .error (.fault .badFieldName)
  | v => .error (.config (.settingsNotMapping v.typeName))

/-- The settings that the fields of a file and the environment make. Where both sections of the file
are one mapping, the environment overrides fields of both. -/
def settingsOf (env : Settings.Environment) (p : Option Path) (areOne : Bool) (fs : Fields) :
    Except Failure Settings :=
  match Settings.override env fs with
  | .error f => .error (.fault f)
  | .ok fs =>
    let fs := if areOne && Settings.isOverridden env
      then fs.put "output" ((fs.get? "api").getD .null) else fs
    match (Settings.read (.object fs)).toExcept with
    | .ok s => .ok s
    | .error vs => .error (.config (.invalidSettings (p.map Path.shown) vs))

/-- The settings that are in force; `given` is the path that was asked for, or empty. -/
def loadSettings (d : Disk) (home : Path) (env : Settings.Environment) (given : String) :
    Except Failure Settings := do
  match ← settingsPath d home given with
  | some p => settingsOf env (some p) (sectionsAreOne d p) (← fieldsOf (← readDocument d p))
  | none => settingsOf env none false []

/-! ## Graphs -/

/-- The document that a value is read as. -/
def documentOf (p : Path) : Value → Except Failure Document
  | .object fs => match (Document.read (.object fs)).toExcept with
    | .ok document => .ok document
    | .error vs => .error (.config (.invalidDocument p.shown vs))
  | .table _ => .error (.fault .badFieldName)
  | _ => .error (.config (.graphNotMapping p.shown))

/-- The document in a file. An empty file holds the empty document. -/
def readGraphDocument (d : Disk) (p : Path) : Except Failure Document := do
  let v ← readDocument d p
  documentOf p (if v.isTruthy then v else .object [])

/-- The graph in a file. -/
def loadGraph (d : Disk) (p : Path) (ids : IdSource) : Except Failure Draft := do
  match (← readGraphDocument d p).toGraph ids with
  | .error (.graph e) => .error (.config (.impossibleGraph p.shown e))
  | r => r

/-- The text of a document. -/
def documentText (document : Document) : Except Failure String :=
  match document.toValue with
  | .ok v => if Yaml.isWritable v then .ok (Yaml.write v) else .error (.fault .longInteger)
  | .error f => .error (.fault f)

/-- The text of the document of a graph. -/
def graphText (g : Graph) (name : Option String) : Except Failure String := do
  documentText (← Document.ofGraph g name)

/-- Writes a graph to a file. The folder is made even if the graph turns out to have no document,
and the file even if the document turns out to have no text. -/
def saveGraph (d : Disk) (p : Path) (g : Graph) (name : Option String) :
    Disk × Except Failure Unit :=
  match d.prepare p with
  | .error e => (d, .error (.disk e))
  | .ok d =>
    match Document.ofGraph g name with
    | .error e => (d, .error e)
    | .ok document =>
      match d.put p [] with
      | .error e => (d, .error (.disk e))
      | .ok d =>
        match documentText document with
        | .error e => (d, .error e)
        | .ok text =>
          match d.put p (Text.Utf8.encode text) with
          | .error e => (d, .error (.disk e))
          | .ok d => (d, .ok ())

/-! ## Saved records -/

/-- The part of a saved payload that holds its records: the payload is a list of them, settings
with such a list, or an inference record with settings. -/
def recordsIn (v : Value) : Option (List Value) :=
  -- Settings that are no object do not count.
  let v := match v.get? "settings" with
    | some (Value.object fs) => Value.object fs
    | _ => v
  match (v.get? "configs").getD v with
  | .list items => some items
  | _ => none

/-- The saved records in a file. -/
def loadRecords (d : Disk) (p : Path) : Except Failure (List Value) :=
  match d.read p with
  | .error .nullCharacter => .error (.disk .nullCharacter)
  | .error _ => .error (.config (.payloadUnreadable p.shown))
  | .ok bytes =>
    match Text.Utf8.decode bytes with
    | .error r => .error (.fault (.badEncoding r))
    | .ok s =>
      match Json.read s with
      | .error .malformed => .error (.config (.payloadUnreadable p.shown))
      | .error e => .error (.fault e.toFault)
      | .ok v =>
        match recordsIn v with
        | some items => .ok items
        | none => .error (.config (.payloadShape p.shown))

end Files
end DetectionFlow
