import DetectionFlow.Schema

/-!
# Settings

What an operator sets once: how the backend is reached, and where graphs are kept. Settings come
from a file with two sections, both optional and both strict, and the environment overrides the
file.

Main functions: `Settings.read` and `Settings.override`.
-/

namespace DetectionFlow

/-- All settings. -/
structure Settings where
  /-- The root of the backend, without slashes at its end. -/
  baseUrl : String
  /-- The most seconds that a request may take. -/
  timeout : Number
  /-- The token that requests carry. -/
  token : Option String
  /-- The folder that loaded graphs are written to. -/
  graphFolder : String
  deriving DecidableEq

namespace Settings

/-- What counts without a file. -/
def builtIn : Settings := ⟨"http://localhost:8000", .int 10, none, "graphs"⟩

/-! ## Reading -/

/-- A text without the slashes at its end. -/
def withoutSlashes (s : String) : String :=
  String.ofList ((s.toList.reverse.dropWhile (· = '/')).reverse)

/-- The root of a backend. -/
def urlReader : Reader String := fun v =>
  (Reader.text v).andThen fun s =>
    if s.startsWith "http://" || s.startsWith "https://" then .ok (withoutSlashes s)
    else Checked.ruleBroken "base_url must start with http:// or https://"

/-- How the backend is reached. -/
def apiSection : Reader (String × Number × Option String) :=
  Reader.strict ["base_url", "timeout_seconds", "token"] fun fs =>
    (fun url timeout token => (url, timeout, token))
      <$> Reader.optional fs "base_url" "base_url" builtIn.baseUrl urlReader
      <*> Reader.optional fs "timeout_seconds" "timeout_seconds" builtIn.timeout
        (fun v => (Reader.positiveDouble v).map .float)
      <*> Reader.optional fs "token" "token" builtIn.token (Reader.nullable Reader.text)

/-- Where graphs are kept. -/
def outputSection : Reader String :=
  Reader.strict ["graph_dir"] fun fs =>
    Reader.optional fs "graph_dir" "graph_dir" builtIn.graphFolder Reader.text

/-- Settings from a value. -/
def read : Reader Settings :=
  Reader.strict ["api", "output"] fun fs =>
    (fun (url, timeout, token) folder => ⟨url, timeout, token, folder⟩)
      <$> Reader.optional fs "api" "api" (builtIn.baseUrl, builtIn.timeout, builtIn.token)
        apiSection
      <*> Reader.optional fs "output" "output" builtIn.graphFolder outputSection

def toValue (s : Settings) : Value :=
  .object
    [("api", .object [("base_url", .text s.baseUrl), ("timeout_seconds", s.timeout.toValue),
      ("token", Value.ofText? s.token)]),
     ("output", .object [("graph_dir", .text s.graphFolder)])]

/-! ## The environment -/

/-- The variables of the environment. -/
abbrev Environment := List (String × String)

/-- The variables that count, each with the field that it overrides. -/
def overriding : List (String × String) :=
  [("PIPELINE_API_URL", "base_url"), ("PIPELINE_API_TOKEN", "token")]

/-- A mapping with one of its entries set. -/
def setEntry (section_ : Value) (key : String) (v : Value) : Except Fault Value :=
  match section_ with
  | .object fs => .ok (.object (Fields.put fs key v))
  | .table entries =>
    if entries.any fun e => e.1.text? = some key then
      .ok (.table (entries.map fun e => if e.1.text? = some key then (e.1, v) else e))
    else .ok (.table (entries ++ [(.text key, v)]))
  | .again levels w => (setEntry w key v).map (.again levels)
  | other => .error (.noReplacement other.typeName)

/-- The fields of a settings file with one field of the backend section set. The section is added
if there is none. -/
def overrideField (fs : Fields) (key value : String) : Except Fault Fields := do
  let section_ ← setEntry ((fs.get? "api").getD (.object [])) key (.text value)
  let fs := fs.put "api" section_
  match section_ with
  -- The section is the file once more, and so the field is set there too.
  | .again .. => return fs.put key (.text value)
  | _ => return fs

/-- The value of a variable, if it is set. -/
def value? (env : Environment) (name : String) : Option String :=
  (env.find? (·.1 = name)).map (·.2)

/-- The fields of a settings file as the environment overrides them. -/
def override (env : Environment) (fs : Fields) : Except Fault Fields :=
  overriding.foldlM (fun fs (name, key) =>
    match value? env name with
    | some value => overrideField fs key value
    | none => .ok fs) fs

/-- The environment overrides some field. -/
def isOverridden (env : Environment) : Bool :=
  overriding.any fun o => (value? env o.1).isSome

end Settings
end DetectionFlow
