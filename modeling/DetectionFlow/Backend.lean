import DetectionFlow.Backend.Answer
import DetectionFlow.Json.Reader
import DetectionFlow.Notice
import DetectionFlow.Settings

/-!
# The backend

What is asked of the backend and what its replies mean. A `Call` is a request together with the
meaning of every reply to it; nothing is tried twice. Whoever has a line to the backend sends the
request and hands the reply to the call, so that what a call yields is a function of the reply.
-/

namespace DetectionFlow

/-! ## Requests and replies -/

inductive Method
  | get
  | put
  deriving DecidableEq

def Method.name : Method → String
  | get => "GET"
  | put => "PUT"

structure Request where
  method : Method
  path : String
  params : List (String × String)
  body : Option Value

/-- A request as failures name it. -/
def Request.shown (r : Request) : String := r.method.name ++ " " ++ r.path

/-- What comes of a request. -/
inductive Reply
  | answer (status : Int) (body : String)
  /-- There was no answer. -/
  | failure (reason : String)

namespace Reply

/-- The status says that a request failed. -/
def isFailed (status : Int) : Bool := 400 ≤ status && status < 600

/-- The value that a reply carries. No body is null. -/
def value (request : String) : Reply → Except BackendError Value
  | failure reason => .error (.transport request reason)
  | answer status body =>
    if isFailed status then .error (.status request status body)
    -- The status comes first: the body of a failed request is not read as a value.
    else if body.isEmpty then .ok .null
    else match Json.read body with
      | .ok v => .ok v
      | .error .tooDeep => .error (.fault .endless)
      | .error _ => .error (.invalidJson request)

end Reply

/-- A request with the meaning of every reply to it. -/
structure Call (α : Type) where
  request : Request
  read : Reply → Noted α

/-! ## The client -/

/-- How the backend is reached. -/
structure Client where
  /-- The root of the backend, without slashes at its end. -/
  baseUrl : String
  timeout : Number
  token : Option String

namespace Client

def new (baseUrl : String) (timeout : Number) (token : Option String) : Client :=
  ⟨Settings.withoutSlashes baseUrl, timeout, token⟩

def ofSettings (s : Settings) : Client := new s.baseUrl s.timeout s.token

/-- The headers of every request. An empty token is none. -/
def headers (c : Client) : List (String × String) :=
  ("Accept", "application/json") :: match c.token with
    | some t => if t.isEmpty then [] else [("Authorization", "Bearer " ++ t)]
    | none => []

/-- A failure to read something from the backend. -/
def reading (r : Except BackendError α) : Except Failure α :=
  match r with
  | .ok a => .ok a
  | .error (.fault f) => .error (.fault f)
  | .error e => .error (.backend e)

/-- A failure to save something on the backend. -/
def saving (r : Except BackendError α) : Except Failure α :=
  match r with
  | .ok a => .ok a
  | .error (.fault f) => .error (.fault f)
  | .error e => .error (.save e)

/-- A reading with the failure that its violations mean. -/
def checked (c : Checked α) (failure : List Violation → BackendError) : Except BackendError α :=
  match c.toExcept with
  | .ok a => .ok a
  | .error vs => .error (failure vs)

/-! ### Inferences -/

/-- The first object of a list that belongs to an app. -/
def inferenceOf? (app : String) (items : List Value) : Option Value :=
  items.find? fun v => (v.get? "appId").bind Value.text? = some app

/-- The inference of an app in the value of an answer. -/
def inferenceIn (app : String) : Value → Except BackendError (Option InferenceRecord)
  | .null => .ok none
  | .list items =>
    match inferenceOf? app items with
    | none => .ok none
    | some v => checked ((InferenceRecord.read v).map some) .malformedInference
  | v => .error (.inferenceNotArray v.typeName)

/-- Asks for the inference of an app on a camera, if there is one. -/
def getInference (app video : String) : Call (Option InferenceRecord) :=
  let request : Request := ⟨.get, "/api/v2/inference", [("videoId", video)], none⟩
  ⟨request, fun reply => .ofResult [] (reading do
    inferenceIn app (← reply.value request.shown))⟩

/-! ### Apps -/

/-- The app in the value of an answer. -/
def appIn : Value → Except BackendError VisionApp
  | .object fs => checked (VisionApp.read (.object fs)) .malformedApp
  | v => .error (.appNotObject v.typeName)

/-- Asks for an app. -/
def getApp (app : String) : Call VisionApp :=
  let request : Request := ⟨.get, "/api/v2/apps/" ++ app, [], none⟩
  ⟨request, fun reply => .ofResult [] (reading do appIn (← reply.value request.shown))⟩

/-! ### Saves -/

/-- The report in the value of an answer. -/
def reportIn : Value → Except BackendError SaveReport
  | .object fs => checked (SaveReport.read (.object fs)) .malformedAnswer
  | v => .error (.answerNotObject v.typeName)

/-- The records of accepted settings are counted, so they must be something that has a length. -/
def countable (settings : Value) : Except Fault Unit :=
  match settings with
  | .object _ => match (settings.get? "configs").getD (.list []) with
    | .text _ | .list _ | .object _ | .table _ => .ok ()
    | v => .error (.notIterable v.typeName)
  | v => .error (.noFields v.typeName)

/-- What a report means for the settings that were sent. -/
def heed (settings : Value) (report : SaveReport) : Noted SaveReport :=
  if report.accepted then do
    Noted.ofFault (countable settings)
    return report
  else do
    Noted.tell (.notAccepted report.message)
    return report

/-- Puts new settings in the place of those of an app on a camera. -/
def updateSettings (app video : String) (settings : Value) : Call SaveReport :=
  let request : Request := ⟨.put, "/api/v2/inference/event-setting",
    [("appId", app), ("videoId", video)], some (.object [("settings", settings)])⟩
  ⟨request, fun reply => do
    heed settings (← Noted.ofResult [] (saving do reportIn (← reply.value request.shown)))⟩

end Client

/-! ## The line -/

/-- A line to a backend: the replies to come, and what was sent. -/
structure Line where
  replies : List Reply
  sent : List (Client × Request)

namespace Line

def ofReplies (replies : List Reply) : Line := ⟨replies, []⟩

/-- What comes of a request when there is no reply left. -/
def silence : Reply := .failure "no response"

/-- Sends a request; the reply to it, and the line afterwards. -/
def send (l : Line) (c : Client) (r : Request) : Reply × Line :=
  match l.replies with
  | [] => (silence, { l with sent := l.sent ++ [(c, r)] })
  | reply :: rest => (reply, ⟨rest, l.sent ++ [(c, r)]⟩)

end Line
end DetectionFlow
