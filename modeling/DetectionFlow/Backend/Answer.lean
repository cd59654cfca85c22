import DetectionFlow.Schema
import DetectionFlow.Value.Coerce

/-!
# What the backend answers

The things that the backend sends: the apps that detect, the inferences that bind an app to a
camera, and the outcome of a save. All of them are read leniently: unknown fields are skipped.
-/

namespace DetectionFlow

/-! ## Apps -/

/-- One class that an app detects, with the classifiers that narrow it. -/
structure AppOutput where
  label : String
  classifiers : List String
  deriving DecidableEq

/-- An app that detects. -/
structure VisionApp where
  id : String
  name : String
  version : String
  outputs : List AppOutput
  deriving DecidableEq

namespace VisionApp

def readOutput : Reader AppOutput :=
  Reader.lenient fun fs =>
    AppOutput.mk <$> Reader.required fs "label" "label" Reader.text
      <*> Reader.optional fs "classifiers" "classifiers" [] (Reader.list Reader.text)

def read : Reader VisionApp :=
  Reader.lenient fun fs =>
    VisionApp.mk <$> Reader.required fs "id" "id" Reader.text
      <*> Reader.optional fs "name" "name" "" Reader.text
      <*> Reader.optional fs "version" "version" "" Reader.text
      <*> Reader.optional fs "outputs" "outputs" [] (Reader.list readOutput)

/-- The classifiers of the first output with a label. -/
def classifiersFor (app : VisionApp) (label : String) : List String :=
  ((app.outputs.find? (·.label = label)).map (·.classifiers)).getD []

end VisionApp

/-! ## Inferences -/

/-- An app bound to a camera, with the settings saved for it. -/
structure InferenceRecord where
  app : String
  video : String
  name : String
  /-- The saved settings, unread. -/
  settings : Fields

namespace InferenceRecord

/-- A mapping with any values. -/
def settingsReader : Reader Fields
  | .object fs => .ok fs
  | _ => .wrong "dict_type"

def read : Reader InferenceRecord :=
  Reader.lenient fun fs =>
    InferenceRecord.mk <$> Reader.required fs "appId" "app_id" Reader.text
      <*> Reader.required fs "videoId" "video_id" Reader.text
      <*> Reader.optional fs "name" "name" "" Reader.text
      <*> Reader.optional fs "settings" "settings" [] settingsReader

/-- The saved records, unread. Settings without any have none. -/
def configs (r : InferenceRecord) : Except Fault (List Value) :=
  let v := (r.settings.get? "configs").getD .null
  if v.isTruthy then v.toItems else .ok []

/-- The schema version that the settings state. -/
def version (r : InferenceRecord) : Value := (r.settings.get? "version").getD .null

end InferenceRecord

/-! ## Saves -/

/-- What the backend says about new settings. -/
structure SaveReport where
  /-- The settings were sent on to the compositor. -/
  sent : Bool
  /-- The compositor took them. -/
  success : Bool
  message : Option String
  /-- The events that the compositor will report on. -/
  terminalEvents : List String
  deriving DecidableEq

namespace SaveReport

def read : Reader SaveReport :=
  Reader.lenient fun fs =>
    SaveReport.mk <$> Reader.optional fs "nats_sent" "nats_sent" false Reader.bool
      <*> Reader.optional fs "nats_success" "nats_success" false Reader.bool
      <*> Reader.optional fs "nats_message" "nats_message" none (Reader.nullable Reader.text)
      <*> Reader.optional fs "termEvList" "term_ev_list" [] (Reader.list Reader.text)

/-- The compositor has the new settings. -/
def accepted (r : SaveReport) : Bool := r.sent && r.success

end SaveReport
end DetectionFlow
