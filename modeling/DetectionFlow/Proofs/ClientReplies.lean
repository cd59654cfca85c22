import DetectionFlow.Backend
import DetectionFlow.Proofs.CheckedTheorems
import DetectionFlow.Proofs.JsonListTheorems
import DetectionFlow.Proofs.NotedTheorems

/-!
# What the client makes of replies

The three calls of the client share the way from a reply to the value that it carries (`Reply.Carries`),
and make failures of their own of what they cannot use: readings one kind, saves another. One reply is told
as neither: an answer whose body is too deep to be read (`Reply.IsTooDeep`). All that the calls promise of
a reply is `Client.Classifies`.
-/

namespace DetectionFlow

open Checked

/-! ## Kinds of failures -/

namespace Failure

/-- Something could not be read from the backend. -/
def IsBackend (e : Failure) : Prop := ∃ b, e = .backend b

/-- Something could not be saved on the backend. -/
def IsSave (e : Failure) : Prop := ∃ b, e = .save b

lemma not_isBackend_fault (f : Fault) : ¬ (fault f).IsBackend := by
  rintro ⟨b, ⟨⟩⟩

end Failure

/-! ## Replies -/

namespace Reply

/-- The value that a reply carries: that of its body, or null if the body is empty. -/
inductive Carries : Reply → Value → Prop
  | nothing {status : Int} (hstatus : isFailed status = false) : Carries (.answer status "") .null
  | body {status : Int} {body : String} {v : Value} (hstatus : isFailed status = false)
      (hread : Json.read body = .ok v) : Carries (.answer status body) v

/-- The reply is an answer whose body is too deep to be read. -/
inductive IsTooDeep : Reply → Prop
  | body {status : Int} {body : String} (hstatus : isFailed status = false)
      (hread : Json.read body = .error .tooDeep) : IsTooDeep (.answer status body)

variable {r : Reply} {request : String} {v : Value}

/-- The empty text is malformed, and so a body that is not is read. -/
lemma not_isEmpty_of_read {body : String} (hread : Json.read body ≠ .error .malformed) :
    ¬ body.isEmpty = true := by
  intro hempty
  rw [String.isEmpty_iff.mp hempty] at hread
  exact hread rfl

lemma value_of_carries (h : r.Carries v) : r.value request = .ok v := by
  cases h with
  | nothing hstatus =>
    rw [value, hstatus]
    rfl
  | body hstatus hread =>
    rw [value, hstatus, if_neg Bool.false_ne_true, if_neg (not_isEmpty_of_read (by simp [hread])), hread]

lemma value_of_isTooDeep (h : r.IsTooDeep) : r.value request = .error (.fault .endless) := by
  obtain ⟨hstatus, hread⟩ := h
  rw [value, hstatus, if_neg Bool.false_ne_true, if_neg (not_isEmpty_of_read (by simp [hread])), hread]

/-- A reply carries a value, or is too deep to be read, or is refused. -/
lemma value_cases (r : Reply) (request : String) :
    (∃ v, r.Carries v) ∨ r.IsTooDeep ∨ ∃ b, r.value request = .error b ∧ ∀ f, b ≠ .fault f := by
  cases r with
  | failure reason => exact .inr (.inr ⟨_, rfl, by simp⟩)
  | answer status body =>
    cases hstatus : isFailed status with
    | true =>
      rw [value, if_pos hstatus]
      exact .inr (.inr ⟨_, rfl, by simp⟩)
    | false =>
      -- An empty body counts before it is looked at as JSON, which it is not.
      by_cases hempty : body = ""
      · exact .inl ⟨.null, hempty ▸ .nothing hstatus⟩
      cases hread : Json.read body with
      | ok v => exact .inl ⟨v, .body hstatus hread⟩
      | error x =>
        by_cases hdeep : x = .tooDeep
        · exact .inr (.inl (.body hstatus (hdeep ▸ hread)))
        · rw [value, hstatus, if_neg Bool.false_ne_true, if_neg (mt String.isEmpty_iff.mp hempty), hread]
          cases x with
          | tooDeep => exact absurd rfl hdeep
          | _ => exact .inr (.inr ⟨_, rfl, by simp⟩)

lemma value_eq_ok : r.value request = .ok v ↔ r.Carries v := by
  refine ⟨fun h => ?_, value_of_carries⟩
  rcases value_cases r request with ⟨w, hw⟩ | hdeep | ⟨b, hb, -⟩
  · cases h.symm.trans (value_of_carries hw)
    exact hw
  · cases h.symm.trans (value_of_isTooDeep hdeep)
  · cases h.symm.trans hb

/-- The only fault of a reply is that it is too deep. -/
lemma value_eq_fault {f : Fault} :
    r.value request = .error (.fault f) ↔ r.IsTooDeep ∧ f = .endless := by
  constructor
  · intro h
    rcases value_cases r request with ⟨w, hw⟩ | hdeep | ⟨b, hb, hother⟩
    · cases h.symm.trans (value_of_carries hw)
    · cases h.symm.trans (value_of_isTooDeep hdeep)
      exact ⟨hdeep, rfl⟩
    · cases h.symm.trans hb
      exact absurd rfl (hother f)
  · rintro ⟨hdeep, rfl⟩
    exact value_of_isTooDeep hdeep

variable {α : Type} {g : Value → Except BackendError α}

/-- What is made of a reply is made of the value that it carries. -/
lemma bind_eq_ok {a : α} :
    r.value request >>= g = .ok a ↔ ∃ v, r.Carries v ∧ g v = .ok a := by
  rw [Except.bind_eq_ok]
  simp only [value_eq_ok]

/-- Where no value is a fault, only a reply that is too deep is one. -/
lemma bind_eq_fault (hg : ∀ v f, g v ≠ .error (.fault f)) {f : Fault} :
    r.value request >>= g = .error (.fault f) ↔ r.IsTooDeep ∧ f = .endless := by
  rw [Except.bind_eq_error, value_eq_fault]
  apply or_iff_left
  rintro ⟨v, -, hfault⟩
  exact hg v f hfault

end Reply

/-! ## Calls -/

namespace Client

variable {α : Type} {r : Except BackendError α} {a : α} {e : Failure} {app video : String} {v : Value}

/-- A result of the backend with the failure that an error means outside. A fault is one of no call. -/
def told (wrap : BackendError → Failure) (r : Except BackendError α) : Except Failure α :=
  match r with
  | .ok a => .ok a
  | .error (.fault f) => .error (.fault f)
  | .error b => .error (wrap b)

lemma reading_eq_told (r : Except BackendError α) : reading r = told .backend r := by
  unfold reading told
  split <;> simp

lemma saving_eq_told (r : Except BackendError α) : saving r = told .save r := by
  unfold saving told
  split <;> simp

lemma told_eq_ok {wrap : BackendError → Failure} : told wrap r = .ok a ↔ r = .ok a := by
  unfold told
  split <;> simp

/-- Only faults are told as what they are. -/
lemma told_escapes {wrap : BackendError → Failure} (hwrap : ∀ b f, .fault f ≠ wrap b) :
    (told wrap r = .error e ∧ ¬ ∃ b, e = wrap b) ↔ ∃ f, r = .error (.fault f) ∧ e = .fault f := by
  unfold told
  split
  · simp
  next f =>
    simp only [Except.error.injEq, BackendError.fault.injEq, exists_eq_left']
    constructor
    · exact fun h => h.1.symm
    · rintro rfl
      exact ⟨rfl, fun ⟨b, hb⟩ => hwrap b f hb⟩
  next b hb =>
    refine iff_of_false ?_ ?_
    · rintro ⟨h, hother⟩
      exact hother ⟨b, (Except.error.inj h).symm⟩
    · rintro ⟨f, hf, -⟩
      exact hb f (Except.error.inj hf)

variable {c : Checked α} {failure : List Violation → BackendError}

lemma checked_eq_ok : checked c failure = .ok a ↔ c = ok a := by
  rcases c.ok_or_broken with ⟨b, rfl⟩ | ⟨vs, rfl⟩
  · have hchecked : checked (ok b) failure = .ok b := rfl
    simp [hchecked]
  · have hchecked : checked (broken vs : Checked α) failure = .error (failure vs) := rfl
    simp [hchecked]

/-- Violations are told as what they are violations of. -/
lemma checked_ne_fault (hfailure : ∀ vs f, failure vs ≠ .fault f) (f : Fault) :
    checked c failure ≠ .error (.fault f) := by
  rcases c.ok_or_broken with ⟨b, rfl⟩ | ⟨vs, rfl⟩
  · rintro ⟨⟩
  · exact fun h => hfailure vs f (Except.error.inj h)

/-! ### Inferences -/

/-- The value is an object that states the app. -/
def Belongs (app : String) (v : Value) : Prop :=
  ∃ fs, v.fields? = some fs ∧ fs.get? "appId" = some (.text app)

lemma belongs_iff : (v.get? "appId").bind Value.text? = some app ↔ Belongs app v := by
  unfold Belongs Value.get?
  cases v.fields? with
  | none => simp
  | some fs =>
    simp only [Option.bind_some, Option.some.injEq, exists_eq_left']
    cases fs.get? "appId" with
    | none => simp
    | some w => cases w <;> simp [Value.text?]

/-- The inference of an app is read of the first object of a list that belongs to it. -/
lemma inferenceIn_of_first {before after : List Value} (hv : Belongs app v)
    (hbefore : ∀ w ∈ before, ¬ Belongs app w) :
    inferenceIn app (.list (before ++ v :: after)) =
      checked ((InferenceRecord.read v).map some) .malformedInference := by
  -- The search stops at the first object that belongs, and so never sees what stands behind it.
  have hfirst : inferenceOf? app (before ++ v :: after) = some v := by
    rw [inferenceOf?, List.find?_eq_some_iff_append]
    refine ⟨decide_eq_true (belongs_iff.mpr hv), before, after, rfl, fun w hw => ?_⟩
    simpa using mt belongs_iff.mp (hbefore w hw)
  rw [inferenceIn, hfirst]

/-- There is no inference in null, nor in a list of which nothing belongs to the app. -/
lemma inferenceIn_eq_none :
    inferenceIn app v = .ok none ↔ v = .null ∨ ∃ items, v = .list items ∧ ∀ w ∈ items, ¬ Belongs app w := by
  cases v with
  | null => simp [inferenceIn]
  | list items =>
    have hnone : inferenceOf? app items = none ↔ ∀ w ∈ items, ¬ Belongs app w := by
      simp [inferenceOf?, belongs_iff]
    simp only [inferenceIn, reduceCtorEq, false_or, Value.list.injEq, exists_eq_left', ← hnone]
    cases inferenceOf? app items with
    | none => simp
    | some v =>
      dsimp only
      refine iff_of_false (fun h => ?_) (by simp)
      obtain ⟨inference, -, ⟨⟩⟩ := map_eq_ok.mp (checked_eq_ok.mp h)
  | _ => simp [inferenceIn]

lemma inferenceIn_ne_fault (v : Value) (f : Fault) : inferenceIn app v ≠ .error (.fault f) := by
  cases v with
  | null => rintro ⟨⟩
  | list items =>
    rw [inferenceIn]
    split
    · rintro ⟨⟩
    · exact checked_ne_fault (by rintro vs f ⟨⟩) f
  | _ => rintro ⟨⟩

/-! ### Apps and saves -/

lemma appIn_ne_fault (v : Value) (f : Fault) : appIn v ≠ .error (.fault f) := by
  cases v with
  | object fs => exact checked_ne_fault (by rintro vs f ⟨⟩) f
  | _ => rintro ⟨⟩

lemma reportIn_ne_fault (v : Value) (f : Fault) : reportIn v ≠ .error (.fault f) := by
  cases v with
  | object fs => exact checked_ne_fault (by rintro vs f ⟨⟩) f
  | _ => rintro ⟨⟩

lemma reportIn_eq_ok {report : SaveReport} :
    reportIn v = .ok report ↔ ∃ fs, v = .object fs ∧ SaveReport.read (.object fs) = ok report := by
  cases v with
  | object fs => simp [reportIn, checked_eq_ok]
  | _ => simp [reportIn]

/-- Settings that records make can be counted, and so a report on them is passed on. -/
lemma heed_toValue (settings : EventSettings) (report : SaveReport) :
    (heed settings.toValue report).result = .ok report := by
  unfold heed
  split <;> rfl

/-- Only a reply that is too deep is a fault. -/
lemma told_bind_escapes {wrap : BackendError → Failure} (hwrap : ∀ b f, .fault f ≠ wrap b)
    {reply : Reply} {request : String} {g : Value → Except BackendError α}
    (hg : ∀ v f, g v ≠ .error (.fault f)) :
    (told wrap (reply.value request >>= g) = .error e ∧ ¬ ∃ b, e = wrap b) ↔
      reply.IsTooDeep ∧ e = .fault .endless := by
  rw [told_escapes hwrap]
  simp only [Reply.bind_eq_fault hg]
  constructor
  · rintro ⟨f, ⟨hdeep, rfl⟩, rfl⟩
    exact ⟨hdeep, rfl⟩
  · rintro ⟨hdeep, rfl⟩
    exact ⟨_, ⟨hdeep, rfl⟩, rfl⟩

lemma getInference_result (reply : Reply) :
    ((getInference app video).read reply).result =
      told .backend (reply.value (getInference app video).request.shown >>= inferenceIn app) :=
  reading_eq_told _

/-- The one reply on which no inference is read and that is no failure to read. -/
lemma getInference_escapes {reply : Reply} :
    (((getInference app video).read reply).result = .error e ∧ ¬ e.IsBackend) ↔
      reply.IsTooDeep ∧ e = .fault .endless := by
  rw [getInference_result]
  exact told_bind_escapes (by simp) inferenceIn_ne_fault

lemma getApp_result (reply : Reply) :
    ((getApp app).read reply).result =
      told .backend (reply.value (getApp app).request.shown >>= appIn) :=
  reading_eq_told _

lemma updateSettings_result (settings : EventSettings) (reply : Reply) :
    ((updateSettings app video settings.toValue).read reply).result =
      told .save (reply.value (updateSettings app video settings.toValue).request.shown >>= reportIn) := by
  have hheeded : ∀ r : Except Failure SaveReport,
      (Noted.ofResult [] r >>= heed settings.toValue).result = r := by
    rintro (e | report)
    · rfl
    · rw [Noted.bind_of_ok rfl]
      exact heed_toValue settings report
  rw [← saving_eq_told]
  exact hheeded _

/-! ## All replies -/

/-- What the calls promise of a reply. -/
structure Classifies (reply : Reply) (app video : String) (settings : EventSettings) : Prop where
  /-- An inference is read, or told as what could not be read, unless the reply is too deep. -/
  inferenceFails : ∀ e, (((getInference app video).read reply).result = .error e ∧ ¬ e.IsBackend) ↔
    reply.IsTooDeep ∧ e = .fault .endless
  /-- So is an app. -/
  appFails : ∀ e, (((getApp app).read reply).result = .error e ∧ ¬ e.IsBackend) ↔
    reply.IsTooDeep ∧ e = .fault .endless
  /-- Settings are saved, or told as what could not be saved, unless the reply is too deep. -/
  saveFails : ∀ e,
    (((updateSettings app video settings.toValue).read reply).result = .error e ∧ ¬ e.IsSave) ↔
      reply.IsTooDeep ∧ e = .fault .endless
  /-- Settings were taken if the reply carries a report of two successes. -/
  accepted : (∃ report, ((updateSettings app video settings.toValue).read reply).result = .ok report ∧
      report.accepted = true) ↔
    ∃ fs report, reply.Carries (.object fs) ∧ SaveReport.read (.object fs) = ok report ∧
      report.sent = true ∧ report.success = true
  /-- They were not taken if it carries any other report. -/
  notAccepted : (∃ report, ((updateSettings app video settings.toValue).read reply).result = .ok report ∧
      report.accepted = false) ↔
    ∃ fs report, reply.Carries (.object fs) ∧ SaveReport.read (.object fs) = ok report ∧
      ¬ (report.sent = true ∧ report.success = true)
  /-- The first object that belongs to the app decides on the inference, whatever stands beside it. -/
  first : ∀ before v after, reply.Carries (.list (before ++ v :: after)) → Belongs app v →
    (∀ w ∈ before, ¬ Belongs app w) → ((getInference app video).read reply).result =
      reading (checked ((InferenceRecord.read v).map some) .malformedInference)
  /-- There is no inference if the reply carries null, or a list of which nothing belongs to the app. -/
  none : ((getInference app video).read reply).result = .ok none ↔ reply.Carries .null ∨
    ∃ items, reply.Carries (.list items) ∧ ∀ w ∈ items, ¬ Belongs app w

/-- A save yields the report that the reply carries. -/
lemma updateSettings_eq_ok {reply : Reply} {settings : EventSettings} {report : SaveReport} :
    ((updateSettings app video settings.toValue).read reply).result = .ok report ↔
      ∃ fs, reply.Carries (.object fs) ∧ SaveReport.read (.object fs) = ok report := by
  rw [updateSettings_result, told_eq_ok, Reply.bind_eq_ok]
  simp only [reportIn_eq_ok]
  constructor
  · rintro ⟨v, hv, fs, rfl, hreport⟩
    exact ⟨fs, hv, hreport⟩
  · rintro ⟨fs, hv, hreport⟩
    exact ⟨_, hv, fs, rfl, hreport⟩

/-- The calls classify every reply. A failure to read is told as one, and so is a failure to save; the one
exception to both is an answer that is too deep, which is no failure of either kind. Settings count as taken
exactly on a report of two successes, and an inference is that of the first object that belongs to the app. -/
theorem classifies (reply : Reply) (app video : String) (settings : EventSettings) :
    Classifies reply app video settings where
  inferenceFails e := getInference_escapes
  appFails e := by
    rw [getApp_result]
    exact told_bind_escapes (by simp) appIn_ne_fault
  saveFails e := by
    rw [updateSettings_result]
    exact told_bind_escapes (by simp) reportIn_ne_fault
  accepted := by
    simp only [updateSettings_eq_ok, SaveReport.accepted, Bool.and_eq_true]
    constructor
    · rintro ⟨report, ⟨fs, hcarries, hread⟩, hboth⟩
      exact ⟨fs, report, hcarries, hread, hboth⟩
    · rintro ⟨fs, report, hcarries, hread, hboth⟩
      exact ⟨report, ⟨fs, hcarries, hread⟩, hboth⟩
  notAccepted := by
    simp only [updateSettings_eq_ok, SaveReport.accepted, ← Bool.and_eq_true, Bool.not_eq_true]
    constructor
    · rintro ⟨report, ⟨fs, hcarries, hread⟩, hnot⟩
      exact ⟨fs, report, hcarries, hread, hnot⟩
    · rintro ⟨fs, report, hcarries, hread, hnot⟩
      exact ⟨report, ⟨fs, hcarries, hread⟩, hnot⟩
  first before v after hcarries hv hbefore := by
    rw [getInference_result, Reply.value_of_carries hcarries, reading_eq_told]
    exact congrArg (told .backend) (inferenceIn_of_first hv hbefore)
  none := by
    rw [getInference_result, told_eq_ok, Reply.bind_eq_ok]
    simp only [inferenceIn_eq_none]
    constructor
    · rintro ⟨v, hv, rfl | ⟨items, rfl, hitems⟩⟩
      · exact .inl hv
      · exact .inr ⟨items, hv, hitems⟩
    · rintro (hnull | ⟨items, hcarries, hitems⟩)
      · exact ⟨_, hnull, .inl rfl⟩
      · exact ⟨_, hcarries, .inr ⟨items, rfl, hitems⟩⟩

/-- The answer that holds a thousand lists inside each other. -/
def nestedReply : Reply := .answer 200 (String.ofList (List.replicate 1000 '['))

/-- They are too deep, and neither a reading nor a save tells so in its own words. -/
theorem classifies_nested :
    (((getInference "app" "camera").read nestedReply).result = .error (.fault .endless) ∧
        ¬ (Failure.fault .endless).IsBackend) ∧
      ((updateSettings "app" "camera" (EventSettings.toValue default)).read nestedReply).result =
          .error (.fault .endless) ∧
        ¬ (Failure.fault .endless).IsSave := by
  have hdeep : nestedReply.IsTooDeep := by
    have hread := Json.read_nested (n := 1000) (by decide) []
    rw [List.append_nil] at hread
    exact .body rfl hread
  have hclassifies := classifies nestedReply "app" "camera" default
  exact ⟨(hclassifies.inferenceFails _).mpr ⟨hdeep, rfl⟩, (hclassifies.saveFails _).mpr ⟨hdeep, rfl⟩⟩

end Client
end DetectionFlow
