import DetectionFlow.Proofs.ClientReplies
import DetectionFlow.Proofs.RestoreFailures
import DetectionFlow.Proofs.SessionRuns

/-!
# Sessions load what the backend answers

A load asks for the inference of an app, restores the graph of its saved entries and takes that graph up. It
either does all of this or leaves the session as it was. What the backend cannot answer is told as a failure
to read from it; what is told otherwise is a reply that is too deep, settings whose entries cannot be run
through, or entries that cannot be restored (`Job.Loads`).
-/

namespace DetectionFlow

/-! ## Restoring fails with faults -/

namespace Saved

variable {entries : List Saved} {ids : IdSource} {e : Failure}

lemma onlyFaults_siftOne (acc : Sifted) (s : Saved) : (siftOne acc s).OnlyFaults := by
  refine (Noted.onlyFaults_ofFault s.judge).bind fun verdict => ?_
  cases verdict with
  | drop id why => exact Noted.onlyFaults_of_ok rfl
  | keep r =>
    dsimp only
    split <;> exact Noted.onlyFaults_of_ok rfl

lemma onlyFaults_payloadOf (r : Record) : (payloadOf r).OnlyFaults := by
  intro e he
  unfold payloadOf at he
  split at he
  case h_7 =>
    split at he
    · cases he
    · split at he <;> cases he <;> exact ⟨_, rfl⟩
  all_goals cases he

lemma onlyFaults_nodeOf (t : Placed) : (nodeOf t).OnlyFaults :=
  (onlyFaults_payloadOf t.record).bind fun _ => Noted.onlyFaults_of_ok rfl

/-- Edges with fresh identifiers can be drawn between all nodes that there are, and so only entries and nodes
make restoring fail. -/
lemma exists_fault_of_restore (hfresh : ids.Fresh entries.length)
    (h : (restore entries ids).result = .error e) : ∃ f, e = .fault f := by
  rw [restore_fails] at h
  by_cases hbad : ∃ s ∈ entries, s.typeIsNoKey = true
  · obtain ⟨e', he'⟩ := sift_fails.mpr hbad
    rw [restoreNoted, Noted.bind_of_error he'] at h
    cases h
    exact Noted.onlyFaults_foldlM onlyFaults_siftOne entries _ _ he'
  · have hkeys : ∀ s ∈ entries, s.typeIsNoKey = false := by simpa using hbad
    -- All entries are sifted, and so the run comes to the nodes; after them nothing fails any more.
    cases hnodes : ((placing entries).placed.mapM nodeOf).result with
    | error e' =>
      rw [restoreNoted_start hkeys, Noted.tellAll_bind, Noted.bind_of_error hnodes] at h
      cases h
      exact Noted.onlyFaults_mapM onlyFaults_nodeOf _ _ hnodes
    | ok nodes =>
      obtain ⟨connecting, heq, -⟩ := restoreNoted_eq hkeys (Noted.mapM_eq_ok.mp hnodes) hfresh
      rw [heq] at h
      cases h

end Saved
/-! ## Answers -/

namespace Session

/-- The saved entries that an answer states. Without an inference there are none. -/
inductive States (answer : Noted (Option InferenceRecord)) : List Value → Prop
  | unbound (h : answer.result = .ok none) : States answer []
  | bound {inference : InferenceRecord} {configs : List Value}
      (h : answer.result = .ok (some inference)) (hconfigs : inference.configs = .ok configs) :
      States answer configs

variable {answer : Noted (Option InferenceRecord)} {configs : List Value} {ids : IdSource} {e : Failure}
  {s : Session}

/-- An answer states its entries only. -/
lemma States.unique {others : List Value} (h : States answer configs) (h' : States answer others) :
    others = configs := by
  cases h with
  | unbound h =>
    cases h' with
    | unbound => rfl
    | bound h' => cases h.symm.trans h'
  | bound h hconfigs =>
    cases h' with
    | unbound h' => cases h.symm.trans h'
    | bound h' hothers =>
      cases h.symm.trans h'
      exact Except.ok.inj (hothers.symm.trans hconfigs)

lemma restoreAnswer_of_states (h : States answer configs) :
    (restoreAnswer ids answer).result = (Saved.restore (configs.map .raw) ids).result := by
  cases h with
  | unbound h =>
    rw [restoreAnswer, Noted.bind_of_ok h]
    rfl
  | bound h hconfigs =>
    rw [restoreAnswer, Noted.bind_of_ok h]
    dsimp only
    rw [hconfigs]
    rfl

/-- An answer is a failure, or states entries, or has an inference whose entries cannot be run through. -/
lemma states_cases (answer : Noted (Option InferenceRecord)) :
    (∃ e, answer.result = .error e) ∨ (∃ configs, States answer configs) ∨
      ∃ inference f, answer.result = .ok (some inference) ∧ inference.configs = .error f := by
  cases h : answer.result with
  | error e => exact .inl ⟨e, rfl⟩
  | ok found =>
    cases found with
    | none => exact .inr (.inl ⟨[], .unbound h⟩)
    | some inference =>
      cases hconfigs : inference.configs with
      | ok configs => exact .inr (.inl ⟨configs, .bound h hconfigs⟩)
      | error f => exact .inr (.inr ⟨inference, f, rfl, hconfigs⟩)

/-- Restoring an answer fails as the answer did, or for the entries that it states. -/
lemma restoreAnswer_eq_error :
    (restoreAnswer ids answer).result = .error e ↔ answer.result = .error e ∨
      (∃ inference f, answer.result = .ok (some inference) ∧ inference.configs = .error f ∧ e = .fault f) ∨
      ∃ configs, States answer configs ∧ (Saved.restore (configs.map .raw) ids).result = .error e := by
  constructor
  · intro h
    rcases states_cases answer with ⟨e', he'⟩ | ⟨configs, hstates⟩ | ⟨inference, f, hfound, hconfigs⟩
    · rw [restoreAnswer, Noted.bind_of_error he'] at h
      cases h
      exact .inl he'
    · rw [restoreAnswer_of_states hstates] at h
      exact .inr (.inr ⟨configs, hstates, h⟩)
    · rw [restoreAnswer, Noted.bind_of_ok hfound] at h
      dsimp only at h
      rw [hconfigs] at h
      cases h
      exact .inr (.inl ⟨inference, f, hfound, hconfigs, rfl⟩)
  · rintro (h | ⟨inference, f, hfound, hconfigs, rfl⟩ | ⟨configs, hstates, h⟩)
    · rw [restoreAnswer, Noted.bind_of_error h]
    · rw [restoreAnswer, Noted.bind_of_ok hfound]
      dsimp only
      rw [hconfigs]
      rfl
    · rw [restoreAnswer_of_states hstates, h]

/-- What was restored was restored from the entries that the answer states. -/
lemma states_of_restoreAnswer {made : Restored × IdSource}
    (h : (restoreAnswer ids answer).result = .ok made) :
    ∃ configs, States answer configs ∧ (Saved.restore (configs.map .raw) ids).result = .ok made := by
  rcases states_cases answer with ⟨e, he⟩ | ⟨configs, hstates⟩ | ⟨inference, f, hfound, hconfigs⟩
  · cases h.symm.trans (restoreAnswer_eq_error.mpr (.inl he))
  · rw [restoreAnswer_of_states hstates] at h
    exact ⟨configs, hstates, h⟩
  · cases h.symm.trans (restoreAnswer_eq_error.mpr (.inr (.inl ⟨inference, f, hfound, hconfigs, rfl⟩)))

/-- A session that takes up a graph has its warnings, listens to it once and has nothing to save. -/
def takenUp (s : Session) (g : Graph) (ws : Advice.Warnings) (ids : IdSource) : Session :=
  { s with past := s.past ++ [s.detach.current], current := ⟨g, 1⟩, attached := true,
           warnings := ws, dirty := false, ids }

lemma attach_eq_ok {g : Graph} {ws : Advice.Warnings} (hws : Advice.warnings g = .ok ws) :
    ({ s with ids } : Session).attach g = (s.takenUp g ws ids, .ok ()) := by
  unfold attach
  rw [hws]
  unfold takenUp detach
  -- A session that was closed lets go of nothing, but its graph joins those of the past as well.
  by_cases hattached : s.attached = true
  · simp [hattached]
  · simp [hattached]

/-- A load takes up the restored graph, or fails and leaves the session as it is. -/
lemma load_cases (s : Session) (answer : Noted (Option InferenceRecord)) :
    (∃ configs restored ids ws, States answer configs ∧
      (Saved.restore (configs.map .raw) s.ids).result = .ok (restored, ids) ∧
      Advice.warnings restored.graph = .ok ws ∧ (s.load answer).1 = s.takenUp restored.graph ws ids ∧
      (s.load answer).2.result = .ok restored) ∨
    ∃ e, (restoreAnswer s.ids answer).result = .error e ∧ (s.load answer).1 = s ∧
      (s.load answer).2.result = .error e := by
  cases h : (restoreAnswer s.ids answer).result with
  | error e =>
    obtain ⟨hsession, hresult⟩ := load_of_error h
    exact .inr ⟨e, rfl, hsession, hresult⟩
  | ok made =>
    obtain ⟨restored, ids⟩ := made
    obtain ⟨configs, hstates, hrestored⟩ := states_of_restoreAnswer h
    obtain ⟨ws, hws⟩ := Advice.warnings_ok_iff.mpr (restoreAnswer_sound h).2
    obtain ⟨hsession, hresult⟩ := load_of_ok h
    rw [attach_eq_ok hws] at hsession hresult
    exact .inl ⟨configs, restored, ids, ws, hstates, hrestored, hws, hsession, hresult⟩

end Session
/-! ## Loads -/

namespace Job

variable {w : World} {c : Client} {app video : String}

/-- What comes of the request for an inference. -/
def inferenceReply (w : World) (c : Client) (app video : String) : Reply :=
  (w.line.send c (Client.getInference app video).request).1

/-- What the client makes of it. -/
def inferenceAnswer (w : World) (c : Client) (app video : String) : Noted (Option InferenceRecord) :=
  (Client.getInference app video).read (inferenceReply w c app video)

/-- The entries cannot be restored: the type of one is no key, or the text of an alarm overwhelms. -/
def Unrestorable (configs : List Value) : Prop :=
  (∃ v ∈ configs, (Saved.raw v).typeIsNoKey = true) ∨
    ∃ t ∈ (Saved.placing (configs.map .raw)).placed, ∃ ext,
      t.record.body = .alarm ext ∧ Alarm.Overwhelms ext

/-- What a load promises, whatever the backend answers. -/
structure Loads (w : World) (c : Client) (app video : String) : Prop where
  /-- A load that returns has restored the entries of the answer, and the session has taken up the graph. -/
  returned : ∀ restored w', (Job.load c app video).run.run w = (.ok restored, w') →
    ∃ configs ids ws, Session.States (inferenceAnswer w c app video) configs ∧
      (Saved.restore (configs.map .raw) w.session.ids).result = .ok (restored, ids) ∧
      Advice.warnings restored.graph = .ok ws ∧
      w'.session = w.session.takenUp restored.graph ws ids
  /-- A load that fails leaves the session as it is, and fails to read from the backend or with a fault. -/
  failed : ∀ stop w', (Job.load c app video).run.run w = (.error stop, w') →
    w'.session = w.session ∧ ∃ e, stop = .failure e ∧ (e.IsBackend ∨ ∃ f, e = .fault f)
  /-- It fails with a fault if the reply is too deep, or its entries cannot be run through or restored. -/
  faults : (∃ f w', (Job.load c app video).run.run w = (.error (.failure (.fault f)), w')) ↔
    (inferenceReply w c app video).IsTooDeep ∨
      (∃ inference f, (inferenceAnswer w c app video).result = .ok (some inference) ∧
        inference.configs = .error f) ∨
      ∃ configs, Session.States (inferenceAnswer w c app video) configs ∧ Unrestorable configs

/-- A load hands the session the answer, and yields what the session makes of it. -/
lemma load_result (w : World) (c : Client) (app video : String) :
    ∃ w', (Job.load c app video).run.run w =
        (yield (w.session.load (inferenceAnswer w c app video)).2.result, w') ∧
      w'.session = (w.session.load (inferenceAnswer w c app video)).1 := by
  rw [Job.load, exchange_bind, step_run]
  exact ⟨_, rfl, rfl⟩

lemma restore_unrestorable {configs : List Value} {ids : IdSource} (hfresh : ids.Fresh configs.length) :
    (∃ e, (Saved.restore (configs.map .raw) ids).result = .error e) ↔ Unrestorable configs := by
  have hfresh' : ids.Fresh (configs.map Saved.raw).length := by rwa [List.length_map]
  simp only [Saved.restore_fails, Saved.restoreNoted_fails hfresh', Saved.nodeOf_fails, List.mem_map,
    exists_exists_and_eq_and]
  rfl

/-- Without a failure to read, what is wrong is a fault. -/
lemma restoreAnswer_faults {ids : IdSource}
    (hfresh : ∀ configs, Session.States (inferenceAnswer w c app video) configs →
      ids.Fresh configs.length) :
    (∃ f, (Session.restoreAnswer ids (inferenceAnswer w c app video)).result = .error (.fault f)) ↔
      (inferenceReply w c app video).IsTooDeep ∨
        (∃ inference f, (inferenceAnswer w c app video).result = .ok (some inference) ∧
          inference.configs = .error f) ∨
        ∃ configs, Session.States (inferenceAnswer w c app video) configs ∧ Unrestorable configs := by
  simp only [Session.restoreAnswer_eq_error]
  constructor
  · rintro ⟨f, h | ⟨inference, f', hfound, hconfigs, -⟩ | ⟨configs, hstates, h⟩⟩
    · exact .inl (Client.getInference_escapes.mp ⟨h, Failure.not_isBackend_fault f⟩).1
    · exact .inr (.inl ⟨inference, f', hfound, hconfigs⟩)
    · exact .inr (.inr ⟨configs, hstates, (restore_unrestorable (hfresh configs hstates)).mp ⟨_, h⟩⟩)
  · rintro (hdeep | ⟨inference, f, hfound, hconfigs⟩ | ⟨configs, hstates, hbad⟩)
    · exact ⟨_, .inl (Client.getInference_escapes.mpr ⟨hdeep, rfl⟩).1⟩
    · exact ⟨f, .inr (.inl ⟨inference, f, hfound, hconfigs, rfl⟩)⟩
    · have hlength := hfresh configs hstates
      obtain ⟨e, he⟩ := (restore_unrestorable hlength).mpr hbad
      obtain ⟨f, rfl⟩ := Saved.exists_fault_of_restore (by rwa [List.length_map]) he
      exact ⟨f, .inr (.inr ⟨configs, hstates, he⟩)⟩

/-- A failure of an answer is one to read from the backend or a fault. -/
lemma restoreAnswer_error {ids : IdSource} {e : Failure}
    (hfresh : ∀ configs, Session.States (inferenceAnswer w c app video) configs →
      ids.Fresh configs.length)
    (h : (Session.restoreAnswer ids (inferenceAnswer w c app video)).result = .error e) :
    e.IsBackend ∨ ∃ f, e = .fault f := by
  rcases Session.restoreAnswer_eq_error.mp h with h | ⟨-, f, -, -, rfl⟩ | ⟨configs, hstates, h⟩
  · by_cases hbackend : e.IsBackend
    · exact .inl hbackend
    · exact .inr ⟨_, (Client.getInference_escapes.mp ⟨h, hbackend⟩).2⟩
  · exact .inr ⟨f, rfl⟩
  · exact .inr (Saved.exists_fault_of_restore (by rw [List.length_map]; exact hfresh configs hstates) h)

/-- A load either takes up the graph that was restored of the answer or leaves the session as it is. It fails
to read from the backend, or with a fault: on a reply that is too deep, on settings whose entries cannot be
run through, and on entries that cannot be restored. -/
theorem loads (hfresh : ∀ configs, Session.States (inferenceAnswer w c app video) configs →
      w.session.ids.Fresh configs.length) :
    Loads w c app video := by
  obtain ⟨w', hrun, hsession⟩ := load_result w c app video
  have houtcome := w.session.load_cases (inferenceAnswer w c app video)
  refine ⟨?_, ?_, ?_⟩
  · intro restored w'' h
    obtain ⟨hresult, rfl⟩ := Prod.mk.inj (hrun.symm.trans h)
    rcases houtcome with ⟨configs, restored', ids, ws, hstates, hrestored, hws, hload, hdone⟩ |
      ⟨e, -, -, hfailed⟩
    · rw [hdone] at hresult
      cases hresult
      exact ⟨configs, ids, ws, hstates, hrestored, hws, hsession.trans hload⟩
    · rw [hfailed] at hresult
      cases hresult
  · intro stop w'' h
    obtain ⟨hresult, rfl⟩ := Prod.mk.inj (hrun.symm.trans h)
    rcases houtcome with ⟨_, _, _, _, -, -, -, -, hdone⟩ | ⟨e, he, hload, hfailed⟩
    · rw [hdone] at hresult
      cases hresult
    · rw [hfailed] at hresult
      cases hresult
      exact ⟨hsession.trans hload, e, rfl, restoreAnswer_error hfresh he⟩
  · -- The session fails exactly as restoring does, so that the world is looked at here only.
    rw [← restoreAnswer_faults hfresh]
    constructor
    · rintro ⟨f, w'', h⟩
      obtain ⟨hresult, rfl⟩ := Prod.mk.inj (hrun.symm.trans h)
      rcases houtcome with ⟨_, _, _, _, -, -, -, -, hdone⟩ | ⟨e, he, -, hfailed⟩
      · rw [hdone] at hresult
        cases hresult
      · rw [hfailed] at hresult
        cases hresult
        exact ⟨f, he⟩
    · rintro ⟨f, hf⟩
      have hfailed := (Session.load_of_error hf).2
      exact ⟨f, w', by rw [hrun, hfailed]; rfl⟩

/-- The backend answers with one saved entry, whose type is a list. -/
def listTypeWorld : World :=
  { Session.emptyWorld with
    line := .ofReplies [.answer 200
      "[\x7b\"appId\":\"app\",\"videoId\":\"camera\",\"settings\":\x7b\"configs\":[\x7b\"eventType\":[]\x7d]\x7d\x7d]"] }

/-- The load fails with a fault, and the session is as it was. -/
theorem loads_listType : ∃ f w',
    (Job.load Session.client "app" "camera").run.run listTypeWorld = (.error (.failure (.fault f)), w') ∧
      w'.session = listTypeWorld.session := by
  have hfound : (inferenceAnswer listTypeWorld Session.client "app" "camera").result =
      .ok (some ⟨"app", "camera", "", [("configs", .list [.object [("eventType", .list [])]])]⟩) := rfl
  have hstates : Session.States (inferenceAnswer listTypeWorld Session.client "app" "camera")
      [.object [("eventType", .list [])]] := .bound hfound rfl
  have hloads : Loads listTypeWorld Session.client "app" "camera" :=
    loads fun configs h => hstates.unique h ▸ by decide
  obtain ⟨f, w', hrun⟩ := hloads.faults.mpr
    (.inr (.inr ⟨_, hstates, .inl ⟨_, List.mem_singleton_self _, rfl⟩⟩))
  exact ⟨f, w', hrun, (hloads.failed _ _ hrun).1⟩

end Job
end DetectionFlow
