import DetectionFlow.Proofs.ResavedGraphs
import DetectionFlow.Proofs.ToldChanges
import DetectionFlow.World

/-!
# What a session does

An operation on the graph that a session listens to leaves the session with the warnings of the graph, and
dirty if anything was told of (`Session.edit_heard`); one on any other graph is not heard
(`Session.edit_unheard`, `Session.samePresent_editPast`). Jobs that load and save hand the session what the
backend answered (`Job.load_run`, `Job.save_run`).
-/

namespace DetectionFlow

/-! ## Graphs of the past -/

namespace Session

/-- The session with another version of a graph that it edited before. -/
def withPast (s : Session) (i : Nat) (d : Draft) : Session :=
  { s with past := s.past.modify i fun h => { h with graph := d.graph }, ids := d.ids }

/-- Goes through the changes of an operation on a graph that was edited before, as `follow` does for the graph
under edit. -/
def followPast (i : Nat) : List (Change × Draft) → Session → Session × Option Fault
  | [], s => (s, none)
  | (_, d) :: rest, s =>
    let s := s.withPast i d
    match hearTimes ((s.past[i]?.map (·.listeners)).getD 0) s with
    | .ok s => followPast i rest s
    | .error f => (s, some f)

/-- An operation on a graph that was edited before. -/
def editPast {α : Type} (s : Session) (i : Nat) (m : Editing α) : Session :=
  match s.past[i]? with
  | none => s
  | some h =>
    let edit := m ⟨h.graph, s.ids⟩
    match followPast i edit.steps s with
    | (s, none) => s.withPast i edit.draft
    | (s, some _) => s

/-- At most graphs of the past differ, and the source of identifiers. -/
structure SamePresent (s s' : Session) : Prop where
  current : s'.current = s.current
  attached : s'.attached = s.attached
  warnings : s'.warnings = s.warnings
  dirty : s'.dirty = s.dirty
  past : s'.past.map (·.listeners) = s.past.map (·.listeners)

variable {s s' s'' : Session}

lemma SamePresent.refl (s : Session) : SamePresent s s := ⟨rfl, rfl, rfl, rfl, rfl⟩

lemma SamePresent.trans (h : SamePresent s s') (h' : SamePresent s' s'') : SamePresent s s'' :=
  ⟨h'.current.trans h.current, h'.attached.trans h.attached, h'.warnings.trans h.warnings,
    h'.dirty.trans h.dirty, h'.past.trans h.past⟩

lemma samePresent_withPast (s : Session) (i : Nat) (d : Draft) :
    SamePresent s (s.withPast i d) := by
  refine ⟨rfl, rfl, rfl, rfl, ?_⟩
  have hkept : ∀ (past : List Heard) (i : Nat),
      (past.modify i fun h => { h with graph := d.graph }).map (·.listeners) =
        past.map (·.listeners) := by
    intro past
    induction past with
    | nil => intro i; cases i <;> rfl
    | cons h rest ih =>
      intro i
      cases i with
      | zero => rfl
      | succ i => simp [ih i]
  exact hkept s.past i

/-- Nobody listens to the graphs of the past. -/
def PastUnheard (s : Session) : Prop := ∀ h ∈ s.past, h.listeners = 0

lemma SamePresent.pastUnheard (h : SamePresent s s') (hs : s.PastUnheard) : s'.PastUnheard := by
  intro old hold
  have hmem : old.listeners ∈ s'.past.map (·.listeners) := List.mem_map_of_mem hold
  rw [h.past] at hmem
  obtain ⟨old', hold', heq⟩ := List.mem_map.mp hmem
  rw [← heq]
  exact hs old' hold'

lemma samePresent_followPast (hs : s.PastUnheard) (i : Nat) (steps : List (Change × Draft)) :
    SamePresent s (followPast i steps s).1 := by
  induction steps generalizing s with
  | nil => exact .refl s
  | cons t rest ih =>
    -- The graph has no listener, so that the change goes by and the rest is followed from there.
    have hpast := samePresent_withPast s i t.2
    have hunheard := hpast.pastUnheard hs
    have hlisteners : (((s.withPast i t.2).past[i]?).map (·.listeners)).getD 0 = 0 := by
      cases hfound : (s.withPast i t.2).past[i]? with
      | none => rfl
      | some old => exact hunheard old (List.mem_of_getElem? hfound)
    rw [followPast, hlisteners]
    exact hpast.trans (ih hunheard)

/-- What happens to a graph of the past is not heard. -/
lemma samePresent_editPast {α : Type} (hs : s.PastUnheard) (i : Nat) (m : Editing α) :
    SamePresent s (s.editPast i m) := by
  unfold editPast
  cases s.past[i]? with
  | none => exact .refl s
  | some h =>
    have hfollow := samePresent_followPast hs i (m ⟨h.graph, s.ids⟩).steps
    dsimp only
    split
    next s' hs' =>
      rw [hs'] at hfollow
      exact hfollow.trans (samePresent_withPast s' i _)
    next s' f hs' =>
      rw [hs'] at hfollow
      exact hfollow

end Session

/-! ## Listening -/

namespace Session

variable {s : Session}

/-- A session that nobody listens for goes on without noticing anything. -/
lemma follow_unheard (h : s.current.listeners = 0) (steps : List (Change × Draft)) :
    follow steps s = (s.withDraft (s.draft.told steps), none) := by
  induction steps generalizing s with
  | nil => rfl
  | cons t rest ih =>
    have hzero : (s.withDraft t.2).current.listeners = 0 := h
    have hheard : hearTimes (s.withDraft t.2).current.listeners (s.withDraft t.2) =
        .ok (s.withDraft t.2) := by
      rw [hzero, hearTimes]
    show (match hearTimes _ (s.withDraft t.2) with
      | .ok s => follow rest s
      | .error f => (s.withDraft t.2, some f)) = _
    rw [hheard]
    exact ih h

/-- The session after it heard of a change, with the warnings of its graph. -/
def heard (s : Session) (ws : Advice.Warnings) : Session := { s with warnings := ws, dirty := true }

lemma hear_eq_ok {ws : Advice.Warnings} (h : Advice.warnings s.graph = .ok ws) :
    s.hear = .ok (s.heard ws) := by
  rw [hear, h]
  rfl

/-- A session that listens once has the warnings of the graph that it was told of last, and is dirty if it was
told of anything. -/
lemma follow_heard (h : s.current.listeners = 1) (hws : Advice.warnings s.graph = .ok s.warnings)
    {steps : List (Change × Draft)} (htimed : ∀ t ∈ steps, t.2.graph.Timed) :
    ∃ ws, Advice.warnings (s.draft.told steps).graph = .ok ws ∧
      follow steps s = ({ s.withDraft (s.draft.told steps) with
        warnings := ws, dirty := s.dirty || !steps.isEmpty }, none) := by
  -- After each change the session has the warnings of the graph at that moment, as it had before.
  induction steps generalizing s with
  | nil => exact ⟨s.warnings, hws, by simp [follow, Draft.told, withDraft, draft, graph]⟩
  | cons t rest ih =>
    obtain ⟨htimed', hrest⟩ := List.forall_mem_cons.mp htimed
    obtain ⟨ws, hws'⟩ := Advice.warnings_ok_iff.mpr htimed'
    have hheard : hearTimes (s.withDraft t.2).current.listeners (s.withDraft t.2) =
        .ok ((s.withDraft t.2).heard ws) := by
      have hone : (s.withDraft t.2).current.listeners = 1 := h
      have hhear := @hear_eq_ok (s.withDraft t.2) ws hws'
      rw [hone, hearTimes, hhear]
      rfl
    obtain ⟨ws', hlast, hfollow⟩ := ih (s := (s.withDraft t.2).heard ws) h hws' hrest
    refine ⟨ws', hlast, ?_⟩
    show (match hearTimes _ (s.withDraft t.2) with
      | .ok s => follow rest s
      | .error f => (s.withDraft t.2, some f)) = _
    rw [hheard]
    show follow rest ((s.withDraft t.2).heard ws) = _
    have hdirty : ((s.withDraft t.2).heard ws).dirty = true := rfl
    rw [hfollow, hdirty, Bool.true_or, List.isEmpty_cons, Bool.not_false, Bool.or_true]
    rfl

/-- What a session that nobody listens for is after an operation. -/
lemma edit_unheard {α : Type} (h : s.current.listeners = 0) (m : Editing α) :
    (s.edit m).1 = s.withDraft (m s.draft).draft := by
  rw [edit, follow_unheard h]
  rfl

/-- What a session that listens once is after an operation that tells of all that matters. -/
lemma edit_heard {α : Type} (h : s.current.listeners = 1)
    (hws : Advice.warnings s.graph = .ok s.warnings) {m : Editing α}
    (htimed : ∀ t ∈ (m s.draft).steps, t.2.graph.Timed)
    (htold : (s.draft.told (m s.draft).steps).graph.outline = (m s.draft).draft.graph.outline) :
    ∃ ws, Advice.warnings (m s.draft).draft.graph = .ok ws ∧
      (s.edit m).1 = { s.withDraft (m s.draft).draft with
        warnings := ws, dirty := s.dirty || !(m s.draft).steps.isEmpty } := by
  obtain ⟨ws, hlast, hfollow⟩ := follow_heard h hws htimed
  refine ⟨ws, Advice.warnings_of_outline htold hlast, ?_⟩
  rw [edit, hfollow]
  rfl

end Session

/-! ## Restored graphs -/

namespace Saved

/-- Records of Timeouts have a number of seconds. -/
lemma timed_restore {entries : List Saved} {ids ids' : IdSource} {restored : Restored}
    (h : (restore entries ids).result = .ok (restored, ids')) : restored.graph.Timed := by
  intro n hn
  obtain ⟨t, -, ht⟩ := (restore_yields h).exists_placed hn
  rw [nodeOf_payload ht]
  cases t.record.body with
  | timeout seconds => exact ⟨seconds, by cases seconds <;> rfl⟩
  | _ => trivial

end Saved

namespace Session

variable {s : Session}

/-- The graph of an answer is valid, and its seconds are numbers. -/
lemma restoreAnswer_sound {ids ids' : IdSource} {answer : Noted (Option InferenceRecord)}
    {restored : Restored} (h : (restoreAnswer ids answer).result = .ok (restored, ids')) :
    restored.graph.Valid ∧ restored.graph.Timed := by
  obtain ⟨found, -, h⟩ := Noted.bind_result_eq_ok.mp h
  cases found with
  | none => exact ⟨Saved.valid_restore h, Saved.timed_restore h⟩
  | some inference =>
    obtain ⟨configs, -, h⟩ := Noted.bind_result_eq_ok.mp h
    exact ⟨Saved.valid_restore h, Saved.timed_restore h⟩

lemma load_of_error {answer : Noted (Option InferenceRecord)} {e : Failure}
    (h : (restoreAnswer s.ids answer).result = .error e) :
    (s.load answer).1 = s ∧ (s.load answer).2.result = .error e := by
  unfold load
  simp only [h, and_self]

lemma load_of_ok {answer : Noted (Option InferenceRecord)} {restored : Restored} {ids : IdSource}
    (h : (restoreAnswer s.ids answer).result = .ok (restored, ids)) :
    (s.load answer).1 = (attach { s with ids } restored.graph).1 ∧
      (s.load answer).2.result = (attach { s with ids } restored.graph).2.map fun _ => restored := by
  unfold load
  simp only [h, and_self]

/-- Only settings that were accepted leave nothing to save. -/
lemma saved_eq (s : Session) (answer : Noted SaveReport) :
    s.saved answer = ({ s with dirty := match answer.result with
      | .ok report => s.dirty && !report.accepted
      | .error _ => s.dirty }, answer) := by
  obtain ⟨notices, e | report⟩ := answer
  · rfl
  · show (if report.accepted then { s with dirty := false } else s, _) = _
    cases haccepted : report.accepted <;> simp [haccepted]

end Session

/-! ## Jobs -/

namespace Job

variable {α β : Type} {w : World}

/-- What a job yields for a result. -/
def yield (r : Except Failure α) : Except Stop α := r.mapError .failure

lemma ofResult_run (r : Except Failure α) : (ofResult r).run.run w = (yield r, w) := by
  cases r <;> rfl

lemma setSession_bind (s : Session) (f : Unit → Job β) :
    (setSession s >>= f).run.run w = (f ()).run.run { w with session := s } := rfl

lemma session_bind (f : Session → Job β) :
    (session >>= f).run.run w = (f w.session).run.run w := rfl

lemma notify_bind (ns : List Notice) (f : Unit → Job β) :
    (notify ns >>= f).run.run w = (f ()).run.run { w with log := w.log ++ ns.map .notice } := rfl

lemma exchange_bind (c : Client) (call : Call α) (f : Noted α → Job β) :
    (exchange c call >>= f).run.run w =
      (f (call.read (w.line.send c call.request).1)).run.run
        { w with line := (w.line.send c call.request).2 } := rfl

/-- After an operation on its graph the session is what it made of it. -/
lemma edit_session (m : Editing α) :
    ((Job.edit m).run.run w).2.session = (w.session.edit m).1 := by
  rw [Job.edit, session_bind]
  rw [setSession_bind, ofResult_run]

/-- A step of the session is taken, and fails if the session says so. -/
lemma step_run (f : Session → Session × Noted α) :
    (Job.step f).run.run w = (yield (f w.session).2.result,
      { w with session := (f w.session).1, log := w.log ++ (f w.session).2.notices.map .notice }) := by
  rw [Job.step, session_bind]
  rw [setSession_bind, noted, notify_bind, ofResult_run]

/-- A load hands the session what was answered. -/
lemma load_run (c : Client) (app video : String) :
    ∃ answer line, (Job.load c app video).run.run w =
      (Job.step (·.load answer)).run.run { w with line } := by
  rw [Job.load, exchange_bind]
  exact ⟨_, _, rfl⟩

/-- A job after compilation does not start if that fails. -/
lemma compile_bind (f : Compiled → Job β) :
    ∃ log, (compile >>= f).run.run w =
      match w.session.compile.result with
      | .ok c => (f c).run.run { w with log }
      | .error e => (.error (.failure e), { w with log }) := by
  refine ⟨w.log ++ w.session.compile.notices.map .notice, ?_⟩
  show ((notify w.session.compile.notices >>= fun _ => ofResult w.session.compile.result) >>=
    f).run.run w = _
  cases w.session.compile.result <;> rfl

/-- A save ends at a graph that does not compile, or hands the session what was answered. -/
lemma save_run (c : Client) (app video : String) :
    (∃ stop log, (Job.save c app video).run.run w = (.error stop, { w with log })) ∨
      ∃ answer line log, (Job.save c app video).run.run w =
        (Job.step (·.saved answer)).run.run { w with line, log } := by
  unfold Job.save
  obtain ⟨log, h⟩ := compile_bind (w := w) fun compiled => do
    let answer ← exchange c (Client.updateSettings app video compiled.settings.toValue)
    step (·.saved answer)
  rw [h]
  cases w.session.compile.result with
  | error e => exact .inl ⟨_, _, rfl⟩
  | ok compiled =>
    dsimp only
    rw [exchange_bind]
    exact .inr ⟨_, _, _, rfl⟩

end Job

end DetectionFlow
