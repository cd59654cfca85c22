import DetectionFlow.Proofs.SessionTheorems

/-!
# Runs of a session

A session is edited, loaded, saved and closed, and graphs that it edited before are edited on by whoever
still has them. What there is to know of it follows from these events (`Account`): whether it is open, and
whether its graph told of a change since it was taken up or its settings were accepted. After any events the
session agrees with that (`Session.Agrees`): an open session has the warnings of its graph and is dirty
exactly if there was such a change, and it listens once to the graph it edits and to no other
(`Session.Runs.follows`).
-/

namespace DetectionFlow

/-! ## Events -/

/-- What happens to a session, or to a graph that it edited before. -/
inductive Event
  | edit (call : GraphCall)
  /-- A call on the graph that was edited as the `i`-th, by whoever still has it. -/
  | editPast (i : Nat) (call : GraphCall)
  | load (c : Client) (app video : String)
  | save (c : Client) (app video : String)
  | close

/-- What there is to know of a session from its events. -/
structure Account where
  /-- It took up a graph and was not closed since. -/
  isOpen : Bool
  /-- Its graph told of a change since it was taken up or since its settings were accepted. -/
  changed : Bool

namespace Event

/-- The world after an event. What fails stays with whoever asked for it. -/
def run (w : World) : Event → World
  | edit call => ((Job.edit call.run).run.run w).2
  | editPast i call => { w with session := w.session.editPast i call.run }
  | load c app video => ((Job.load c app video).run.run w).2
  | save c app video => ((Job.save c app video).run.run w).2
  | close => { w with session := w.session.close }

/-- What there is to know after an event. -/
def account (w : World) (a : Account) : Event → Account
  | edit call => { a with changed := a.changed || !(call.run w.session.draft).steps.isEmpty }
  | editPast .. => a
  | load c app video => match ((Job.load c app video).run.run w).1 with
    | .ok _ => ⟨true, false⟩
    | .error _ => a
  | save c app video => match ((Job.save c app video).run.run w).1 with
    | .ok report => { a with changed := a.changed && !report.accepted }
    | .error _ => a
  | close => { a with isOpen := false }

/-- All seconds are numbers in all graphs that the event tells the session of. -/
def Timed (s : Session) : Event → Prop
  | edit call => ∀ t ∈ (call.run s.draft).steps, t.2.graph.Timed
  | _ => True

end Event

/-! ## Agreement -/

/-- A session is as there is to know of it. -/
structure Session.Agrees (s : Session) (a : Account) : Prop where
  attached : s.attached = a.isOpen
  listeners : s.current.listeners = if a.isOpen then 1 else 0
  past : s.PastUnheard
  valid : s.graph.Valid
  warnings : a.isOpen = true → Advice.warnings s.graph = .ok s.warnings
  dirty : a.isOpen = true → s.dirty = a.changed

namespace Session.Agrees

variable {w : World} {s : Session} {a : Account}

lemma editPast (h : s.Agrees a) (i : Nat) (call : GraphCall) :
    (s.editPast i call.run).Agrees a := by
  have hsame := samePresent_editPast h.past i call.run
  have hgraph : (s.editPast i call.run).graph = s.graph := congrArg Heard.graph hsame.current
  refine ⟨hsame.attached.trans h.attached, ?_, hsame.pastUnheard h.past, hgraph ▸ h.valid, ?_, ?_⟩
  · rw [hsame.current]
    exact h.listeners
  · rw [hgraph, hsame.warnings]
    exact h.warnings
  · rw [hsame.dirty]
    exact h.dirty

lemma edit (h : w.session.Agrees a) {call : GraphCall}
    (htimed : (Event.edit call).Timed w.session) :
    ((Event.edit call).run w).session.Agrees ((Event.edit call).account w a) := by
  have hvalid : (call.run w.session.draft).draft.graph.Valid := call.keeps_run _ h.valid
  show ((Job.edit call.run).run.run w).2.session.Agrees _
  rw [Job.edit_session]
  cases hopen : a.isOpen with
  | true =>
    have hone : w.session.current.listeners = 1 := by simpa [hopen] using h.listeners
    -- A label that was set untold does not make the warnings stale: they do not depend on it.
    obtain ⟨ws, hws, hsession⟩ := edit_heard hone (h.warnings hopen) htimed
      (call.told_run h.valid)
    rw [hsession]
    refine ⟨h.attached, h.listeners, h.past, hvalid, fun _ => hws, fun _ => ?_⟩
    rw [h.dirty hopen]
    rfl
  | false =>
    have hzero : w.session.current.listeners = 0 := by simpa [hopen] using h.listeners
    rw [edit_unheard hzero]
    refine ⟨h.attached, h.listeners, h.past, hvalid, fun hnot => ?_, fun hnot => ?_⟩
    · exact absurd (hopen.symm.trans hnot) Bool.false_ne_true
    · exact absurd (hopen.symm.trans hnot) Bool.false_ne_true

lemma close (h : s.Agrees a) : s.close.Agrees { a with isOpen := false } := by
  unfold Session.close detach
  cases hopen : a.isOpen with
  | true =>
    rw [if_pos (h.attached.trans hopen)]
    refine ⟨rfl, ?_, h.past, h.valid, by simp, by simp⟩
    have hone : s.current.listeners = 1 := by simpa [hopen] using h.listeners
    simp [hone]
  | false =>
    rw [if_neg (by simp [h.attached, hopen])]
    refine ⟨h.attached.trans hopen, ?_, h.past, h.valid, by simp, by simp⟩
    simpa [hopen] using h.listeners

/-- A session that lets go of its graph listens to none. -/
lemma detach_unheard (h : s.Agrees a) : s.detach.current.listeners = 0 ∧ s.detach.PastUnheard := by
  have hclosed := h.close
  exact ⟨hclosed.listeners, hclosed.past⟩

/-- A session that takes up a valid graph whose seconds are numbers listens to it and has nothing to save. -/
lemma attach (h : s.Agrees a) {g : Graph} (hg : g.Valid) (htimed : g.Timed) :
    (s.attach g).2 = .ok () ∧ (s.attach g).1.Agrees ⟨true, false⟩ := by
  obtain ⟨ws, hws⟩ := Advice.warnings_ok_iff.mpr htimed
  -- The old graph joins those of the past after it was let go of.
  obtain ⟨hcurrent, hpast⟩ := h.detach_unheard
  unfold Session.attach
  rw [hws]
  refine ⟨rfl, rfl, rfl, ?_, hg, fun _ => hws, fun _ => rfl⟩
  exact List.forall_mem_append.mpr ⟨hpast, by simpa using hcurrent⟩

lemma withIds (h : s.Agrees a) (ids : IdSource) : ({ s with ids } : Session).Agrees a :=
  ⟨h.attached, h.listeners, h.past, h.valid, h.warnings, h.dirty⟩

/-- A load that fails leaves the session alone, and any other takes up the graph that was answered. -/
lemma load (h : w.session.Agrees a) (c : Client) (app video : String) :
    ((Event.load c app video).run w).session.Agrees ((Event.load c app video).account w a) := by
  obtain ⟨answer, line, hrun⟩ := Job.load_run (w := w) c app video
  rw [Event.run, Event.account, hrun, Job.step_run]
  dsimp only
  cases hrestored : (restoreAnswer w.session.ids answer).result with
  | error e =>
    obtain ⟨hsession, hresult⟩ := load_of_error hrestored
    rw [hsession, hresult]
    exact h
  | ok made =>
    obtain ⟨restored, ids⟩ := made
    obtain ⟨hsession, hresult⟩ := load_of_ok hrestored
    obtain ⟨hvalid, htimed⟩ := restoreAnswer_sound hrestored
    obtain ⟨hdone, hagrees⟩ := (h.withIds ids).attach hvalid htimed
    rw [hsession, hresult, hdone]
    exact hagrees

/-- A save that is not accepted leaves the session alone, and any other leaves nothing to save. -/
lemma save (h : w.session.Agrees a) (c : Client) (app video : String) :
    ((Event.save c app video).run w).session.Agrees ((Event.save c app video).account w a) := by
  rcases Job.save_run (w := w) c app video with ⟨stop, log, hrun⟩ | ⟨answer, line, log, hrun⟩
  · rw [Event.run, Event.account, hrun]
    exact h
  · rw [Event.run, Event.account, hrun, Job.step_run]
    dsimp only
    rw [saved_eq]
    dsimp only
    cases answer.result with
    | error e => exact h
    | ok report =>
      refine ⟨h.attached, h.listeners, h.past, h.valid, h.warnings, fun hopen => ?_⟩
      exact congrArg (· && !report.accepted) (h.dirty hopen)

/-- A session agrees with what there is to know after every event. -/
lemma event (h : w.session.Agrees a) (e : Event) (htimed : e.Timed w.session) :
    (e.run w).session.Agrees (e.account w a) := by
  cases e with
  | edit call => exact h.edit htimed
  | editPast i call => exact h.editPast i call
  | load c app video => exact h.load c app video
  | save c app video => exact h.save c app video
  | close => exact h.close

end Session.Agrees

/-! ## Runs -/

namespace Session

/-- The worlds that there can be after a session was started with a reachable graph and any events happened,
with what there is to know of the session. All seconds are numbers throughout. -/
inductive Runs : World → Account → Prop
  | start {w : World} {d : Draft} {s : Session} (hd : d.graph.Reachable)
      (h : Session.start d = .ok s) : Runs { w with session := s } ⟨true, false⟩
  | event {w : World} {a : Account} (h : Runs w a) (e : Event) (htimed : e.Timed w.session) :
      Runs (e.run w) (e.account w a)

variable {w : World} {a : Account}

/-- A save leaves the graphs and the listeners of a session as they are. -/
lemma save_graph (w : World) (c : Client) (app video : String) :
    ((Event.save c app video).run w).session.current = w.session.current ∧
      ((Event.save c app video).run w).session.past = w.session.past := by
  rcases Job.save_run (w := w) c app video with ⟨stop, log, hrun⟩ | ⟨answer, line, log, hrun⟩
  · rw [Event.run, hrun]
    exact ⟨rfl, rfl⟩
  · rw [Event.run, hrun, Job.step_run]
    dsimp only
    rw [saved_eq]
    exact ⟨rfl, rfl⟩

/-- A client of a backend. -/
def client : Client := ⟨"http://backend", .int 10, none⟩

/-- A world without files whose backend answers once, that there is no inference. The session edits the empty
graph. -/
def emptyWorld : World where
  disk := ⟨⟨"/", []⟩, [], []⟩
  home := ⟨"/", []⟩
  environment := []
  line := .ofReplies [.answer 200 ""]
  session := { blank ⟨Nat.repr, 0⟩ with current := ⟨Graph.empty, 1⟩, attached := true }
  operator := .ofAnswers []
  log := []

end Session
end DetectionFlow
