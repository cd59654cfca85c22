import DetectionFlow.Document
import DetectionFlow.Proofs.RestoredTheorems
import DetectionFlow.Template

/-!
# Reachable graphs

A graph is reachable (`Graph.Reachable`) if it was empty, was built from a document or was restored
from saved records in the beginning, and any operations were called on it since, with any arguments
and whether they succeeded or failed. All reachable graphs are valid.

The operations keep the rules one by one (`Operation.keeps_run`). Documents are inserted into an empty
graph by these operations, and templates by `Graph.extend`; a restored graph gets its nodes all at
once, and its edges by `Graph.connect`.
-/

namespace DetectionFlow

/-! ## Computations that leave the graph alone -/

/-- The operation told listeners of nothing and left the graph as it was. At most it drew identifiers. -/
structure Edit.Leaves {α : Type} (e : Edit α) (d : Draft) : Prop where
  steps : e.steps = []
  graph : e.draft.graph = d.graph
  source : e.draft.ids.make = d.ids.make

namespace Editing

/-- The operation never does anything to a graph, also if it fails. -/
def Quiet {α : Type} (m : Editing α) : Prop := ∀ d : Draft, (m d).Leaves d

variable {P : Graph → Prop} {α β : Type} {m : Editing α} {f : α → Editing β}

lemma Quiet.bind (hm : m.Quiet) (hf : ∀ a, (f a).Quiet) : (m >>= f).Quiet := by
  intro d
  have hfirst := hm d
  rw [bind_apply, andThen]
  cases (m d).result with
  | error e => exact ⟨hfirst.steps, hfirst.graph, hfirst.source⟩
  | ok a =>
    have hsecond := hf a (m d).draft
    have hsteps : (m d).steps ++ (f a (m d).draft).steps = [] := by
      rw [hfirst.steps, hsecond.steps, List.append_nil]
    exact ⟨hsteps, hsecond.graph.trans hfirst.graph, hsecond.source.trans hfirst.source⟩

lemma Quiet.keeps (hm : m.Quiet) : m.Keeps P := keeps_of_graph_eq fun d => (hm d).graph

lemma quiet_done (a : α) : (done a).Quiet := fun _ => ⟨rfl, rfl, rfl⟩

lemma quiet_fail (e : Failure) : (fail e : Editing α).Quiet := fun _ => ⟨rfl, rfl, rfl⟩

lemma quiet_current : current.Quiet := fun _ => ⟨rfl, rfl, rfl⟩

lemma quiet_fresh : fresh.Quiet := fun _ => ⟨rfl, rfl, rfl⟩

lemma quiet_ofFault (x : Except Fault α) : (ofFault x).Quiet := by
  cases x with
  | ok a => exact quiet_done a
  | error f => exact quiet_fail (.fault f)

lemma quiet_ofGraph (x : Except GraphError α) : (ofGraph x).Quiet := by
  cases x with
  | ok a => exact quiet_done a
  | error e => exact quiet_fail (.graph e)

end Editing

open Editing DetectionFlow.Graph

/-! ## Documents -/

namespace Document

lemma keeps_addEntry (n : NodeEntry) : (addEntry n).Keeps Valid := by
  unfold addEntry
  split
  · exact (quiet_fail _).keeps
  · exact (keeps_addNode _).bind fun _ => (quiet_done ()).keeps

lemma keeps_addEntries (ns : List NodeEntry) : (addEntries ns).Keeps Valid := by
  induction ns with
  | nil => exact (quiet_done ()).keeps
  | cons n rest ih => exact (keeps_addEntry n).bind fun _ => ih

lemma keeps_connectEntries (es : List EdgeEntry) : (connectEntries es).Keeps Valid := by
  induction es with
  | nil => exact (quiet_done ()).keeps
  | cons e rest ih => exact (keeps_connect e.source e.target e.id).bind fun _ => ih

lemma keeps_insert (d : Document) : d.insert.Keeps Valid :=
  (keeps_addEntries d.nodes).bind fun _ => keeps_connectEntries d.edges

section Made

variable {d : Document} {ids : IdSource} {draft : Draft} {e : Failure}

/-- A document has a graph exactly if it can be inserted into the empty one. -/
lemma toGraph_eq_ok : d.toGraph ids = .ok draft ↔ d.insert.Leads ⟨empty, ids⟩ () draft := by
  rw [toGraph]
  cases hresult : (d.insert ⟨empty, ids⟩).result with
  | error e =>
    refine iff_of_false nofun fun h => ?_
    cases hresult.symm.trans h.result
  | ok u => exact ⟨fun h => ⟨Except.ok.inj h, hresult⟩, fun h => congrArg Except.ok h.draft⟩

lemma toGraph_eq_error : d.toGraph ids = .error e ↔ (d.insert ⟨empty, ids⟩).result = .error e := by
  rw [toGraph]
  cases (d.insert ⟨empty, ids⟩).result <;> simp [Except.map]

/-- The graph of a document is valid. -/
theorem valid_toGraph (h : d.toGraph ids = .ok draft) : draft.graph.Valid := by
  have hvalid := keeps_insert d ⟨empty, ids⟩ valid_empty
  rwa [(toGraph_eq_ok.mp h).draft] at hvalid

end Made

end Document

/-! ## Templates -/

namespace Template

lemma quiet_nodesFrom (areaKind : Kind) (x : Value) (row : Nat) (stages : List Stage) :
    (nodesFrom areaKind x row stages).Quiet := by
  induction stages generalizing row with
  | nil => exact quiet_done []
  | cons stage rest ih =>
    exact quiet_fresh.bind fun _ => (quiet_ofFault _).bind fun _ =>
      (ih (row + 1)).bind fun _ => quiet_done _

lemma quiet_edgesAlong (nodes : List Node) : (edgesAlong nodes).Quiet := by
  induction nodes with
  | nil => exact quiet_done []
  | cons a rest ih =>
    cases rest with
    | nil => exact quiet_done []
    | cons b rest => exact quiet_fresh.bind fun _ => ih.bind fun _ => quiet_done _

/-- Nothing is inserted by the expansion of a template. -/
lemma quiet_expand (name area : Value) : (expand name area).Quiet :=
  (quiet_ofFault _).bind fun template => (quiet_ofFault _).bind fun areaKind =>
    quiet_current.bind fun _ => (quiet_ofFault _).bind fun x =>
      (quiet_nodesFrom areaKind x 0 template.stages).bind fun nodes =>
        (quiet_edgesAlong nodes).bind fun _ => quiet_done _

lemma keeps_insert (name area : Value) : (insert name area).Keeps Valid :=
  (quiet_expand name area).keeps.bind fun (nodes, edges) =>
    (keeps_extend nodes edges).bind fun _ => (quiet_done _).keeps

end Template

/-! ## Saved records -/

namespace Saved

lemma valid_connectOne {draft draft' : Draft} {t : Placed}
    (h : (connectOne draft t).result = .ok draft') (hvalid : draft.graph.Valid) :
    draft'.graph.Valid := by
  unfold connectOne at h
  split at h
  · rwa [← Except.ok.inj h]
  next parent hparent =>
    split at h
    · rwa [← Except.ok.inj h]
    · have hkeeps := keeps_connect parent t.record.id none draft hvalid
      cases hresult : (connect parent t.record.id none draft).result with
      | error e => simp [hresult, Except.map] at h
      | ok edge =>
        simp only [hresult, Except.map, Except.ok.injEq] at h
        rwa [← h]

lemma valid_foldlM_connectOne {placed : List Placed} {draft draft' : Draft}
    (h : (placed.foldlM connectOne draft).result = .ok draft') (hvalid : draft.graph.Valid) :
    draft'.graph.Valid := by
  induction placed generalizing draft with
  | nil => rwa [← Except.ok.inj h]
  | cons t rest ih =>
    rw [List.foldlM_cons] at h
    obtain ⟨next, hnext, hrest⟩ := Noted.bind_result_eq_ok.mp h
    exact ih hrest (valid_connectOne hnext hvalid)

/-- The graph of restored records is valid, whatever identifiers its edges drew. -/
theorem valid_restore {entries : List Saved} {ids ids' : IdSource} {restored : Restored}
    (h : (restore entries ids).result = .ok (restored, ids')) : restored.graph.Valid := by
  obtain ⟨-, nodes, draft, hmade, hdraft, hgraph, -, -⟩ :=
    restoreNoted_eq_ok (restore_result_eq_ok.mp h).1
  rw [← hgraph]
  refine valid_foldlM_connectOne hdraft ⟨?_, ?_, ?_, ?_, ?_, ?_⟩
  · exact nodeIds_nodup hmade
  all_goals simp

end Saved

/-! ## Reachable graphs -/

/-- A call that an operator makes on a graph. -/
inductive Operation
  | addNode (new : NewNode)
  | removeNode (id : String)
  | moveNode (id : String) (x y : Value)
  | updateNode (id : String) (label : Option String) (fields : Fields)
  | connect (source target : String) (id : Option String)
  | disconnect (id : String)
  | extend (nodes : List Node) (edges : List Edge)
  | insertTemplate (name area : Value)

namespace Operation

/-- What the call does. -/
def run : Operation → Editing Unit
  | addNode new => do let _ ← Graph.addNode new
  | removeNode id => Graph.removeNode id
  | moveNode id x y => Graph.moveNode id x y
  | updateNode id label fields => do let _ ← Graph.updateNode id label fields
  | connect source target id => do let _ ← Graph.connect source target id
  | disconnect id => Graph.disconnect id
  | extend nodes edges => Graph.extend nodes edges
  | insertTemplate name area => do let _ ← Template.insert name area

/-- No call breaks the rules of a graph, also if it fails. -/
theorem keeps_run (op : Operation) : op.run.Keeps Valid := by
  cases op with
  | addNode new => exact (keeps_addNode new).bind fun _ => (quiet_done ()).keeps
  | removeNode id => exact keeps_removeNode id
  | moveNode id x y => exact keeps_moveNode id x y
  | updateNode id label fields => exact (keeps_updateNode id label fields).bind fun _ => (quiet_done ()).keeps
  | connect source target id => exact (keeps_connect source target id).bind fun _ => (quiet_done ()).keeps
  | disconnect id => exact keeps_disconnect id
  | extend nodes edges => exact keeps_extend nodes edges
  | insertTemplate name area => exact (Template.keeps_insert name area).bind fun _ => (quiet_done ()).keeps

end Operation

namespace Graph

/-- The graphs that there can be. The draft after a call is looked at whether the call failed or
not, and the identifiers may come from anywhere. -/
inductive Reachable : Graph → Prop
  | empty : Reachable Graph.empty
  | document {d : Document} {ids : IdSource} {draft : Draft} (h : d.toGraph ids = .ok draft) :
      Reachable draft.graph
  | restored {entries : List Saved} {ids ids' : IdSource} {restored : Restored}
      (h : (Saved.restore entries ids).result = .ok (restored, ids')) : Reachable restored.graph
  | call {g : Graph} (h : Reachable g) (op : Operation) (ids : IdSource) :
      Reachable (op.run ⟨g, ids⟩).draft.graph

lemma Reachable.valid {g : Graph} (h : g.Reachable) : g.Valid := by
  induction h with
  | empty => exact valid_empty
  | document h => exact Document.valid_toGraph h
  | restored h => exact Saved.valid_restore h
  | call _ op ids ih => exact op.keeps_run ⟨_, ids⟩ ih

/-- In a reachable graph every node is found under its identifier, every edge joins two different
nodes with the connectors for it, and edges differ in identifier and in source. -/
theorem Reachable.rules {g : Graph} (h : g.Reachable) :
    (∀ n ∈ g.nodes, g.node? n.id = some n) ∧
    (∀ e ∈ g.edges, e.source ≠ e.target ∧
      (∃ n, g.node? e.source = some n ∧ n.kind ≠ .alarm) ∧
      (∃ n, g.node? e.target = some n ∧ n.kind ≠ .object)) ∧
    (g.nodes.map (·.id)).Nodup ∧ (g.edges.map (·.id)).Nodup ∧ (g.edges.map (·.source)).Nodup := by
  have hvalid := h.valid
  refine ⟨fun n hn => node?_of_mem hvalid.nodeIds hn, fun e he => ⟨hvalid.noLoop e he, ?_, ?_⟩,
    hvalid.nodeIds, hvalid.edgeIds, hvalid.sources⟩
  · obtain ⟨n, hn, hid, hout⟩ := hvalid.source e he
    exact ⟨n, hvalid.node?_eq_some_iff.mpr ⟨hn, hid⟩, by simpa [Kind.hasOutput] using hout⟩
  · obtain ⟨n, hn, hid, hin⟩ := hvalid.target e he
    exact ⟨n, hvalid.node?_eq_some_iff.mpr ⟨hn, hid⟩, by simpa [Kind.hasInput] using hin⟩

/-- A zone that feeds an alarm. -/
def zoneBeforeAlarm : Graph :=
  ⟨[⟨"z", "Zone#1", origin, .new .zone⟩, ⟨"a", "Alarm#1", origin, .new .alarm⟩], [⟨"e", "z", "a"⟩]⟩

/-- The two nodes were inserted with their edge, and a call to connect them the other way round was
refused. -/
theorem zoneBeforeAlarm_rules :
    zoneBeforeAlarm.Reachable ∧ zoneBeforeAlarm.edges.length = 1 ∧
      ∀ n ∈ zoneBeforeAlarm.nodes, zoneBeforeAlarm.node? n.id = some n := by
  have hinserted : Reachable zoneBeforeAlarm :=
    Reachable.empty.call (.extend zoneBeforeAlarm.nodes zoneBeforeAlarm.edges) ⟨fun _ => "", 0⟩
  have hrefused : Reachable zoneBeforeAlarm :=
    hinserted.call (.connect "a" "z" none) ⟨fun _ => "", 0⟩
  exact ⟨hrefused, rfl, hrefused.rules.1⟩

end Graph
end DetectionFlow
