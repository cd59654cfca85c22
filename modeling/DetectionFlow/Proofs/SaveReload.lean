import DetectionFlow.Proofs.CompiledStructure
import DetectionFlow.Proofs.DeclaredPayloads
import DetectionFlow.Proofs.RecordForests

/-!
# Saving a graph and loading it again

The records of a reachable graph are a forest (`Graph.forest_of_compile`), so nothing is lost when they are
restored. `Graph.Reloads` says what is then there: the written nodes of the graph with the same payloads,
an edge for each link of a record, and the same records once more when the graph is saved again, without
their targets.
-/

namespace DetectionFlow

/-- Two nodes are the same but for their places. -/
structure Node.Same (n m : Node) : Prop where
  id : n.id = m.id
  label : n.label = m.label
  kind : n.kind = m.kind
  payload : n.payload.Same m.payload

/-- What is saved of a record after its restoration. -/
structure Record.SavedAgain (r again : Record) : Prop where
  id : r.id = again.id
  name : r.name = again.name
  parent : r.parent = again.parent
  body : r.body.SavedAgain again.body

namespace Graph

/-- What there is after the records of a graph were restored, and after they were saved again. -/
structure Reloads (g : Graph) (c : Compiled) (restored : Restored) : Prop where
  dropped : restored.dropped = []
  unplaced : restored.unplaced = []
  /-- The nodes are those that were written, in some order. -/
  nodes : ∃ nodes : List Node, nodes.Perm restored.graph.nodes ∧
    List.Forall₂ Node.Same (g.nodes.filter (·.kind.emits)) nodes
  /-- The edges are the links of the records, each once. -/
  edges : (restored.graph.edges.map fun e => (e.source, e.target)).Perm
    (c.settings.records.filterMap fun r => r.parent.map (·, r.id))
  /-- The records that are saved again are the same, in some order. -/
  saved : ∃ again, restored.graph.compile = .ok again ∧ again.elided = [] ∧ again.droppedParents = [] ∧
    ∃ records : List Record, records.Perm again.settings.records ∧
      List.Forall₂ Record.SavedAgain c.settings.records records

variable {g : Graph} {c : Compiled}

/-- The records of a graph hang together in chains that do not branch. -/
theorem forest_of_compile (hg : g.Valid) (hc : g.compile = .ok c)
    (hdeclared : ∀ n ∈ g.nodes, n.payload.Declared)
    (hshort : ∀ r ∈ c.settings.records, ∃ k ≤ 10, Record.Hangs c.settings.records r k) :
    Record.Forest c.settings.records where
  sound r hr := by
    obtain ⟨n, hn, hcompiled⟩ := exists_node hc hr
    exact sound_of_compileNode hcompiled
  nodup := records_nodup hc hg
  parents r hr p hp := by
    obtain ⟨-, ⟨s, hs, rfl⟩, m, hm, hkind⟩ := parents_of_compile hc hg hr hp
    refine ⟨s, hs, rfl, ?_⟩
    obtain ⟨n, hn, hcompiled⟩ := exists_node hc hs
    have hheads := heads_of_compileNode hcompiled
    have hnode : g.node? s.id = some n :=
      hg.node?_eq_some_iff.mpr ⟨(mem_emitting.mp hn).1, hheads.id.symm⟩
    rwa [hheads.kind, Option.some.inj (hnode.symm.trans hm)]
  single r hr s hs p hp hq := single_of_compile hc hg hr hs hp hq
  short := hshort
  readable r hr ext hext := by
    obtain ⟨n, hn, hcompiled⟩ := exists_node hc hr
    exact (hdeclared n (mem_emitting.mp hn).1).readable (readAs_of_compileNode hcompiled) hext

end Graph

namespace Saved

open Placed

variable {entries : List Saved} {rs : List Record} {ids : IdSource} {restored : Restored}

/-- The node that a record is restored to, but for its place. -/
structure Restores (r : Record) (m : Node) : Prop where
  id : m.id = r.id
  label : m.label = labelOf r
  payload : m.payload = r.body.payload

/-- The nodes are those of the placed records, one for each. -/
lemma Yields.restores (h : Yields entries ids restored) :
    List.Forall₂ Restores (placedRecords entries) restored.graph.nodes := by
  rw [← placed_records, List.forall₂_map_left_iff]
  refine h.nodes.imp fun t m hmade => ?_
  obtain ⟨hid, hlabel, -⟩ := nodeOf_ok hmade
  exact ⟨hid, hlabel, nodeOf_payload hmade⟩

section Forests

variable (h : List.Forall₂ Holds entries rs) (hforest : Record.Forest rs)
  (hyields : Yields entries ids restored)

include h hforest hyields

lemma exists_nodes_of_forest :
    ∃ nodes : List Node, nodes.Perm restored.graph.nodes ∧ List.Forall₂ Restores rs nodes := by
  obtain ⟨nodes, hnodes, hperm⟩ :=
    List.perm_comp_forall₂ (placedRecords_perm_of_forest h hforest).symm hyields.restores
  exact ⟨nodes, hperm, hnodes⟩

lemma edges_of_forest :
    (restored.graph.edges.map fun e => (e.source, e.target)).Perm
      (rs.filterMap fun r => r.parent.map (·, r.id)) := by
  have hplaced := placedRecords_perm_of_forest h hforest
  have hlinks : (placedRecords entries).filterMap (lastLink? entries) =
      (placedRecords entries).filterMap fun r => r.parent.map (·, r.id) :=
    List.filterMap_congr fun r hr => lastLink?_of_forest h hforest (hplaced.subset hr)
  rw [hyields.edges, restoredEdges_ends, hlinks]
  exact hplaced.filterMap _

end Forests

end Saved

namespace Graph

open Saved

variable {g : Graph} {c : Compiled}

/-! ## Nodes and records that come back -/

section Node

variable {n : Node} {r : Record} (h : g.compileNode n = .ok r) (hlabel : n.label.isEmpty = false)

include h hlabel

lemma labelOf_of_compileNode : Saved.labelOf r = n.label := by
  have hname : r.name = n.label := (heads_of_compileNode h).name
  rw [Saved.labelOf, hname, hlabel]
  rfl

/-- A node comes back as the node of its record. -/
lemma same_of_restores (hdeclared : n.payload.Declared) {m : Node} (hm : Restores r m) : n.Same m := by
  have hheads := heads_of_compileNode h
  refine ⟨hheads.id.symm.trans hm.id.symm, ?_, ?_, ?_⟩
  · rw [hm.label, labelOf_of_compileNode h hlabel]
  · rw [← hheads.kind, Node.kind, hm.payload, Body.kind_payload]
  · rw [hm.payload]
    exact hdeclared.same (readAs_of_compileNode h)

/-- Its record is the same when it is saved again. -/
lemma savedAgain_of_restored {entries : List Saved} {rs : List Record}
    (hdeclared : n.payload.Declared) (hholds : List.Forall₂ Holds entries rs)
    (hforest : Record.Forest rs) (hr : r ∈ rs) : r.SavedAgain (resaved entries r) := by
  rw [resaved_of_forest hholds hforest hr, labelOf_of_compileNode h hlabel]
  exact ⟨rfl, (heads_of_compileNode h).name, rfl, hdeclared.savedAgain (readAs_of_compileNode h)⟩

end Node

/-! ## The whole -/

/-- The records of a reachable graph that compiles can be restored, and the graph comes back. Labels must
not be empty, payloads must hold values of their types, and no chain may be longer than a restoration
follows it. -/
theorem Reachable.reloads (hg : g.Reachable) (hc : g.compile = .ok c)
    (hlabels : ∀ n ∈ g.nodes, n.label.isEmpty = false)
    (hdeclared : ∀ n ∈ g.nodes, n.payload.Declared)
    (hshort : ∀ r ∈ c.settings.records, ∃ k ≤ 10, Record.Hangs c.settings.records r k)
    {entries : List Saved} (hholds : List.Forall₂ Saved.Holds entries c.settings.records)
    {ids : IdSource} (hfresh : ids.Fresh entries.length) :
    ∃ restored ids', (Saved.restore entries ids).result = .ok (restored, ids') ∧
      g.Reloads c restored := by
  have hforest := forest_of_compile hg.valid hc hdeclared hshort
  obtain ⟨restored, ids', hrestored, hdropped, hunplaced, -⟩ := restore_forest hholds hforest hfresh
  have hyields := restore_yields hrestored
  have hrecords := (compile_eq_ok.mp hc).1
  refine ⟨restored, ids', hrestored, hdropped, hunplaced, ?_, edges_of_forest hholds hforest hyields, ?_⟩
  · obtain ⟨nodes, hperm, hnodes⟩ := exists_nodes_of_forest hholds hforest hyields
    refine ⟨nodes, hperm, forall₂_comp hrecords hnodes fun n hn r m hcompiled hm => ?_⟩
    have hmem := (mem_emitting.mp hn).1
    exact same_of_restores hcompiled (hlabels n hmem) (hdeclared n hmem) hm
  · have hsound : ∀ r ∈ kept entries, r.Sound := kept_of_forest hholds hforest ▸ hforest.sound
    refine ⟨_, compile_restored hyields hsound, rfl, rfl, c.settings.records.map (resaved entries),
      (placedRecords_perm_of_forest hholds hforest).symm.map _, ?_⟩
    rw [List.forall₂_map_right_iff, List.forall₂_same]
    intro r hr
    obtain ⟨n, hn, hcompiled⟩ := exists_node hc hr
    have hmem := (mem_emitting.mp hn).1
    exact savedAgain_of_restored hcompiled (hlabels n hmem) (hdeclared n hmem) hholds hforest hr

/-- A lamp that is on for two seconds. -/
def lamp : SensorBinding where
  sensorId := .text "7"
  sensorTypeId := .text "lamp"
  channel := .text "red"
  alarmValue := .text "on"
  duration := .float (Double.ofInt 2)
  priority := .int 1

/-- A zone below an Object. Its alarm was added before it. -/
def guardedZone : Graph :=
  ⟨[⟨"o", "Object#1", origin, .object [.text "person"] []⟩,
      ⟨"a", "Alarm#1", origin, .alarm [lamp]⟩, ⟨"z", "Zone#1", origin, .new .zone⟩],
    [⟨"1", "o", "z"⟩, ⟨"2", "z", "a"⟩]⟩

/-- The records of `guardedZone`. The duration is written as a double. -/
def guardedRecords : Compiled where
  settings := ⟨schemaVersion,
    [⟨"a", "Alarm#1", some "z", .alarm ("[\x7b\"id\":\"7\",\"typeId\":\"lamp\",\"alarmType\":\"red\"," ++
        "\"alarmValue\":\"on\",\"duration\":2.0,\"priority\":1\x7d]")⟩,
      ⟨"z", "Zone#1", none, .zone Point.newZone (some ⟨"person", none⟩) none⟩]⟩
  elided := ["o"]
  droppedParents := []

lemma lamp_declared : lamp.Declared where
  sensorId := ⟨"7", rfl, by decide⟩
  sensorTypeId := ⟨"lamp", rfl, by decide⟩
  channel := ⟨"red", rfl, by decide⟩
  alarmValue := ⟨"on", rfl, by decide⟩
  duration := .inr ⟨_, rfl, by decide +kernel⟩
  priority := .inr ⟨1, rfl, by decide⟩

theorem guardedZone_reloads :
    guardedZone.Reachable ∧ guardedZone.compile = .ok guardedRecords ∧
      (∀ n ∈ guardedZone.nodes, n.label.isEmpty = false) ∧
      (∀ n ∈ guardedZone.nodes, n.payload.Declared) ∧
      (∀ r ∈ guardedRecords.settings.records, ∃ k ≤ 10,
        Record.Hangs guardedRecords.settings.records r k) ∧
      ∃ restored ids',
        (Saved.restore (guardedRecords.settings.records.map fun r => .raw r.toValue)
          ⟨Nat.repr, 0⟩).result = .ok (restored, ids') ∧
          guardedZone.Reloads guardedRecords restored := by
  have hreachable : guardedZone.Reachable :=
    Reachable.empty.call (.extend guardedZone.nodes guardedZone.edges) ⟨Nat.repr, 0⟩
  have hcompile : guardedZone.compile = .ok guardedRecords :=
    Except.eq_ok_of_toOption (by decide +kernel)
  have hlabels : ∀ n ∈ guardedZone.nodes, n.label.isEmpty = false := by decide
  have hdeclared : ∀ n ∈ guardedZone.nodes, n.payload.Declared := by
    simp only [guardedZone, List.forall_mem_cons, List.not_mem_nil, false_implies, implies_true,
      and_true]
    refine ⟨trivial, ?_, .inl rfl⟩
    intro b hb
    exact List.mem_singleton.mp hb ▸ lamp_declared
  have hshort : ∀ r ∈ guardedRecords.settings.records, ∃ k ≤ 10,
      Record.Hangs guardedRecords.settings.records r k := by
    have hzone := @Record.Hangs.root guardedRecords.settings.records _
      (List.mem_cons_of_mem _ (List.mem_singleton_self _)) rfl
    simp only [guardedRecords, List.forall_mem_cons, List.not_mem_nil, false_implies, implies_true,
      and_true]
    exact ⟨⟨1, by omega, .link List.mem_cons_self rfl hzone⟩, ⟨0, by omega, hzone⟩⟩
  have hholds : List.Forall₂ Saved.Holds
      (guardedRecords.settings.records.map fun r => .raw r.toValue)
      guardedRecords.settings.records := by
    rw [List.forall₂_map_left_iff, List.forall₂_same]
    exact fun r _ => .inr rfl
  exact ⟨hreachable, hcompile, hlabels, hdeclared, hshort,
    hreachable.reloads hcompile hlabels hdeclared hshort hholds (by decide)⟩

end Graph
end DetectionFlow
