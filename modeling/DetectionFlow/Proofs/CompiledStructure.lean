import DetectionFlow.Plan
import DetectionFlow.Proofs.CompiledTheorems
import DetectionFlow.Proofs.ReachableGraphs

/-!
# The shape of compiled graphs

What a compiled graph looks like, told by the graph it came from (`Graph.Mirrors`): one record for each
node that is written, parents that are records themselves and are shared by no two records, and a place
for every edge. The plan and the check of the graph count its roots alike.

All of it rests on the rules of reachable graphs. A record takes the first edge that comes in as its
parent link, so a link is an edge, and what the rules say of edges holds for links.
-/

namespace DetectionFlow

/-- The record that an entry of a plan shows. -/
def Entry.record : Entry → Record
  | .node r _ => r

namespace Graph

variable {g : Graph} {c : Compiled}

/-- What the records of a graph have to do with its nodes and edges. -/
structure Mirrors (g : Graph) (c : Compiled) : Prop where
  /-- The nodes that are written, in their order, each once. -/
  ids : c.settings.records.map (·.id) = (g.nodes.filter (·.kind.emits)).map (·.id)
  nodup : (c.settings.records.map (·.id)).Nodup
  /-- All other nodes, in their order. -/
  elided : c.elided = (g.nodes.filter (!·.kind.emits)).map (·.id)
  /-- A parent is another record, and its node is no alarm. -/
  parents : ∀ r ∈ c.settings.records, ∀ p, r.parent = some p →
    p ≠ r.id ∧ (∃ s ∈ c.settings.records, s.id = p) ∧ ∃ m, g.node? p = some m ∧ m.kind ≠ .alarm
  /-- No two records have the same parent. -/
  single : ∀ r ∈ c.settings.records, ∀ s ∈ c.settings.records, ∀ p,
    r.parent = some p → s.parent = some p → r = s
  /-- No edge is lost without a trace. -/
  edges : ∀ e ∈ g.edges,
    (∃ r ∈ c.settings.records, r.id = e.target ∧ r.parent = some e.source) ∨
      e.source ∈ c.elided ∨ e.target ∈ c.elided ∨ e.target ∈ c.droppedParents
  /-- The written nodes that more than one other feeds, in their order. -/
  dropped : c.droppedParents =
    (g.nodes.filter fun n => n.kind.emits && decide (2 ≤ (g.incoming n.id).length)).map (·.id)
  /-- The roots of the plan are the records without a parent. -/
  roots : ∃ plan, g.plan.result = .ok plan ∧
    plan.roots.map Entry.record = c.settings.records.filter (·.parent.isNone)
  /-- The check counts as many. -/
  counted : ∀ report, g.check.result = .ok report → ∃ summary, report.summary = some summary ∧
    summary.roots = (c.settings.records.filter (·.parent.isNone)).length

/-! ## Nodes and their records -/

lemma mem_emitting {n : Node} : n ∈ g.emitting ↔ n ∈ g.nodes ∧ n.kind.emits = true :=
  List.mem_filter

lemma mem_elided {n : Node} : n ∈ g.elided ↔ n ∈ g.nodes ∧ n.kind.emits = false := by
  simp [elided]

section Compiling

variable (hc : g.compile = .ok c)

include hc

/-- A written node has a record. -/
lemma exists_record {n : Node} (hn : n ∈ g.emitting) :
    ∃ r ∈ c.settings.records, g.compileNode n = .ok r :=
  exists_of_forall₂ (compile_eq_ok.mp hc).1 hn

/-- A record is that of a written node. -/
lemma exists_node {r : Record} (hr : r ∈ c.settings.records) :
    ∃ n ∈ g.emitting, g.compileNode n = .ok r :=
  exists_of_forall₂ (compile_eq_ok.mp hc).1.flip hr

lemma records_ids : c.settings.records.map (·.id) = g.emitting.map (·.id) :=
  (map_eq_of_forall₂ (compile_eq_ok.mp hc).1 fun _ _ h => (heads_of_compileNode h).id.symm).symm

/-- The link of a record is an edge from a written node. -/
lemma exists_edge {r : Record} (hr : r ∈ c.settings.records) {p : String}
    (hp : r.parent = some p) :
    ∃ e ∈ g.edges, e.source = p ∧ e.target = r.id ∧ ∃ m ∈ g.emitting, m.id = p := by
  obtain ⟨n, -, hn⟩ := exists_node hc hr
  have hheads := heads_of_compileNode hn
  rw [hheads.parent] at hp
  obtain ⟨hfeeder, m, hm, hemits⟩ := parentId?_eq_some hp
  obtain ⟨e, he, hsource, htarget⟩ := feeder?_eq_some hfeeder
  obtain ⟨hmem, hid⟩ := node?_eq_some hm
  exact ⟨e, he, hsource, htarget.trans hheads.id.symm, m, mem_emitting.mpr ⟨hmem, hemits⟩, hid⟩

variable (hg : g.Valid)

include hg

lemma records_nodup : (c.settings.records.map (·.id)).Nodup := by
  rw [records_ids hc]
  exact hg.nodeIds.sublist (List.filter_sublist.map _)

lemma parents_of_compile {r : Record} (hr : r ∈ c.settings.records) {p : String}
    (hp : r.parent = some p) :
    p ≠ r.id ∧ (∃ s ∈ c.settings.records, s.id = p) ∧ ∃ m, g.node? p = some m ∧ m.kind ≠ .alarm := by
  obtain ⟨e, he, rfl, htarget, m, hm, hid⟩ := exists_edge hc hr hp
  refine ⟨?_, ?_, ?_⟩
  · rw [← htarget]
    exact hg.noLoop e he
  · obtain ⟨s, hs, hcompiled⟩ := exists_record hc hm
    exact ⟨s, hs, (heads_of_compileNode hcompiled).id.trans hid⟩
  · obtain ⟨n, hn, hnid, hout⟩ := hg.source e he
    exact ⟨n, hg.node?_eq_some_iff.mpr ⟨hn, hnid⟩, by simpa [Kind.hasOutput] using hout⟩

/-- Two records with one parent hang on one edge, since a node feeds one other at most. -/
lemma single_of_compile {r s : Record} (hr : r ∈ c.settings.records) (hs : s ∈ c.settings.records)
    {p : String} (hp : r.parent = some p) (hq : s.parent = some p) : r = s := by
  obtain ⟨e, he, hsource, htarget, -⟩ := exists_edge hc hr hp
  obtain ⟨f, hf, hsource', htarget', -⟩ := exists_edge hc hs hq
  have hsame : e = f := hg.edge_ext he hf (hsource.trans hsource'.symm)
  apply List.inj_on_of_nodup_map (records_nodup hc hg) hr hs
  rw [← htarget, ← htarget', hsame]

/-- An edge between written nodes is a link, unless it comes in behind another one. -/
lemma edges_of_compile {e : Edge} (he : e ∈ g.edges) :
    (∃ r ∈ c.settings.records, r.id = e.target ∧ r.parent = some e.source) ∨
      e.source ∈ c.elided ∨ e.target ∈ c.elided ∨ e.target ∈ c.droppedParents := by
  obtain ⟨-, -, helided, hdropped⟩ := compile_eq_ok.mp hc
  obtain ⟨m, hm, hmid, -⟩ := hg.source e he
  obtain ⟨n, hn, hnid, -⟩ := hg.target e he
  have helidedOf : ∀ k ∈ g.nodes, k.kind.emits = false → k.id ∈ c.elided := by
    intro k hk hkind
    rw [helided]
    exact List.mem_map_of_mem (mem_elided.mpr ⟨hk, hkind⟩)
  rw [← hmid, ← hnid]
  cases hmEmits : m.kind.emits with
  | false => exact .inr (.inl (helidedOf m hm hmEmits))
  | true =>
    cases hnEmits : n.kind.emits with
    | false => exact .inr (.inr (.inl (helidedOf n hn hnEmits)))
    | true =>
      have hnEmitting : n ∈ g.emitting := mem_emitting.mpr ⟨hn, hnEmits⟩
      by_cases hseveral : 1 < (g.incoming n.id).length
      · refine .inr (.inr (.inr ?_))
        rw [hdropped]
        exact List.mem_map_of_mem (List.mem_filter.mpr ⟨hnEmitting, by simpa using hseveral⟩)
      · -- The edge is the only one that comes in, hence the first.
        have hmem : e ∈ g.incoming n.id := mem_incoming.mpr ⟨he, hnid.symm⟩
        have hone : g.incoming n.id = [e] := by
          obtain ⟨f, hf⟩ := List.length_eq_one_iff.mp
            (Nat.le_antisymm (Nat.not_lt.mp hseveral) (List.length_pos_of_mem hmem))
          rw [hf, List.mem_singleton] at hmem
          rw [hf, hmem]
        have hfeeder : g.feeder? n.id = some m.id := by
          rw [feeder?, hone, hmid]
          rfl
        obtain ⟨r, hr, hcompiled⟩ := exists_record hc hnEmitting
        have hheads := heads_of_compileNode hcompiled
        refine .inl ⟨r, hr, hheads.id, ?_⟩
        rw [hheads.parent]
        exact parentId?_of_feeder? hfeeder (node?_of_mem hg.nodeIds hm) hmEmits

/-- The parents that a plan looks for are those that the records name. -/
lemma parentIn?_of_compile {r : Record} (hr : r ∈ c.settings.records) :
    Plan.parentIn? c.settings.records r = r.parent := by
  unfold Plan.parentIn?
  cases hp : r.parent with
  | none => rfl
  | some p =>
    obtain ⟨-, ⟨s, hs, rfl⟩, -⟩ := parents_of_compile hc hg hr hp
    obtain ⟨n, -, hn⟩ := exists_node hc hs
    have hheads := heads_of_compileNode hn
    have hnonempty : s.id.isEmpty = false := by
      rw [hheads.id]
      exact hheads.nonempty
    have hany : c.settings.records.any (·.id = s.id) = true :=
      List.any_eq_true.mpr ⟨s, hs, by simp⟩
    rw [Option.filter_some, hnonempty, hany]
    rfl

lemma rootsOf_compile :
    Plan.rootsOf c.settings.records = c.settings.records.filter (·.parent.isNone) :=
  List.filter_congr fun r hr => by rw [parentIn?_of_compile hc hg hr]

end Compiling

/-! ## Plan and check -/

lemma forest_records (records : List Record) :
    (Plan.forest records).map Entry.record = Plan.rootsOf records := by
  rw [Plan.forest, List.map_map]
  refine (List.map_congr_left fun r _ => ?_).trans (List.map_id _)
  cases hlength : records.length <;> simp [Plan.entryWithin, Entry.record]

lemma plan_of_compile (hc : g.compile = .ok c) :
    g.plan.result = .ok (Plan.ofCompiled g c) := by
  have hcompiled : g.compileNoted.result = .ok c := hc
  rw [plan, Noted.bind_of_ok hcompiled]
  rfl

lemma check_of_compile (hc : g.compile = .ok c) {report : CheckReport}
    (h : g.check.result = .ok report) : report.summary = some (g.summarise c) := by
  obtain ⟨ws, -, h⟩ := Noted.bind_result_eq_ok.mp h
  dsimp only at h
  rw [hc] at h
  dsimp only at h
  rw [Noted.tellAll_bind] at h
  rw [← Except.ok.inj h]

/-! ## The whole -/

/-- The records of a reachable graph that compiles mirror its nodes and edges. -/
theorem Reachable.mirrors (hg : g.Reachable) (hc : g.compile = .ok c) : g.Mirrors c where
  ids := records_ids hc
  nodup := records_nodup hc hg.valid
  elided := (compile_eq_ok.mp hc).2.2.1
  parents r hr p hp := parents_of_compile hc hg.valid hr hp
  single r hr s hs p hp hq := single_of_compile hc hg.valid hr hs hp hq
  edges e he := edges_of_compile hc hg.valid he
  dropped := by
    rw [(compile_eq_ok.mp hc).2.2.2, emitting, List.filter_filter]
    refine congrArg _ (List.filter_congr fun n _ => ?_)
    rw [Bool.and_comm]
    rfl
  roots := by
    refine ⟨_, plan_of_compile hc, ?_⟩
    rw [← rootsOf_compile hc hg.valid]
    exact forest_records c.settings.records
  counted report h := ⟨_, check_of_compile hc h, rfl⟩

/-- Two conditions that are merged before an alarm, the first one below an Object. -/
def mergedCounts : Graph :=
  ⟨[⟨"o", "Object#1", origin, .new .object⟩, ⟨"a", "Alarm#1", origin, .new .alarm⟩,
      ⟨"c", "Count#1", origin, .new .count⟩, ⟨"d", "Count#2", origin, .new .count⟩,
      ⟨"m", "Merge#1", origin, .new .merge⟩],
    [⟨"1", "o", "c"⟩, ⟨"2", "d", "m"⟩, ⟨"3", "m", "a"⟩, ⟨"4", "c", "m"⟩]⟩

/-- The records of `mergedCounts`. The merge hangs below the condition that was connected first. -/
def mergedRecords : Compiled where
  settings := ⟨schemaVersion,
    [⟨"a", "Alarm#1", some "m", .alarm "[]"⟩, ⟨"c", "Count#1", none, .count ">=1"⟩,
      ⟨"d", "Count#2", none, .count ">=1"⟩, ⟨"m", "Merge#1", some "d", .merge none⟩]⟩
  elided := ["o"]
  droppedParents := ["m"]

theorem mergedCounts_mirrors :
    mergedCounts.Reachable ∧ mergedCounts.compile = .ok mergedRecords ∧
      mergedCounts.Mirrors mergedRecords := by
  have hreachable : mergedCounts.Reachable :=
    Reachable.empty.call (.extend mergedCounts.nodes mergedCounts.edges) ⟨Nat.repr, 0⟩
  have hcompile : mergedCounts.compile = .ok mergedRecords := rfl
  exact ⟨hreachable, hcompile, hreachable.mirrors hcompile⟩

end Graph
end DetectionFlow
