import DetectionFlow.Proofs.InsertedBatches
import DetectionFlow.Proofs.SurvivingEdges

/-!
# Insertion of any batch

An edge of a batch may replace one of the graph, or an earlier one of its own batch. Which batches a graph
takes in is told by the graph before the insertion (`Graph.Accepts`): such a batch is inserted as a whole,
and of any other nothing is (`Graph.Reachable.inserts_whole`).

Everything is checked before the first node goes in, although each edge changes the graph that the next one
meets. That suffices since an edge that goes in brings one identifier with it, and for the rest can only
take an edge away: what the graph admitted, it still admits (`Admits.insertEdge`).
-/

namespace DetectionFlow

/-! ## Changes that listeners are told of -/

namespace Editing

variable {α β : Type} {m : Editing α} {f : α → Editing β} {d d₁ d₂ : Draft} {a : α} {b : β}

/-- The operation yields a value, leaves a draft, and tells listeners of these changes on the way. -/
structure Announces (m : Editing α) (d : Draft) (changes : List Change) (a : α) (d' : Draft) : Prop
    extends m.Leads d a d' where
  changes : (m d).steps.map (·.1) = changes

lemma announces_done (a : α) (d : Draft) : (done a).Announces d [] a d := ⟨leads_done a d, rfl⟩

lemma Announces.bind {cs cs' : List Change} (hm : m.Announces d cs a d₁)
    (hf : (f a).Announces d₁ cs' b d₂) : (m >>= f).Announces d (cs ++ cs') b d₂ := by
  refine ⟨hm.toLeads.bind hf.toLeads, ?_⟩
  rw [bind_apply, andThen, hm.result, hm.draft]
  dsimp only
  rw [List.map_append, hm.changes, hf.changes]

end Editing

namespace Graph

open Editing

variable {g : Graph} {nodes : List Node} {edges : List Edge} {ids : IdSource}

/-! ## Nodes one by one -/

lemma announces_insertNodes (nodes : List Node) (d : Draft) :
    (insertNodes nodes).Announces d (nodes.map fun n => ⟨.addNode, n.id⟩) ()
      ⟨⟨d.graph.nodes ++ nodes, d.graph.edges⟩, d.ids⟩ := by
  refine ⟨leads_insertNodes nodes d, ?_⟩
  induction nodes generalizing d with
  | nil => rfl
  | cons n rest ih =>
    rw [insertNodes, current_bind, commit_bind, List.map_cons, ih, List.map_cons]

/-! ## Edges one by one -/

/-- What a graph admits, it admits after another edge was inserted. -/
lemma Admits.insertEdge {e f : Edge} (h : g.Admits f) (hid : e.id ≠ f.id) :
    (g.insertEdge e).Admits f := by
  refine ⟨h.source, h.target, h.noLoop, fun other hother => ?_⟩
  rcases List.mem_append.mp hother with hold | hnew
  · exact h.newId other (List.mem_of_mem_eraseP hold)
  · rwa [List.mem_singleton.mp hnew]

/-- Edges that a graph admits are inserted one after the other, whatever they replace. -/
lemma announces_insertEdges {d : Draft} (hnodes : (d.graph.nodes.map (·.id)).Nodup)
    (hadmits : ∀ e ∈ edges, d.graph.Admits e) (hedgeIds : (edges.map (·.id)).Nodup)
    (hids : ∀ e ∈ edges, e.id.isEmpty = false) :
    (insertEdges edges).Announces d (edges.map fun e => ⟨.connect, e.id⟩) ()
      ⟨edges.foldl Graph.insertEdge d.graph, d.ids⟩ := by
  induction edges generalizing d with
  | nil => exact announces_done () d
  | cons e rest ih =>
    rw [List.forall_mem_cons] at hadmits hids
    rw [List.map_cons, List.nodup_cons] at hedgeIds
    have hconnect := connect_edge hnodes hadmits.1 hids.1
    have hfirst : (connect e.source e.target (some e.id)).Announces d [⟨.connect, e.id⟩] e
        ⟨d.graph.insertEdge e, d.ids⟩ :=
      ⟨⟨congrArg Edit.draft hconnect, congrArg Edit.result hconnect⟩,
        congrArg (fun edit => edit.steps.map (·.1)) hconnect⟩
    -- What is still to come has other identifiers, and so the next graph admits it too.
    refine hfirst.bind (ih hnodes (fun f hf => ?_) hedgeIds.2 hids.2)
    exact (hadmits.2 f hf).insertEdge fun heq => hedgeIds.1 (heq ▸ List.mem_map_of_mem hf)

/-! ## The whole insertion -/

/-- A batch that the graph accepts is inserted, and the edges it replaces are gone. -/
lemma announces_extend (hg : g.Valid) (hbatch : g.Accepts nodes edges)
    (hids : ∀ e ∈ edges, e.id.isEmpty = false) :
    (extend nodes edges).Announces ⟨g, ids⟩
      ((nodes.map fun n => ⟨.addNode, n.id⟩) ++ edges.map fun e => ⟨.connect, e.id⟩) ()
      ⟨⟨g.nodes ++ nodes,
        g.edges.filter (fun f => !edges.any (·.source = f.source)) ++ Edge.surviving edges⟩, ids⟩ := by
  have hvalid : Valid ⟨g.nodes ++ nodes, g.edges⟩ := hg.addNodes hbatch.nodeIds fun n hn =>
    hasNode_eq_false.mpr (hbatch.newNodes n hn)
  have hrun := Passes.extend_eq (d := ⟨g, ids⟩) ((passes_iff_accepts hg.nodeIds).mpr hbatch)
  have hedges := announces_insertEdges (d := ⟨⟨g.nodes ++ nodes, g.edges⟩, ids⟩) hvalid.nodeIds
    hbatch.admits hbatch.edgeIds hids
  rw [hvalid.foldl_insertEdge] at hedges
  have hall := (announces_insertNodes nodes ⟨g, ids⟩).bind (f := fun _ => insertEdges edges) hedges
  exact ⟨⟨hrun ▸ hall.draft, hrun ▸ hall.result⟩, hrun ▸ hall.changes⟩

/-- A batch is inserted into a reachable graph exactly if the graph accepts it. Else nothing is changed and
nobody is told of anything. After the insertion the last edge from a source is the one that counts, and
listeners were told of every node and then of every edge. -/
theorem Reachable.inserts_whole (hg : g.Reachable) (hids : ∀ e ∈ edges, e.id.isEmpty = false) :
    ((extend nodes edges ⟨g, ids⟩).result = .ok () ↔ g.Accepts nodes edges) ∧
    (∀ e, (extend nodes edges ⟨g, ids⟩).result = .error e →
      (extend nodes edges ⟨g, ids⟩).draft.graph = g ∧ (extend nodes edges ⟨g, ids⟩).steps = []) ∧
    ((extend nodes edges ⟨g, ids⟩).result = .ok () →
      (extend nodes edges ⟨g, ids⟩).draft.graph = ⟨g.nodes ++ nodes,
        g.edges.filter (fun f => !edges.any (·.source = f.source)) ++ Edge.surviving edges⟩ ∧
      (extend nodes edges ⟨g, ids⟩).steps.map (·.1) =
        (nodes.map fun n => ⟨.addNode, n.id⟩) ++ edges.map fun e => ⟨.connect, e.id⟩) := by
  have hpasses : g.Passes nodes edges ↔ g.Accepts nodes edges := passes_iff_accepts hg.valid.nodeIds
  have haccepted (h : g.Accepts nodes edges) : (extend nodes edges).Announces ⟨g, ids⟩ _ () _ :=
    announces_extend hg.valid h hids
  refine ⟨⟨fun h => hpasses.mp (passes_of_extend h), fun h => (haccepted h).result⟩, ?_, fun h => ?_⟩
  · intro e he
    rcases extend_outcome ⟨g, ids⟩ nodes edges with ⟨-, hrefused⟩ | ⟨hbatch, -⟩
    · exact ⟨hrefused.graph, hrefused.steps⟩
    · cases he.symm.trans (haccepted (hpasses.mp hbatch)).result
  · have hall := haccepted (hpasses.mp (passes_of_extend h))
    exact ⟨congrArg Draft.graph hall.draft, hall.changes⟩

/-- A condition between the zone and the alarm of `zoneBeforeAlarm`. -/
def between : Node := ⟨"c", "Count#1", origin, .new .count⟩

/-- The zone is joined to the condition, the condition to the alarm, and in the end the zone to the alarm
again. -/
def detour : List Edge := [⟨"1", "z", "c"⟩, ⟨"2", "c", "a"⟩, ⟨"3", "z", "a"⟩]

/-- The last edge from the zone replaced the first one, which had replaced that of the graph. -/
theorem zoneBeforeAlarm_inserts_whole :
    zoneBeforeAlarm.Reachable ∧ (∀ e ∈ detour, e.id.isEmpty = false) ∧
      zoneBeforeAlarm.Accepts [between] detour ∧
      (extend [between] detour ⟨zoneBeforeAlarm, ⟨Nat.repr, 0⟩⟩).draft.graph.edges =
        [⟨"2", "c", "a"⟩, ⟨"3", "z", "a"⟩] ∧
      (extend [between] detour ⟨zoneBeforeAlarm, ⟨Nat.repr, 0⟩⟩).steps.map (·.1) =
        [⟨.addNode, "c"⟩, ⟨.connect, "1"⟩, ⟨.connect, "2"⟩, ⟨.connect, "3"⟩] := by
  have hreachable : zoneBeforeAlarm.Reachable :=
    Reachable.empty.call (.extend zoneBeforeAlarm.nodes zoneBeforeAlarm.edges) ⟨Nat.repr, 0⟩
  have hids : ∀ e ∈ detour, e.id.isEmpty = false := by decide
  have hdone : (extend [between] detour ⟨zoneBeforeAlarm, ⟨Nat.repr, 0⟩⟩).result = .ok () := rfl
  obtain ⟨haccepted, -, hinserted⟩ := hreachable.inserts_whole hids
  obtain ⟨hgraph, hchanges⟩ := hinserted hdone
  exact ⟨hreachable, hids, haccepted.mp hdone, congrArg Graph.edges hgraph, hchanges⟩

end Graph
end DetectionFlow
