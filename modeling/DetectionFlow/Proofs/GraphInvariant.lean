import DetectionFlow.Proofs.EditTheorems
import DetectionFlow.Proofs.KeyedLists

/-!
# The invariant of graphs

What `Graph.Valid` says: identifiers of nodes are distinct, edges join two different nodes that exist
and have the connectors for it, and no two edges share an identifier or a source. All operations of
`Graph.Edit` keep it, whether they succeed or fail.

The first half is about graphs alone (`Valid.addNode`, `Valid.removeNode`, `Valid.replaceNode`,
`Valid.insertEdge`, `Valid.sublist`); the second half puts these and the outcomes of the operations
together.
-/

namespace DetectionFlow
namespace Graph

/-- The rules of a graph. -/
structure Valid (g : Graph) : Prop where
  /-- No two nodes share an identifier, so that a node is found under its own. -/
  nodeIds : (g.nodes.map (·.id)).Nodup
  /-- An edge starts at a node of the graph that has an output. -/
  source : ∀ e ∈ g.edges, ∃ n ∈ g.nodes, n.id = e.source ∧ n.kind.hasOutput = true
  /-- An edge ends at a node of the graph that has an input. -/
  target : ∀ e ∈ g.edges, ∃ n ∈ g.nodes, n.id = e.target ∧ n.kind.hasInput = true
  noLoop : ∀ e ∈ g.edges, e.source ≠ e.target
  edgeIds : (g.edges.map (·.id)).Nodup
  /-- A node feeds at most one other. -/
  sources : (g.edges.map (·.source)).Nodup

variable {g : Graph}

/-! ## Nodes under their identifiers -/

lemma node?_of_mem {nodes : List Node} {edges : List Edge} (hids : (nodes.map (·.id)).Nodup)
    {n : Node} (hn : n ∈ nodes) : (⟨nodes, edges⟩ : Graph).node? n.id = some n :=
  find?_of_nodup hids hn

/-- In a valid graph a node is found under its identifier. -/
lemma Valid.node?_eq_some_iff (hg : g.Valid) {id : String} {n : Node} :
    g.node? id = some n ↔ n ∈ g.nodes ∧ n.id = id := by
  constructor
  · exact node?_eq_some
  · rintro ⟨hn, rfl⟩
    exact node?_of_mem hg.nodeIds hn

lemma Valid.node_ext (hg : g.Valid) {m n : Node} (hm : m ∈ g.nodes) (hn : n ∈ g.nodes)
    (hid : m.id = n.id) : m = n :=
  List.inj_on_of_nodup_map hg.nodeIds hm hn hid

lemma Valid.edge_ext (hg : g.Valid) {e f : Edge} (he : e ∈ g.edges) (hf : f ∈ g.edges)
    (hsource : e.source = f.source) : e = f :=
  List.inj_on_of_nodup_map hg.sources he hf hsource

/-! ## Changes that keep the invariant -/

lemma valid_empty : empty.Valid := by
  constructor <;> simp [empty]

/-- Edges can be taken away at will. -/
lemma Valid.sublist (hg : g.Valid) {edges : List Edge} (hsub : edges.Sublist g.edges) :
    Valid ⟨g.nodes, edges⟩ where
  nodeIds := hg.nodeIds
  source e he := hg.source e (hsub.subset he)
  target e he := hg.target e (hsub.subset he)
  noLoop e he := hg.noLoop e (hsub.subset he)
  edgeIds := hg.edgeIds.sublist (hsub.map _)
  sources := hg.sources.sublist (hsub.map _)

/-- Nodes with new identifiers can be added at will. -/
lemma Valid.addNodes (hg : g.Valid) {new : List Node} (hnew : (new.map (·.id)).Nodup)
    (hfresh : ∀ n ∈ new, g.hasNode n.id = false) : Valid ⟨g.nodes ++ new, g.edges⟩ where
  nodeIds := nodup_map_append hg.nodeIds hnew fun m hm n hn => hasNode_eq_false.mp (hfresh n hn) m hm
  source e he := by
    obtain ⟨n, hn, h⟩ := hg.source e he
    exact ⟨n, List.mem_append_left _ hn, h⟩
  target e he := by
    obtain ⟨n, hn, h⟩ := hg.target e he
    exact ⟨n, List.mem_append_left _ hn, h⟩
  noLoop := hg.noLoop
  edgeIds := hg.edgeIds
  sources := hg.sources

/-- A node is taken away with all edges that touch it. -/
lemma Valid.removeNode (hg : g.Valid) (id : String) :
    Valid ⟨g.nodes.filter (·.id ≠ id),
      g.edges.filter fun e => e.source ≠ id ∧ e.target ≠ id⟩ := by
  have hsub : (g.edges.filter fun e => e.source ≠ id ∧ e.target ≠ id).Sublist g.edges :=
    List.filter_sublist
  have hedges := hg.sublist hsub
  refine ⟨hg.nodeIds.sublist (List.filter_sublist.map _), ?_, ?_, hedges.noLoop, hedges.edgeIds,
    hedges.sources⟩
  · intro e he
    obtain ⟨n, hn, hid, hout⟩ := hedges.source e he
    have hkept : e.source ≠ id := by simp at he; exact he.2.1
    exact ⟨n, List.mem_filter.mpr ⟨hn, by simpa [hid] using hkept⟩, hid, hout⟩
  · intro e he
    obtain ⟨n, hn, hid, hin⟩ := hedges.target e he
    have hkept : e.target ≠ id := by simp at he; exact he.2.2
    exact ⟨n, List.mem_filter.mpr ⟨hn, by simpa [hid] using hkept⟩, hid, hin⟩

lemma replaceNode_nodeIds (g : Graph) (n : Node) :
    (g.replaceNode n).nodes.map (·.id) = g.nodes.map (·.id) := by
  rw [replaceNode, List.map_map]
  refine List.map_congr_left fun m _ => ?_
  by_cases h : m.id = n.id <;> simp [h]

/-- A node can be exchanged for one with the same identifier and of the same kind. -/
lemma Valid.replaceNode (hg : g.Valid) {old new : Node} (hold : g.node? new.id = some old)
    (hkind : new.kind = old.kind) : (g.replaceNode new).Valid := by
  obtain ⟨holdMem, holdId⟩ := node?_eq_some hold
  -- Every node has a counterpart with its identifier and kind after the exchange.
  have hafter : ∀ m ∈ g.nodes, ∃ m' ∈ (g.replaceNode new).nodes, m'.id = m.id ∧
      m'.kind = m.kind := by
    intro m hm
    refine ⟨if m.id = new.id then new else m, List.mem_map_of_mem hm, ?_⟩
    by_cases h : m.id = new.id
    · have hm' : m = old := hg.node_ext hm holdMem (h.trans holdId.symm)
      rw [if_pos h]
      exact ⟨h.symm, hm' ▸ hkind⟩
    · simp [h]
  refine ⟨?_, ?_, ?_, hg.noLoop, hg.edgeIds, hg.sources⟩
  · rw [replaceNode_nodeIds]
    exact hg.nodeIds
  · intro e he
    obtain ⟨n, hn, hid, hout⟩ := hg.source e he
    obtain ⟨n', hn', hid', hkind'⟩ := hafter n hn
    exact ⟨n', hn', hid'.trans hid, hkind' ▸ hout⟩
  · intro e he
    obtain ⟨n, hn, hid, hin⟩ := hg.target e he
    obtain ⟨n', hn', hid', hkind'⟩ := hafter n hn
    exact ⟨n', hn', hid'.trans hid, hkind' ▸ hin⟩

/-- Where sources are distinct, to erase the edge of a source is to keep all others. -/
lemma eraseP_source_eq_filter {edges : List Edge} (hsources : (edges.map (·.source)).Nodup)
    (source : String) :
    edges.eraseP (·.source = source) = edges.filter fun e => decide (e.source ≠ source) := by
  induction edges with
  | nil => rfl
  | cons e rest ih =>
    rw [List.map_cons, List.nodup_cons] at hsources
    by_cases h : e.source = source
    · have hrest : ∀ f ∈ rest, f.source ≠ source := by
        rintro f hf rfl
        exact hsources.1 (h ▸ List.mem_map_of_mem hf)
      rw [List.eraseP_cons_of_pos (by simpa using h), List.filter_cons_of_neg (by simpa using h)]
      symm
      rw [List.filter_eq_self]
      simpa using hrest
    · rw [List.eraseP_cons_of_neg (by simpa using h), List.filter_cons_of_pos (by simpa using h),
        ih hsources.2]

lemma Valid.source_ne_of_mem_eraseP (hg : g.Valid) {source : String} {f : Edge}
    (hf : f ∈ g.edges.eraseP (·.source = source)) : f.source ≠ source := by
  rw [eraseP_source_eq_filter hg.sources] at hf
  simpa using (List.mem_filter.mp hf).2

/-- A graph with an edge that it admits, in place of the one from the same source. -/
lemma Valid.insertEdge (hg : g.Valid) {e : Edge} (he : g.Admits e) : (g.insertEdge e).Valid := by
  have hkept := hg.sublist (List.eraseP_sublist (l := g.edges) (p := (·.source = e.source)))
  have heach : ∀ {P : Edge → Prop}, (∀ f ∈ g.edges.eraseP (·.source = e.source), P f) → P e →
      ∀ f ∈ (g.insertEdge e).edges, P f := fun hold hnew =>
    List.forall_mem_append.mpr ⟨hold, List.forall_mem_singleton.mpr hnew⟩
  refine ⟨hg.nodeIds, heach hkept.source he.source, heach hkept.target he.target,
    heach hkept.noLoop he.noLoop, ?_, ?_⟩
  · show ((g.edges.eraseP _ ++ [e]).map (·.id)).Nodup
    rw [List.map_append]
    refine hkept.edgeIds.append (List.nodup_singleton _) fun id hold hid => ?_
    obtain ⟨f, hf, rfl⟩ := List.mem_map.mp hold
    exact he.newId f (List.mem_of_mem_eraseP hf) (by simpa using hid)
  · show ((g.edges.eraseP _ ++ [e]).map (·.source)).Nodup
    rw [List.map_append]
    refine hkept.sources.append (List.nodup_singleton _) fun source hold hid => ?_
    obtain ⟨f, hf, rfl⟩ := List.mem_map.mp hold
    exact hg.source_ne_of_mem_eraseP hf (by simpa using hid)

/-- Two nodes are connected whenever the graph admits the edge. -/
lemma connect_of_admits {d : Draft} (hnodes : (d.graph.nodes.map (·.id)).Nodup)
    {source target : String} {id : Option String}
    (hadmits : d.graph.Admits ⟨(d.ids.pick id).1, source, target⟩) :
    connect source target id d =
      ⟨[(⟨.connect, (d.ids.pick id).1⟩,
          ⟨d.graph.insertEdge ⟨(d.ids.pick id).1, source, target⟩, (d.ids.pick id).2⟩)],
        ⟨d.graph.insertEdge ⟨(d.ids.pick id).1, source, target⟩, (d.ids.pick id).2⟩,
        .ok ⟨(d.ids.pick id).1, source, target⟩⟩ := by
  obtain ⟨feeder, hfeeder, rfl, hout⟩ := hadmits.source
  obtain ⟨fed, hfed, rfl, hin⟩ := hadmits.target
  have hgetFeeder : d.graph.getNode feeder.id = .ok feeder :=
    getNode_eq_ok.mpr (node?_of_mem hnodes hfeeder)
  have hgetFed : d.graph.getNode fed.id = .ok fed :=
    getNode_eq_ok.mpr (node?_of_mem hnodes hfed)
  have hcheck : checkConnection feeder fed = .ok () :=
    checkConnection_eq_ok.mpr ⟨hadmits.noLoop, hout, hin⟩
  have hnew : ¬ d.graph.edges.any (·.id = (d.ids.pick id).1) := by
    simpa using hadmits.newId
  unfold connect
  simp only [Editing.current_bind, Editing.ofGraph_bind, hgetFeeder, hgetFed, hcheck,
    Editing.identifier_bind]
  rw [if_neg hnew, Editing.commit_bind, Editing.pure_apply]

/-- An edge that has its identifier is connected as it is. -/
lemma connect_edge {d : Draft} {e : Edge} (hnodes : (d.graph.nodes.map (·.id)).Nodup)
    (hadmits : d.graph.Admits e) (hid : e.id.isEmpty = false) :
    connect e.source e.target (some e.id) d =
      ⟨[(⟨.connect, e.id⟩, ⟨d.graph.insertEdge e, d.ids⟩)], ⟨d.graph.insertEdge e, d.ids⟩, .ok e⟩ := by
  have hpick : d.ids.pick (some e.id) = (e.id, d.ids) := by simp [IdSource.pick, hid]
  have hadmits' : d.graph.Admits ⟨(d.ids.pick (some e.id)).1, e.source, e.target⟩ := by
    rw [hpick]
    exact hadmits
  have hconnect := connect_of_admits hnodes hadmits'
  rwa [hpick] at hconnect

/-- An edge from a node without one stands behind all others. -/
lemma leads_connect {d : Draft} {e : Edge} (hnodes : (d.graph.nodes.map (·.id)).Nodup)
    (hadmits : d.graph.Admits e) (hid : e.id.isEmpty = false)
    (hsource : ∀ f ∈ d.graph.edges, f.source ≠ e.source) :
    (connect e.source e.target (some e.id)).Leads d e
      ⟨⟨d.graph.nodes, d.graph.edges ++ [e]⟩, d.ids⟩ := by
  have hinsert : d.graph.insertEdge e = ⟨d.graph.nodes, d.graph.edges ++ [e]⟩ := by
    rw [insertEdge, List.eraseP_of_forall_not (by simpa using hsource)]
  have hconnect := connect_edge hnodes hadmits hid
  rw [hinsert] at hconnect
  exact ⟨congrArg Edit.draft hconnect, congrArg Edit.result hconnect⟩

end Graph

/-! ## Operations keep the invariant -/

/-- The operation leads from graphs with the property to graphs with the property, also when it
fails. -/
def Editing.Keeps (P : Graph → Prop) (m : Editing α) : Prop :=
  ∀ d : Draft, P d.graph → P (m d).draft.graph

namespace Editing

variable {P : Graph → Prop} {m : Editing α} {f : α → Editing β}

lemma Keeps.bind (hm : m.Keeps P) (hf : ∀ a, (f a).Keeps P) : (m >>= f).Keeps P := by
  intro d hd
  rw [bind_apply, andThen]
  have hfirst := hm d hd
  cases (m d).result with
  | error e => exact hfirst
  | ok a => exact hf a _ hfirst

lemma keeps_of_graph_eq (h : ∀ d, (m d).draft.graph = d.graph) : m.Keeps P := by
  intro d hd
  rw [h]
  exact hd

end Editing

lemma Edit.Refuses.keeps {P : Graph → Prop} {g : Graph} {e : Edit α} (he : e.Refuses g)
    (hg : P g) : P e.draft.graph := he.graph ▸ hg

namespace Graph

open Editing

lemma keeps_addNode (new : NewNode) : (addNode new).Keeps Valid := by
  intro d hd
  rcases addNode_outcome d new with h | ⟨node, hfresh, -, h⟩
  · exact h.keeps hd
  · rw [h.graph]
    exact hd.addNodes (List.nodup_singleton _) (by simpa using hfresh)

lemma keeps_removeNode (id : String) : (removeNode id).Keeps Valid := by
  intro d hd
  rcases removeNode_outcome d id with h | h
  · exact h.keeps hd
  · rw [h.graph]
    exact hd.removeNode id

lemma keeps_moveNode (id : String) (x y : Value) : (moveNode id x y).Keeps Valid := by
  intro d hd
  rcases moveNode_outcome d id x y with h | ⟨node, position, hnode, h⟩
  · exact h.keeps hd
  · rw [h.graph]
    rw [← (node?_eq_some hnode).2] at hnode
    exact hd.replaceNode hnode rfl

lemma keeps_updateNode (id : String) (label : Option String) (fields : Fields) :
    (updateNode id label fields).Keeps Valid := by
  intro d hd
  rcases updateNode_outcome d id label fields with ⟨-, h⟩ | ⟨node, hnode, h | ⟨payload, hpayload, h⟩⟩
  · exact h.keeps hd
  · -- The update failed after the label was set.
    rw [h.graph]
    rw [← (node?_eq_some hnode).2] at hnode
    exact hd.replaceNode hnode rfl
  · rw [h.graph]
    rw [← (node?_eq_some hnode).2] at hnode
    refine hd.replaceNode hnode ?_
    rcases hpayload with rfl | hpayload
    · rfl
    · exact kind_update hpayload

lemma keeps_connect (source target : String) (id : Option String) :
    (connect source target id).Keeps Valid := by
  intro d hd
  rcases connect_outcome d source target id with h | ⟨edge, -, -, -, hadmits, h⟩
  · exact h.keeps hd
  · rw [h.graph]
    exact hd.insertEdge hadmits

lemma keeps_disconnect (id : String) : (disconnect id).Keeps Valid := by
  intro d hd
  rcases disconnect_outcome d id with h | h
  · exact h.keeps hd
  · rw [h.graph]
    exact hd.sublist List.eraseP_sublist

/-! ## Batches keep the invariant -/

/-- No node of a batch is refused when their identifiers are new and distinct. -/
lemma takenNode?_eq_none {g : Graph} {seen : List String} {batch : List Node}
    (h : takenNode? g seen batch = none) :
    (batch.map (·.id)).Nodup ∧ ∀ n ∈ batch, g.hasNode n.id = false ∧ n.id ∉ seen := by
  induction batch generalizing seen with
  | nil => simp
  | cons m rest ih =>
    unfold takenNode? at h
    split at h
    · simp at h
    next hfree =>
      simp only [Bool.or_eq_true, not_or, Bool.not_eq_true, List.contains_eq_mem,
        decide_eq_false_iff_not] at hfree
      obtain ⟨hnodup, hrest⟩ := ih h
      refine ⟨?_, ?_⟩
      · rw [List.map_cons, List.nodup_cons]
        refine ⟨fun hm => ?_, hnodup⟩
        obtain ⟨n, hn, heq⟩ := List.mem_map.mp hm
        exact (hrest n hn).2 (by simp [heq])
      · intro n hn
        rcases List.mem_cons.mp hn with rfl | hn
        · exact hfree
        · exact ⟨(hrest n hn).1, fun hseen => (hrest n hn).2 (List.mem_cons_of_mem _ hseen)⟩

lemma insertNodes_draft (batch : List Node) (d : Draft) :
    (insertNodes batch d).draft = { d with graph := ⟨d.graph.nodes ++ batch, d.graph.edges⟩ } ∧
      (insertNodes batch d).result = .ok () := by
  induction batch generalizing d with
  | nil => simp [insertNodes]
  | cons n rest ih =>
    have hrest := ih { d with graph := ⟨d.graph.nodes ++ [n], d.graph.edges⟩ }
    simpa [insertNodes] using hrest

lemma keeps_insertEdges (batch : List Edge) : (insertEdges batch).Keeps Valid := by
  induction batch with
  | nil => exact keeps_of_graph_eq fun _ => rfl
  | cons e rest ih =>
    unfold insertEdges
    exact (keeps_connect e.source e.target (some e.id)).bind fun _ => ih

/-- Edges that are in order together with those of the draft are inserted as they are. -/
lemma leads_insertEdges {edges : List Edge} {d : Draft}
    (hvalid : Valid ⟨d.graph.nodes, d.graph.edges ++ edges⟩)
    (hids : ∀ e ∈ edges, e.id.isEmpty = false) :
    (insertEdges edges).Leads d ()
      ⟨⟨d.graph.nodes, d.graph.edges ++ edges⟩, d.ids⟩ := by
  induction edges generalizing d with
  | nil =>
    rw [List.append_nil]
    exact leads_done () d
  | cons e rest ih =>
    have he : e ∈ d.graph.edges ++ e :: rest := List.mem_append_right _ List.mem_cons_self
    -- No edge of the draft shares its identifier or its source with one that is still to come.
    have hnew : ∀ {key : Edge → String}, ((d.graph.edges ++ e :: rest).map key).Nodup →
        ∀ f ∈ d.graph.edges, key f ≠ key e := by
      intro key hkeys f hf heq
      rw [List.map_append] at hkeys
      refine List.disjoint_of_nodup_append hkeys (List.mem_map_of_mem hf) ?_
      rw [heq]
      exact List.mem_map_of_mem List.mem_cons_self
    have hadmits : d.graph.Admits e :=
      ⟨hvalid.source e he, hvalid.target e he, hvalid.noLoop e he, hnew hvalid.edgeIds⟩
    rw [List.forall_mem_cons] at hids
    have hconnect := leads_connect hvalid.nodeIds hadmits hids.1 (hnew hvalid.sources)
    have hrest := ih (d := ⟨⟨d.graph.nodes, d.graph.edges ++ [e]⟩, d.ids⟩)
      (by rwa [List.append_assoc]) hids.2
    rw [List.append_assoc] at hrest
    exact hconnect.bind hrest

lemma keeps_extend (nodes : List Node) (edges : List Edge) :
    (extend nodes edges).Keeps Valid := by
  intro d hd
  rcases extend_outcome d nodes edges with ⟨-, h⟩ | ⟨⟨hfree, -⟩, h⟩
  · exact h.keeps hd
  · obtain ⟨hnodup, hfresh⟩ := takenNode?_eq_none hfree
    obtain ⟨hdraft, hresult⟩ := insertNodes_draft nodes d
    rw [h, bind_apply, andThen, hresult]
    dsimp only
    rw [hdraft]
    exact keeps_insertEdges edges _ (hd.addNodes hnodup fun n hn => (hfresh n hn).1)

end Graph
end DetectionFlow
