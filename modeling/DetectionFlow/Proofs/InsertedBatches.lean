import DetectionFlow.Proofs.JoinedGraphs
import DetectionFlow.Proofs.ReachableGraphs

/-!
# Insertion of a self-contained batch

A batch whose edges join only its own nodes is inserted beside what is there: the graph after it is the
graph before it and next to that the graph that the batch makes alone (`Graph.extend_beside`). Every step of
the insertion does the same in both, since the edge that a new edge replaces comes from a node of the batch.

Which batches pass the checks of an insertion is told by the graph alone (`Graph.passes_iff_accepts`), and
`Graph.leads_extend` says when a batch is inserted as it stands.
-/

namespace DetectionFlow

open Editing

/-- Both ends of the edge are among the nodes. -/
def Edge.JoinsWithin (e : Edge) (nodes : List Node) : Prop :=
  (∃ n ∈ nodes, n.id = e.source) ∧ ∃ n ∈ nodes, n.id = e.target

namespace Graph

variable {g b : Graph} {nodes : List Node} {edges : List Edge} {ids : IdSource}

/-! ## What is checked of a batch -/

/-- New and distinct identifiers are not taken. -/
lemma takenNode?_of_new {seen : List String} (hnodup : (nodes.map (·.id)).Nodup)
    (hnew : ∀ n ∈ nodes, g.hasNode n.id = false ∧ n.id ∉ seen) : takenNode? g seen nodes = none := by
  induction nodes generalizing seen with
  | nil => rfl
  | cons n rest ih =>
    rw [List.map_cons, List.nodup_cons] at hnodup
    rw [List.forall_mem_cons] at hnew
    obtain ⟨⟨hfree, hseen⟩, hrest⟩ := hnew
    have hfirst : ¬ (g.hasNode n.id || seen.contains n.id) = true := by
      simp [hfree, hseen]
    rw [takenNode?, if_neg hfirst]
    refine ih hnodup.2 fun m hm => ⟨(hrest m hm).1, ?_⟩
    rw [List.mem_cons, not_or]
    exact ⟨fun heq => hnodup.1 (heq ▸ List.mem_map_of_mem hm), (hrest m hm).2⟩

/-- The ends of an edge are found in a batch or in the graph and may be connected. -/
def FitsBatch (g : Graph) (nodes : List Node) (e : Edge) : Prop :=
  ∃ source target, node? ⟨nodes ++ g.nodes, []⟩ e.source = some source ∧
    node? ⟨nodes ++ g.nodes, []⟩ e.target = some target ∧ checkConnection source target = .ok ()

lemma checkEdge_eq_ok {taken : List String} {e : Edge} :
    checkEdge g nodes taken e = .ok () ↔ g.FitsBatch nodes e ∧ e.id ∉ taken := by
  unfold checkEdge
  simp only [Except.bind_eq_ok, getNode_eq_ok]
  have hlast : (if taken.contains e.id = true then .error (.duplicateEdge e.id) else .ok () :
      Except GraphError Unit) = .ok () ↔ e.id ∉ taken := by
    by_cases htaken : e.id ∈ taken <;> simp [htaken]
  constructor
  · rintro ⟨source, hsource, target, htarget, ⟨⟩, hcheck, hid⟩
    exact ⟨⟨source, target, hsource, htarget, hcheck⟩, hlast.mp hid⟩
  · rintro ⟨⟨source, target, hsource, htarget, hcheck⟩, hid⟩
    exact ⟨source, hsource, target, htarget, (), hcheck, hlast.mpr hid⟩

lemma checkEdges_eq_ok {taken : List String} :
    checkEdges g nodes taken edges = .ok () ↔
      (∀ e ∈ edges, g.FitsBatch nodes e) ∧ (edges.map (·.id)).Nodup ∧ ∀ e ∈ edges, e.id ∉ taken := by
  induction edges generalizing taken with
  | nil => simp [checkEdges]
  | cons e rest ih =>
    rw [checkEdges, Except.bind_eq_ok, List.forall_mem_cons, List.forall_mem_cons, List.map_cons,
      List.nodup_cons]
    constructor
    · rintro ⟨⟨⟩, hfirst, hrest⟩
      obtain ⟨hfits, hid⟩ := checkEdge_eq_ok.mp hfirst
      obtain ⟨hfitsRest, hnodup, hidRest⟩ := ih.mp hrest
      refine ⟨⟨hfits, hfitsRest⟩, ⟨fun hmem => ?_, hnodup⟩, hid, fun f hf hfTaken =>
        hidRest f hf (List.mem_cons_of_mem _ hfTaken)⟩
      obtain ⟨f, hf, heq⟩ := List.mem_map.mp hmem
      exact hidRest f hf (heq ▸ List.mem_cons_self)
    · rintro ⟨⟨hfits, hfitsRest⟩, ⟨hnew, hnodup⟩, hid, hidRest⟩
      refine ⟨(), checkEdge_eq_ok.mpr ⟨hfits, hid⟩, ih.mpr ⟨hfitsRest, hnodup, fun f hf hmem => ?_⟩⟩
      rcases List.mem_cons.mp hmem with heq | hmem
      · exact hnew (heq ▸ List.mem_map_of_mem hf)
      · exact hidRest f hf hmem

/-- An edge within a batch fits it in any graph. -/
lemma FitsBatch.alone {e : Edge} (h : g.FitsBatch nodes e) (hwithin : e.JoinsWithin nodes) :
    empty.FitsBatch nodes e := by
  have hfound : ∀ {id : String}, (∃ n ∈ nodes, n.id = id) →
      node? ⟨nodes ++ g.nodes, []⟩ id = node? ⟨nodes ++ empty.nodes, []⟩ id := by
    rintro id ⟨n, hn, hid⟩
    have hsome : (nodes.find? (·.id = id)).isSome = true := by
      rw [List.find?_isSome]
      exact ⟨n, hn, by simpa using hid⟩
    obtain ⟨m, hm⟩ := Option.isSome_iff_exists.mp hsome
    rw [node?, node?, List.find?_append, List.find?_append, hm, Option.some_or, Option.some_or]
  obtain ⟨source, target, hsource, htarget, hcheck⟩ := h
  exact ⟨source, target, hfound hwithin.1 ▸ hsource, hfound hwithin.2 ▸ htarget, hcheck⟩

/-- Edges fit a batch of new nodes if they join nodes that there are then. -/
lemma fitsBatch_iff {e : Edge} (hids : ((g.nodes ++ nodes).map (·.id)).Nodup) :
    g.FitsBatch nodes e ↔ (∃ n ∈ g.nodes ++ nodes, n.id = e.source ∧ n.kind.hasOutput = true) ∧
      (∃ n ∈ g.nodes ++ nodes, n.id = e.target ∧ n.kind.hasInput = true) ∧ e.source ≠ e.target := by
  -- The checks look nodes up in the batch before the graph, which share no identifier.
  have hperm : (g.nodes ++ nodes).Perm (nodes ++ g.nodes) := List.perm_append_comm
  have hkeys : ((nodes ++ g.nodes).map (·.id)).Nodup := (hperm.map _).nodup_iff.mp hids
  constructor
  · rintro ⟨source, target, hsource, htarget, hcheck⟩
    obtain ⟨hsource, hsourceId⟩ := node?_eq_some hsource
    obtain ⟨htarget, htargetId⟩ := node?_eq_some htarget
    obtain ⟨hloop, hout, hin⟩ := checkConnection_eq_ok.mp hcheck
    rw [hsourceId, htargetId] at hloop
    exact ⟨⟨source, hperm.mem_iff.mpr hsource, hsourceId, hout⟩,
      ⟨target, hperm.mem_iff.mpr htarget, htargetId, hin⟩, hloop⟩
  · rintro ⟨⟨source, hsource, hsourceId, hout⟩, ⟨target, htarget, htargetId, hin⟩, hloop⟩
    rw [← hsourceId, ← htargetId] at hloop
    exact ⟨source, target, hsourceId ▸ node?_of_mem hkeys (hperm.mem_iff.mp hsource),
      htargetId ▸ node?_of_mem hkeys (hperm.mem_iff.mp htarget),
      checkConnection_eq_ok.mpr ⟨hloop, hout, hin⟩⟩

/-- What it takes for a graph to take a batch in. -/
structure Accepts (g : Graph) (nodes : List Node) (edges : List Edge) : Prop where
  nodeIds : (nodes.map (·.id)).Nodup
  newNodes : ∀ n ∈ nodes, ∀ m ∈ g.nodes, m.id ≠ n.id
  /-- The graph would admit every edge if it had the new nodes. -/
  admits : ∀ e ∈ edges, Admits ⟨g.nodes ++ nodes, g.edges⟩ e
  edgeIds : (edges.map (·.id)).Nodup

/-- The checks are passed by the batches that the graph accepts. -/
lemma passes_iff_accepts (hg : (g.nodes.map (·.id)).Nodup) :
    g.Passes nodes edges ↔ g.Accepts nodes edges := by
  constructor
  · rintro ⟨hfree, hchecked⟩
    obtain ⟨hnodup, hnew⟩ := takenNode?_eq_none hfree
    obtain ⟨hfits, hedgeIds, htaken⟩ := checkEdges_eq_ok.mp hchecked
    have hnewNodes : ∀ n ∈ nodes, ∀ m ∈ g.nodes, m.id ≠ n.id := fun n hn =>
      hasNode_eq_false.mp (hnew n hn).1
    have hids := nodup_map_append hg hnodup fun m hm n hn => hnewNodes n hn m hm
    refine ⟨hnodup, hnewNodes, fun e he => ?_, hedgeIds⟩
    obtain ⟨hsource, htarget, hloop⟩ := (fitsBatch_iff hids).mp (hfits e he)
    exact ⟨hsource, htarget, hloop, fun f hf hid => htaken e he (hid ▸ List.mem_map_of_mem hf)⟩
  · intro h
    have hids := nodup_map_append hg h.nodeIds fun m hm n hn => h.newNodes n hn m hm
    have hfree : takenNode? g [] nodes = none := takenNode?_of_new h.nodeIds fun n hn =>
      ⟨hasNode_eq_false.mpr (h.newNodes n hn), List.not_mem_nil⟩
    refine ⟨hfree, checkEdges_eq_ok.mpr ⟨fun e he => ?_, h.edgeIds, fun e he htaken => ?_⟩⟩
    · have hadmits := h.admits e he
      exact (fitsBatch_iff hids).mpr ⟨hadmits.source, hadmits.target, hadmits.noLoop⟩
    · obtain ⟨f, hf, hid⟩ := List.mem_map.mp htaken
      exact (h.admits e he).newId f hf hid

/-- A graph accepts a batch that keeps it in order. -/
lemma Valid.accepts (h : Valid ⟨g.nodes ++ nodes, g.edges ++ edges⟩) : g.Accepts nodes edges := by
  have hapart : ∀ {α : Type} {key : α → String} {as bs : List α}, ((as ++ bs).map key).Nodup →
      (bs.map key).Nodup ∧ ∀ b ∈ bs, ∀ a ∈ as, key a ≠ key b := by
    intro α key as bs hkeys
    rw [List.map_append] at hkeys
    exact ⟨hkeys.of_append_right, fun b hb a ha heq => List.disjoint_of_nodup_append hkeys
      (List.mem_map_of_mem ha) (heq ▸ List.mem_map_of_mem hb)⟩
  obtain ⟨hnodes, hnewNodes⟩ := hapart h.nodeIds
  obtain ⟨hedges, hnewEdges⟩ := hapart h.edgeIds
  refine ⟨hnodes, hnewNodes, fun e he => ?_, hedges⟩
  have hmem : e ∈ g.edges ++ edges := List.mem_append_right _ he
  exact ⟨h.source e hmem, h.target e hmem, h.noLoop e hmem, hnewEdges e he⟩

/-- A batch that passes is inserted node by node and edge by edge. -/
lemma Passes.extend_eq {d : Draft} (h : d.graph.Passes nodes edges) :
    extend nodes edges d = (do insertNodes nodes; insertEdges edges : Editing Unit) d := by
  rcases extend_outcome d nodes edges with ⟨hnot, -⟩ | ⟨-, hrun⟩
  · exact absurd h hnot
  · exact hrun

/-- A batch that was inserted has passed. -/
lemma passes_of_extend {d : Draft} (h : (extend nodes edges d).result = .ok ()) :
    d.graph.Passes nodes edges := by
  rcases extend_outcome d nodes edges with ⟨-, hrefused⟩ | ⟨hpasses, -⟩
  · obtain ⟨e, he⟩ := hrefused.failed
    cases he.symm.trans h
  · exact hpasses

/-! ## The insertion step by step -/

lemma leads_insertNodes (nodes : List Node) (d : Draft) :
    (insertNodes nodes).Leads d () ⟨⟨d.graph.nodes ++ nodes, d.graph.edges⟩, d.ids⟩ :=
  ⟨(insertNodes_draft nodes d).1, (insertNodes_draft nodes d).2⟩

/-- A new edge replaces none in a part where its source is not. -/
lemma insertEdge_beside (hg : g.Valid) {e : Edge} (hsource : ∀ m ∈ g.nodes, m.id ≠ e.source) :
    (g.beside b).insertEdge e = g.beside (b.insertEdge e) := by
  have hother : ∀ f ∈ g.edges, ¬ (decide (f.source = e.source)) = true := by
    intro f hf
    obtain ⟨m, hm, hid, -⟩ := hg.source f hf
    simpa [hid] using hsource m hm
  simp only [insertEdge, beside]
  rw [List.eraseP_append_right _ hother, List.append_assoc]

/-- An edge between nodes of one part that the whole admits is admitted by the part. -/
lemma Admits.part (hapart : g.Apart b) {e : Edge} (hwithin : e.JoinsWithin b.nodes)
    (h : (g.beside b).Admits e) : b.Admits e := by
  have hend : ∀ {id : String} {P : Node → Prop}, (∃ n ∈ b.nodes, n.id = id) →
      (∃ n ∈ (g.beside b).nodes, n.id = id ∧ P n) → ∃ n ∈ b.nodes, n.id = id ∧ P n := by
    rintro id P ⟨m, hm, hid⟩ ⟨n, hn, hnId, hP⟩
    rcases List.mem_append.mp hn with hn | hn
    · exact absurd (hnId.trans hid.symm) (hapart n hn m hm)
    · exact ⟨n, hn, hnId, hP⟩
  exact ⟨hend hwithin.1 h.source, hend hwithin.2 h.target, h.noLoop,
    fun f hf => h.newId f (List.mem_append_right _ hf)⟩

/-- Two nodes of one part are connected as they are connected in that part alone. -/
lemma connect_beside (hg : g.Valid) (hb : b.Valid) (hapart : g.Apart b) {e : Edge}
    (hwithin : e.JoinsWithin b.nodes) {id : Option String} {made : Edge}
    (h : (connect e.source e.target id ⟨g.beside b, ids⟩).result = .ok made) :
    ∃ b' ids', b'.Valid ∧ b'.nodes = b.nodes ∧
      (connect e.source e.target id).Leads ⟨b, ids⟩ made ⟨b', ids'⟩ ∧
      (connect e.source e.target id).Leads ⟨g.beside b, ids⟩ made ⟨g.beside b', ids'⟩ := by
  rcases connect_outcome ⟨g.beside b, ids⟩ e.source e.target id with
    hrefused | ⟨edge, hsource, htarget, hid, hadmits, hmade⟩
  · obtain ⟨f, hf⟩ := hrefused.failed
    exact absurd (hf.symm.trans h) (by simp)
  · obtain rfl : edge = made := Except.ok.inj (hmade.result.symm.trans h)
    obtain rfl : edge = ⟨(ids.pick id).1, e.source, e.target⟩ := by
      cases edge
      simp_all
    have halone : b.Admits ⟨(ids.pick id).1, e.source, e.target⟩ := hadmits.part hapart hwithin
    have hinsert : (g.beside b).insertEdge ⟨(ids.pick id).1, e.source, e.target⟩ =
        g.beside (b.insertEdge ⟨(ids.pick id).1, e.source, e.target⟩) := by
      obtain ⟨n, hn, hnId⟩ := hwithin.1
      exact insertEdge_beside hg fun m hm => hnId ▸ hapart m hm n hn
    have hpart := @connect_of_admits ⟨b, ids⟩ hb.nodeIds _ _ id halone
    have hwhole := @connect_of_admits ⟨g.beside b, ids⟩
      (nodup_map_append hg.nodeIds hb.nodeIds hapart) _ _ id hadmits
    dsimp only at hpart hwhole
    rw [hinsert] at hwhole
    exact ⟨_, _, hb.insertEdge halone, rfl, ⟨congrArg Edit.draft hpart, congrArg Edit.result hpart⟩,
      ⟨congrArg Edit.draft hwhole, congrArg Edit.result hwhole⟩⟩

/-- Edges within one part are inserted as they are inserted in that part alone. -/
lemma insertEdges_beside (hg : g.Valid) (hb : b.Valid) (hapart : g.Apart b)
    (hwithin : ∀ e ∈ edges, e.JoinsWithin b.nodes)
    (h : (insertEdges edges ⟨g.beside b, ids⟩).result = .ok ()) :
    ∃ b' ids', b'.Valid ∧ b'.nodes = b.nodes ∧
      (insertEdges edges).Leads ⟨b, ids⟩ () ⟨b', ids'⟩ ∧
      (insertEdges edges).Leads ⟨g.beside b, ids⟩ () ⟨g.beside b', ids'⟩ := by
  induction edges generalizing b ids with
  | nil => exact ⟨b, ids, hb, rfl, leads_done () _, leads_done () _⟩
  | cons e rest ih =>
    -- After the first edge the part is another valid graph with the same nodes, so the rest still fits it.
    rw [List.forall_mem_cons] at hwithin
    obtain ⟨made, hmade, hrest⟩ := bind_result_eq_ok.mp h
    obtain ⟨b₁, ids₁, hb₁, hnodes₁, hpart₁, hwhole₁⟩ :=
      connect_beside hg hb hapart hwithin.1 hmade
    rw [hwhole₁.draft] at hrest
    obtain ⟨b₂, ids₂, hb₂, hnodes₂, hpart₂, hwhole₂⟩ :=
      ih hb₁ (fun m hm n hn => hapart m hm n (hnodes₁ ▸ hn)) (hnodes₁ ▸ hwithin.2) hrest
    exact ⟨b₂, ids₂, hb₂, hnodes₂.trans hnodes₁, hpart₁.bind hpart₂, hwhole₁.bind hwhole₂⟩

/-! ## The whole insertion -/

/-- A batch whose edges join only its own nodes makes a graph alone, and that graph stands beside what was
there before. -/
theorem extend_beside (hg : g.Valid) (hwithin : ∀ e ∈ edges, e.JoinsWithin nodes)
    (h : (extend nodes edges ⟨g, ids⟩).result = .ok ()) :
    ∃ b ids', b.Valid ∧ b.nodes = nodes ∧ g.Apart b ∧
      (extend nodes edges).Leads ⟨empty, ids⟩ () ⟨b, ids'⟩ ∧
      (extend nodes edges).Leads ⟨g, ids⟩ () ⟨g.beside b, ids'⟩ := by
  obtain ⟨hfree, hchecked⟩ := passes_of_extend h
  obtain ⟨hnodup, hnew⟩ := takenNode?_eq_none hfree
  obtain ⟨hfits, hids, -⟩ := checkEdges_eq_ok.mp hchecked
  have hbatch : Valid ⟨nodes, []⟩ := valid_empty.addNodes hnodup fun _ _ => rfl
  have hapart : g.Apart ⟨nodes, []⟩ := fun m hm n hn =>
    hasNode_eq_false.mp (hnew n hn).1 m hm
  have hnodes : (insertNodes nodes).Leads ⟨g, ids⟩ () ⟨g.beside ⟨nodes, []⟩, ids⟩ := by
    have hinserted := leads_insertNodes nodes ⟨g, ids⟩
    rwa [← List.append_nil g.edges] at hinserted
  have hrun := Passes.extend_eq (d := ⟨g, ids⟩) ⟨hfree, hchecked⟩
  have hedges : (insertEdges edges ⟨g.beside ⟨nodes, []⟩, ids⟩).result = .ok () := by
    rw [hrun] at h
    obtain ⟨_, -, hrest⟩ := bind_result_eq_ok.mp h
    rwa [hnodes.draft] at hrest
  obtain ⟨b, ids', hb, hbNodes, hpart, hwhole⟩ := insertEdges_beside hg hbatch hapart hwithin hedges
  -- Alone, the batch passes the same checks with less in the way.
  have hrunAlone := Passes.extend_eq (d := ⟨empty, ids⟩)
    ⟨takenNode?_of_new hnodup fun n _ => ⟨rfl, List.not_mem_nil⟩,
      checkEdges_eq_ok.mpr ⟨fun e he => (hfits e he).alone (hwithin e he), hids,
        fun _ _ => List.not_mem_nil⟩⟩
  have halone := (leads_insertNodes nodes ⟨empty, ids⟩).bind (f := fun _ => insertEdges edges) hpart
  have hbeside := hnodes.bind (f := fun _ => insertEdges edges) hwhole
  refine ⟨b, ids', hb, hbNodes, fun m hm n hn => hapart m hm n (hbNodes ▸ hn), ?_, ?_⟩
  · exact ⟨hrunAlone ▸ halone.draft, hrunAlone ▸ halone.result⟩
  · exact ⟨hrun ▸ hbeside.draft, hrun ▸ hbeside.result⟩

/-- A batch that keeps a graph in order is inserted as it stands. -/
theorem leads_extend (hvalid : Valid ⟨g.nodes ++ nodes, g.edges ++ edges⟩)
    (hids : ∀ e ∈ edges, e.id.isEmpty = false) :
    (extend nodes edges).Leads ⟨g, ids⟩ () ⟨⟨g.nodes ++ nodes, g.edges ++ edges⟩, ids⟩ := by
  have hnodeIds := hvalid.nodeIds
  rw [List.map_append] at hnodeIds
  have hrun := Passes.extend_eq (d := ⟨g, ids⟩)
    ((passes_iff_accepts hnodeIds.of_append_left).mpr hvalid.accepts)
  have hinserted := (leads_insertNodes nodes ⟨g, ids⟩).bind (f := fun _ => insertEdges edges)
    (leads_insertEdges (d := ⟨⟨g.nodes ++ nodes, g.edges⟩, ids⟩) hvalid hids)
  exact ⟨hrun ▸ hinserted.draft, hrun ▸ hinserted.result⟩

end Graph
end DetectionFlow
