import DetectionFlow.Proofs.JoinedGraphs

/-!
# Changes of edges stay local

Three calls change edges: one that connects two nodes, one that disconnects them and one that removes a
node (`Rewiring`). What they do to a node they do through its incoming edges, and these change at few nodes
only (`Rewiring.Touches`). A node whose incoming edges do not change keeps its parent, and a node keeps its
record if no touched node stands above it (`Graph.Reachable.rewires_locally`).

A record takes its target from a walk upwards that may be long and may go in circles. The nodes above a node
and the edges into them are a part of the graph that no edge leads into from outside, and this is a part of
the graph before the change and after it. So both graphs give the record that the part gives
(`Graph.compileNode_eq_of_restrict`).
-/

namespace DetectionFlow

/-! ## Entries of one kind -/

section Lists

variable {α : Type} {l : List α} {p q : α → Bool}

/-- Without its first entry of one kind, a list has the same entries of another kind. -/
lemma filter_eraseP_of_forall_not (h : ∀ a ∈ l, p a = true → q a = false) :
    (l.eraseP p).filter q = l.filter q := by
  induction l with
  | nil => rfl
  | cons a rest ih =>
    rw [List.forall_mem_cons] at h
    cases hp : p a with
    | true => rw [List.eraseP_cons_of_pos hp, List.filter_cons_of_neg (by simp [h.1 hp])]
    | false => rw [List.eraseP_cons_of_neg (by simp [hp]), List.filter_cons, List.filter_cons, ih h.2]

/-- What is looked for among entries of its own kind is found as among all. -/
lemma find?_filter_of_imp (h : ∀ a, q a = true → p a = true) : (l.filter p).find? q = l.find? q := by
  rw [List.find?_filter]
  refine congrArg (l.find? ·) (funext fun a => ?_)
  cases hq : q a with
  | true => simp [h a hq]
  | false => simp

end Lists

namespace Graph

variable {g g' : Graph} {T : String → Bool} {m : Node} {id : String}

/-! ## The part above a node -/

/-- The edges into nodes with identifiers of some kind. -/
def edgesInto (g : Graph) (T : String → Bool) : List Edge := g.edges.filter fun e => T e.target

/-- The nodes of a graph with identifiers of some kind, and the edges into them. -/
def restrict (g : Graph) (T : String → Bool) : Graph :=
  ⟨g.nodes.filter fun n => T n.id, g.edgesInto T⟩

/-- All edges into one node are among those into the nodes of its kind. -/
lemma incoming_edgesInto {nodes : List Node} (hT : T id = true) :
    incoming ⟨nodes, g.edgesInto T⟩ id = g.incoming id := by
  rw [incoming, incoming, edgesInto, List.filter_filter]
  refine List.filter_congr fun e _ => ?_
  by_cases htarget : e.target = id <;> simp [htarget, hT]

/-- Nodes that are fed only by each other are a part of every graph that has them and their edges. -/
lemma isPart_restrict (hg : g.Valid) (hclosed : ∀ e ∈ g.edges, T e.target = true → T e.source = true)
    (hedges : g'.edgesInto T = g.edgesInto T)
    (hnodes : ∀ id, T id = true → g'.node? id = g.node? id) : IsPart (g.restrict T) g' where
  edges := by
    rw [restrict, ← hedges]
    exact List.filter_sublist
  node? n hn := by
    have hT : T n.id = true := (List.mem_filter.mp hn).2
    rw [hnodes _ hT, Graph.node?, Graph.node?, restrict, find?_filter_of_imp]
    intro k hid
    rwa [of_decide_eq_true hid]
  incoming n hn := by
    have hT : T n.id = true := (List.mem_filter.mp hn).2
    rw [restrict, ← hedges, incoming_edgesInto hT]
  source e he := by
    obtain ⟨hmem, hT⟩ := List.mem_filter.mp he
    obtain ⟨n, hn, hid⟩ := hg.exists_source e hmem
    exact ⟨n, List.mem_filter.mpr ⟨hn, hid ▸ hclosed e hmem hT⟩, hid⟩

/-- The record of a node is made from nodes that are fed only by each other, if it is one of them. -/
lemma compileNode_eq_of_restrict (hg : g.Valid)
    (hclosed : ∀ e ∈ g.edges, T e.target = true → T e.source = true)
    (hedges : g'.edgesInto T = g.edgesInto T)
    (hnodes : ∀ id, T id = true → g'.node? id = g.node? id) (hm : m ∈ g.nodes)
    (hT : T m.id = true) : g'.compileNode m = g.compileNode m := by
  have hmem : m ∈ (g.restrict T).nodes := List.mem_filter.mpr ⟨hm, hT⟩
  have hbefore : IsPart (g.restrict T) g := isPart_restrict hg hclosed rfl fun _ _ => rfl
  have hafter : IsPart (g.restrict T) g' := isPart_restrict hg hclosed hedges hnodes
  rw [hafter.compileNode hmem, hbefore.compileNode hmem]

/-- The parent of a node depends on its incoming edges, and on nothing else that edges say. -/
lemma parentId?_eq_of_incoming (hincoming : g'.incoming id = g.incoming id)
    (hnodes : g'.nodes = g.nodes) : g'.parentId? id = g.parentId? id := by
  simp only [parentId?, feeder?, node?, hincoming, hnodes]

end Graph

/-! ## Calls that change edges -/

/-- A call that changes edges of the graph. -/
inductive Rewiring
  | connect (source target : String) (id : Option String)
  | disconnect (id : String)
  | removeNode (id : String)

namespace Rewiring

variable {d : Draft} {T : String → Bool} {id : String}

/-- The graph after the call. -/
def after (r : Rewiring) (d : Draft) : Graph :=
  match r with
  | connect source target id => (Graph.connect source target id d).draft.graph
  | disconnect id => (Graph.disconnect id d).draft.graph
  | removeNode id => (Graph.removeNode id d).draft.graph

/-- The node is the target of the new edge, or of one that is taken away or replaced. -/
def Touches (g : Graph) (r : Rewiring) (node : String) : Prop :=
  match r with
  | connect source target _ => node = target ∨ ∃ e ∈ g.edges, e.source = source ∧ e.target = node
  | disconnect id => ∃ e ∈ g.edges, e.id = id ∧ e.target = node
  | removeNode id => ∃ e ∈ g.edges, (e.source = id ∨ e.target = id) ∧ e.target = node

/-- The edges into nodes that are not touched stay as they are, in their order. -/
lemma edgesInto_after (r : Rewiring) (hT : ∀ node, r.Touches d.graph node → T node = false) :
    (r.after d).edgesInto T = d.graph.edgesInto T := by
  cases r with
  | connect source target id =>
    rw [after]
    rcases Graph.connect_outcome d source target id with h | ⟨e, hsource, htarget, -, -, h⟩
    · rw [h.graph]
    · -- The new edge and the one that it replaces both end at touched nodes.
      have hnew : [e].filter (fun f => T f.target) = [] := by simp [hT _ (.inl htarget)]
      rw [h.graph, Graph.edgesInto, Graph.insertEdge, List.filter_append, hnew, List.append_nil]
      exact filter_eraseP_of_forall_not fun f hf hreplaced =>
        hT _ (.inr ⟨f, hf, by simpa [hsource] using hreplaced, rfl⟩)
  | disconnect id =>
    rw [after]
    rcases Graph.disconnect_outcome d id with h | h
    · rw [h.graph]
    · rw [h.graph]
      exact filter_eraseP_of_forall_not fun f hf hid => hT _ ⟨f, hf, by simpa using hid, rfl⟩
  | removeNode id =>
    rw [after]
    rcases Graph.removeNode_outcome d id with h | h
    · rw [h.graph]
    · rw [h.graph, Graph.edgesInto, List.filter_filter]
      refine List.filter_congr fun f hf => ?_
      by_cases hends : f.source = id ∨ f.target = id
      · simp [hT _ ⟨f, hf, hends, rfl⟩]
      · rw [not_or] at hends
        simp [hends]

/-- Only the removal of a node takes one away. -/
lemma nodes_after (r : Rewiring) (d : Draft) :
    (r.after d).nodes = d.graph.nodes ∨
      ∃ id, r = removeNode id ∧ (r.after d).nodes = d.graph.nodes.filter (·.id ≠ id) := by
  cases r with
  | connect source target id =>
    rw [after]
    rcases Graph.connect_outcome d source target id with h | ⟨e, -, -, -, -, h⟩ <;> rw [h.graph] <;>
      exact .inl rfl
  | disconnect id =>
    rw [after]
    rcases Graph.disconnect_outcome d id with h | h <;> rw [h.graph] <;> exact .inl rfl
  | removeNode id =>
    rw [after]
    rcases Graph.removeNode_outcome d id with h | h <;> rw [h.graph]
    · exact .inl rfl
    · exact .inr ⟨id, rfl, rfl⟩

end Rewiring

/-! ## What changes -/

namespace Graph

variable {g : Graph} {m : Node}

/-- Edges lead from one node to another one, or they are the same node. -/
def LeadsTo (g : Graph) : String → String → Prop :=
  Relation.ReflTransGen fun a b => ∃ e ∈ g.edges, e.source = a ∧ e.target = b

/-- The nodes above a node that no touched one leads to are found as before. -/
lemma node?_after {r : Rewiring} {ids : IdSource} (hm : m ∈ (r.after ⟨g, ids⟩).nodes)
    (huntouched : ∀ id, r.Touches g id → ¬ g.LeadsTo id m.id) :
    m ∈ g.nodes ∧ ∀ id, g.LeadsTo id m.id → (r.after ⟨g, ids⟩).node? id = g.node? id := by
  rcases r.nodes_after ⟨g, ids⟩ with hsame | ⟨removed, rfl, hrest⟩
  · rw [hsame] at hm
    exact ⟨hm, fun id _ => by rw [node?, node?, hsame]⟩
  · rw [hrest] at hm
    obtain ⟨hmem, hne⟩ := List.mem_filter.mp hm
    refine ⟨hmem, fun id hleads => ?_⟩
    -- The removed node does not lead here, since it would do so over a node that it feeds.
    have hother : id ≠ removed := by
      rintro rfl
      rcases hleads.cases_head with heq | ⟨below, ⟨e, he, hsource, htarget⟩, hbelow⟩
      · simp [heq] at hne
      · exact huntouched below ⟨e, he, .inl hsource, htarget⟩ hbelow
    rw [node?, node?, hrest, find?_filter_of_imp]
    intro k hid
    simpa [of_decide_eq_true hid] using hother

/-- A call that changes edges changes no record but those of nodes that are touched or that a touched node
leads to. Parents change at touched nodes only, as long as no node is removed. -/
theorem Reachable.rewires_locally (hg : g.Reachable) (r : Rewiring) (ids : IdSource) :
    (∀ m ∈ (r.after ⟨g, ids⟩).nodes, (∀ id, r.Touches g id → ¬ g.LeadsTo id m.id) →
      m ∈ g.nodes ∧ (r.after ⟨g, ids⟩).compileNode m = g.compileNode m) ∧
    ((∀ id, r ≠ .removeNode id) → ∀ id, ¬ r.Touches g id →
      (r.after ⟨g, ids⟩).parentId? id = g.parentId? id) := by
  constructor
  · intro m hm huntouched
    classical
    obtain ⟨hmem, hnodes⟩ := node?_after hm huntouched
    -- The part that the record is made from: all nodes that lead to the node. It is closed upwards.
    have hclosed : ∀ e ∈ g.edges, decide (g.LeadsTo e.target m.id) = true →
        decide (g.LeadsTo e.source m.id) = true := by
      intro e he hleads
      simp only [decide_eq_true_eq] at hleads ⊢
      exact .head ⟨e, he, rfl, rfl⟩ hleads
    have hedges := r.edgesInto_after (d := ⟨g, ids⟩) (T := fun id => decide (g.LeadsTo id m.id))
      fun id htouched => by simpa using huntouched id htouched
    exact ⟨hmem, compileNode_eq_of_restrict hg.valid hclosed hedges
      (fun id hleads => hnodes id (by simpa using hleads)) hmem (by simpa using .refl)⟩
  · intro hkept id huntouched
    have hnodes : (r.after ⟨g, ids⟩).nodes = g.nodes := by
      rcases r.nodes_after ⟨g, ids⟩ with hsame | ⟨removed, hr, -⟩
      · exact hsame
      · exact absurd hr (hkept removed)
    have hincoming := r.edgesInto_after (d := ⟨g, ids⟩) (T := fun node => decide (node = id))
      fun node htouched => by simpa using fun heq : node = id => huntouched (heq ▸ htouched)
    exact parentId?_eq_of_incoming hincoming hnodes

/-- A condition in the middle of `twoChains`. -/
def middle : Node := ⟨"c", "Count#1", origin, .new .count⟩

/-- A zone above two conditions, and a timeout above an alarm. -/
def twoChains : Graph :=
  ⟨[⟨"z", "Zone#1", origin, .new .zone⟩, middle, ⟨"d", "Count#2", origin, .new .count⟩,
      ⟨"t", "Timeout#1", origin, .new .timeout⟩, ⟨"a", "Alarm#1", origin, .new .alarm⟩],
    [⟨"1", "z", "c"⟩, ⟨"2", "c", "d"⟩, ⟨"3", "t", "a"⟩]⟩

/-- The timeout is connected to the lower condition instead of to the alarm. -/
def reroute : Rewiring := .connect "t" "d" (some "4")

/-- The nodes that the call touches lead nowhere. -/
lemma not_leadsTo_middle (id : String) (htouched : reroute.Touches twoChains id) :
    ¬ twoChains.LeadsTo id middle.id := by
  have hid : id = "d" ∨ id = "a" := by
    rcases htouched with rfl | ⟨e, he, hsource, rfl⟩
    · exact .inl rfl
    · fin_cases he <;> simp at hsource ⊢
  intro hleads
  rcases hleads.cases_head with heq | ⟨below, ⟨e, he, hsource, -⟩, -⟩
  · simp [heq, middle] at hid
  · rw [← hsource] at hid
    fin_cases he <;> simp at hid

/-- The alarm loses its parent, and the condition in the middle keeps its record. -/
theorem twoChains_rewires_locally :
    twoChains.Reachable ∧ (∀ id, reroute.Touches twoChains id → ¬ twoChains.LeadsTo id middle.id) ∧
      (reroute.after ⟨twoChains, ⟨Nat.repr, 0⟩⟩).edges =
        [⟨"1", "z", "c"⟩, ⟨"2", "c", "d"⟩, ⟨"4", "t", "d"⟩] ∧
      twoChains.parentId? "a" = some "t" ∧
      (reroute.after ⟨twoChains, ⟨Nat.repr, 0⟩⟩).parentId? "a" = none ∧
      (reroute.after ⟨twoChains, ⟨Nat.repr, 0⟩⟩).compileNode middle =
        .ok ⟨"c", "Count#1", some "z", .count ">=1"⟩ ∧
      (reroute.after ⟨twoChains, ⟨Nat.repr, 0⟩⟩).parentId? "c" = some "z" := by
  have hreachable : twoChains.Reachable :=
    Reachable.empty.call (.extend twoChains.nodes twoChains.edges) ⟨Nat.repr, 0⟩
  obtain ⟨hrecords, hparents⟩ := hreachable.rewires_locally reroute ⟨Nat.repr, 0⟩
  have hmiddle : middle ∈ (reroute.after ⟨twoChains, ⟨Nat.repr, 0⟩⟩).nodes :=
    List.mem_cons_of_mem _ List.mem_cons_self
  have hrecord := (hrecords middle hmiddle not_leadsTo_middle).2
  have hparent := hparents (by simp [reroute]) "c" fun htouched =>
    not_leadsTo_middle _ htouched .refl
  exact ⟨hreachable, not_leadsTo_middle, rfl, rfl, rfl, hrecord.trans rfl, hparent.trans rfl⟩

end Graph
end DetectionFlow
