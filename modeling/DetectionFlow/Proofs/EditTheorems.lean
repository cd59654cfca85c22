import DetectionFlow.Graph.Edit
import Mathlib

/-!
# What an operation on a graph can do

Each operation of `Graph.Edit` is refused, in which case the graph is as before and no listener was
told of anything, or it makes one change. `updateNode` alone has a third outcome: it is refused after
the label was set; and `extend` alone makes a change for every node and edge of its batch. This module
says so once for every operation (`addNode_outcome`, `removeNode_outcome` and so on), with all that was
checked on the way, and nothing later opens an operation again.
-/

namespace DetectionFlow

/-! ## Sequences of operations -/

/-- The identifier of a new node or edge, and the source of identifiers after it. -/
def IdSource.pick (ids : IdSource) (given : Option String) : String × IdSource :=
  match given with
  | some id => if id.isEmpty then ids.draw else (id, ids)
  | none => ids.draw

namespace Editing

variable {α β : Type} (f : α → Editing β) (d : Draft)

@[simp] lemma done_apply (a : α) : (done a : Editing α) d = ⟨[], d, .ok a⟩ := rfl

@[simp] lemma pure_apply (a : α) : (pure a : Editing α) d = ⟨[], d, .ok a⟩ := rfl

@[simp] lemma fail_apply (e : Failure) : (fail e : Editing α) d = ⟨[], d, .error e⟩ := rfl

lemma bind_apply (m : Editing α) : (m >>= f) d = andThen m f d := rfl

@[simp] lemma done_bind (a : α) : (done a >>= f) d = f a d := by
  simp [bind_apply, andThen, done]

@[simp] lemma pure_bind_apply (a : α) : ((pure a : Editing α) >>= f) d = f a d :=
  done_bind f d a

@[simp] lemma fail_bind (e : Failure) : (fail e >>= f) d = ⟨[], d, .error e⟩ := rfl

@[simp] lemma current_bind (f : Graph → Editing β) : (current >>= f) d = f d.graph d := by
  simp [bind_apply, andThen, current]

@[simp] lemma put_bind (g : Graph) (f : Unit → Editing β) :
    (put g >>= f) d = f () { d with graph := g } := by
  simp [bind_apply, andThen, put]

@[simp] lemma commit_bind (g : Graph) (c : Change) (f : Unit → Editing β) :
    (commit g c >>= f) d =
      ⟨(c, { d with graph := g }) :: (f () { d with graph := g }).steps,
        (f () { d with graph := g }).draft, (f () { d with graph := g }).result⟩ := by
  simp [bind_apply, andThen, commit]

@[simp] lemma commit_apply (g : Graph) (c : Change) :
    commit g c d = ⟨[(c, { d with graph := g })], { d with graph := g }, .ok ()⟩ := rfl

@[simp] lemma ofGraph_bind (x : Except GraphError α) :
    (ofGraph x >>= f) d = match x with
      | .ok a => f a d
      | .error e => ⟨[], d, .error (.graph e)⟩ := by
  cases x with
  | ok a => simp [ofGraph]
  | error e => rfl

@[simp] lemma ofFault_bind (x : Except Fault α) :
    (ofFault x >>= f) d = match x with
      | .ok a => f a d
      | .error e => ⟨[], d, .error (.fault e)⟩ := by
  cases x with
  | ok a => simp [ofFault]
  | error e => rfl

@[simp] lemma identifier_bind (given : Option String) (f : String → Editing β) :
    (identifier given >>= f) d =
      f (d.ids.pick given).1 ⟨d.graph, (d.ids.pick given).2⟩ := by
  have hfresh : (fresh >>= f) d = f d.ids.draw.1 ⟨d.graph, d.ids.draw.2⟩ := by
    simp [bind_apply, andThen, fresh]
  cases given with
  | none => exact hfresh
  | some id =>
    by_cases h : id.isEmpty
    · simpa [identifier, IdSource.pick, h] using hfresh
    · simp [identifier, IdSource.pick, h]

/-- An operation after another succeeds exactly if both do. -/
lemma bind_result_eq_ok {m : Editing α} {d : Draft} {f : α → Editing β} {b : β} :
    ((m >>= f) d).result = .ok b ↔
      ∃ a, (m d).result = .ok a ∧ (f a (m d).draft).result = .ok b := by
  rw [bind_apply, andThen]
  cases (m d).result <;> simp

/-- An operation after another fails exactly if one of them does. -/
lemma bind_result_eq_error {m : Editing α} {d : Draft} {f : α → Editing β} {e : Failure} :
    ((m >>= f) d).result = .error e ↔ (m d).result = .error e ∨
      ∃ a, (m d).result = .ok a ∧ (f a (m d).draft).result = .error e := by
  rw [bind_apply, andThen]
  cases (m d).result <;> simp

/-- The operation yields a value and leaves a draft. -/
structure Leads (m : Editing α) (d : Draft) (a : α) (d' : Draft) : Prop where
  draft : (m d).draft = d'
  result : (m d).result = .ok a

lemma Leads.bind {m : Editing α} {f : α → Editing β} {d d₁ d₂ : Draft} {a : α} {b : β}
    (hm : m.Leads d a d₁) (hf : (f a).Leads d₁ b d₂) : (m >>= f).Leads d b d₂ := by
  constructor
  · rw [bind_apply, andThen, hm.result, hm.draft]
    exact hf.draft
  · rw [bind_apply, andThen, hm.result, hm.draft]
    exact hf.result

lemma leads_done (a : α) (d : Draft) : (done a).Leads d a d := ⟨rfl, rfl⟩

end Editing

/-! ## Outcomes -/

/-- The operation failed, changed nothing and told no listener of anything. -/
structure Edit.Refuses (e : Edit α) (g : Graph) : Prop where
  steps : e.steps = []
  graph : e.draft.graph = g
  failed : ∃ f, e.result = .error f

/-- The operation yielded a value and told of one change, after which the graph was `g`. -/
structure Edit.Makes (e : Edit α) (g : Graph) (change : Change) (a : α) : Prop where
  steps : e.steps = [(change, e.draft)]
  graph : e.draft.graph = g
  result : e.result = .ok a

namespace Graph

variable (d : Draft)

/-! ## Looking nodes up -/

lemma node?_eq_some {g : Graph} {id : String} {n : Node} (h : g.node? id = some n) :
    n ∈ g.nodes ∧ n.id = id :=
  ⟨List.mem_of_find?_eq_some h, by simpa using List.find?_some h⟩

lemma getNode_eq_ok {g : Graph} {id : String} {n : Node} :
    g.getNode id = .ok n ↔ g.node? id = some n := by
  unfold getNode
  cases g.node? id <;> simp

lemma getNode_eq_error {g : Graph} {id : String} {e : GraphError} (h : g.getNode id = .error e) :
    g.node? id = none := by
  unfold getNode at h
  cases hnode : g.node? id with
  | none => rfl
  | some n => simp [hnode] at h

lemma hasNode_eq_false {g : Graph} {id : String} :
    g.hasNode id = false ↔ ∀ n ∈ g.nodes, n.id ≠ id := by
  simp [hasNode]

/-- What `checkConnection` admits. -/
lemma checkConnection_eq_ok {source target : Node} :
    checkConnection source target = .ok () ↔
      source.id ≠ target.id ∧ source.kind.hasOutput = true ∧ target.kind.hasInput = true := by
  unfold checkConnection
  by_cases hloop : source.id = target.id
  · simp [hloop]
  · by_cases hout : source.kind.hasOutput <;> by_cases hin : target.kind.hasInput <;>
      simp [hloop, hout, hin]

/-! ## Operations on nodes -/

/-- The kind of a payload never changes by an update of its fields. -/
lemma kind_update {p q : Payload} {changes : Fields} (h : p.update changes = .ok q) :
    q.kind = p.kind := by
  unfold Payload.update at h
  split at h
  · simp at h
  · cases p <;> simp only [bind, Except.bind, pure, Except.pure] at h <;>
      (repeat' split at h) <;> cases h <;> rfl

theorem addNode_outcome (new : NewNode) :
    (addNode new d).Refuses d.graph ∨
      ∃ node, d.graph.hasNode node.id = false ∧ Payload.build new.kind new.fields = .ok node.payload ∧
        (addNode new d).Makes ⟨d.graph.nodes ++ [node], d.graph.edges⟩ ⟨.addNode, node.id⟩ node := by
  unfold addNode
  simp only [Editing.identifier_bind, Editing.current_bind]
  by_cases htaken : d.graph.hasNode (d.ids.pick new.id).1
  · rw [if_pos htaken]
    exact .inl ⟨rfl, rfl, _, rfl⟩
  · rw [if_neg htaken]
    cases hpayload : Payload.build new.kind new.fields with
    | error f =>
      simp only [payloadOr, Editing.fail_bind]
      exact .inl ⟨rfl, rfl, _, rfl⟩
    | ok payload =>
      cases hposition : positionOf new.position with
      | error f =>
        simp only [payloadOr, Editing.done_bind, Editing.ofFault_bind]
        exact .inl ⟨rfl, rfl, _, rfl⟩
      | ok position =>
        simp only [payloadOr, Editing.done_bind, Editing.ofFault_bind, Editing.commit_bind,
          Editing.pure_apply]
        refine .inr ⟨⟨(d.ids.pick new.id).1, new.label.getD (d.graph.nextLabel new.kind), position,
          payload⟩, ?_, rfl, ?_⟩
        · simpa using htaken
        · exact ⟨rfl, rfl, rfl⟩

theorem removeNode_outcome (id : String) :
    (removeNode id d).Refuses d.graph ∨
      (removeNode id d).Makes
        ⟨d.graph.nodes.filter (·.id ≠ id),
          d.graph.edges.filter fun e => e.source ≠ id ∧ e.target ≠ id⟩ ⟨.removeNode, id⟩ () := by
  unfold removeNode
  simp only [Editing.current_bind, Editing.ofGraph_bind]
  cases d.graph.getNode id with
  | error e => exact .inl ⟨rfl, rfl, _, rfl⟩
  | ok n => exact .inr ⟨rfl, rfl, rfl⟩

theorem moveNode_outcome (id : String) (x y : Value) :
    (moveNode id x y d).Refuses d.graph ∨
      ∃ node position, d.graph.node? id = some node ∧
        (moveNode id x y d).Makes (d.graph.replaceNode { node with position := position })
          ⟨.moveNode, id⟩ () := by
  unfold moveNode
  simp only [Editing.current_bind, Editing.ofGraph_bind, Editing.ofFault_bind]
  cases hnode : d.graph.getNode id with
  | error e => exact .inl ⟨rfl, rfl, _, rfl⟩
  | ok node =>
    cases x.toDouble with
    | error f => exact .inl ⟨rfl, rfl, _, rfl⟩
    | ok x' =>
      cases y.toDouble with
      | error f => exact .inl ⟨rfl, rfl, _, rfl⟩
      | ok y' => exact .inr ⟨node, _, getNode_eq_ok.mp hnode, rfl, rfl, rfl⟩

/-- An update of a node that does not exist is refused; that of another one is refused with the label
set already, or sets label and payload. -/
theorem updateNode_outcome (id : String) (label : Option String) (fields : Fields) :
    (d.graph.node? id = none ∧ (updateNode id label fields d).Refuses d.graph) ∨
      ∃ node, d.graph.node? id = some node ∧
        ((updateNode id label fields d).Refuses
            (d.graph.replaceNode { node with label := label.getD node.label }) ∨
          ∃ payload, (payload = node.payload ∨ node.payload.update fields = .ok payload) ∧
            (updateNode id label fields d).Makes
              (d.graph.replaceNode { node with label := label.getD node.label, payload := payload })
              ⟨.updateNode, id⟩ { node with label := label.getD node.label, payload := payload }) := by
  unfold updateNode
  simp only [Editing.current_bind, Editing.ofGraph_bind, Editing.put_bind]
  cases hnode : d.graph.getNode id with
  | error e => exact .inl ⟨getNode_eq_error hnode, rfl, rfl, _, rfl⟩
  | ok node =>
    refine .inr ⟨node, getNode_eq_ok.mp hnode, ?_⟩
    by_cases hnone : fields.isEmpty
    · simp only [hnone, if_true, Editing.pure_bind_apply, Editing.commit_bind, Editing.pure_apply]
      exact .inr ⟨node.payload, .inl rfl, rfl, rfl, rfl⟩
    · simp only [hnone]
      cases hpayload : node.payload.update fields with
      | error f => exact .inl ⟨rfl, rfl, _, rfl⟩
      | ok payload => exact .inr ⟨payload, .inr rfl, rfl, rfl, rfl⟩

/-! ## Operations on edges -/

/-- What it takes for a graph to admit an edge. -/
structure Admits (g : Graph) (e : Edge) : Prop where
  source : ∃ n ∈ g.nodes, n.id = e.source ∧ n.kind.hasOutput = true
  target : ∃ n ∈ g.nodes, n.id = e.target ∧ n.kind.hasInput = true
  noLoop : e.source ≠ e.target
  newId : ∀ other ∈ g.edges, other.id ≠ e.id

theorem connect_outcome (source target : String) (id : Option String) :
    (connect source target id d).Refuses d.graph ∨
      ∃ edge, edge.source = source ∧ edge.target = target ∧ edge.id = (d.ids.pick id).1 ∧
        d.graph.Admits edge ∧
        (connect source target id d).Makes (d.graph.insertEdge edge) ⟨.connect, edge.id⟩ edge := by
  unfold connect
  simp only [Editing.current_bind, Editing.ofGraph_bind]
  cases hfeeder : d.graph.getNode source with
  | error e => exact .inl ⟨rfl, rfl, _, rfl⟩
  | ok feeder =>
    cases hfed : d.graph.getNode target with
    | error e => exact .inl ⟨rfl, rfl, _, rfl⟩
    | ok fed =>
      dsimp only
      cases hcheck : checkConnection feeder fed with
      | error e => exact .inl ⟨rfl, rfl, _, rfl⟩
      | ok u =>
        simp only [Editing.identifier_bind]
        by_cases htaken : d.graph.edges.any (·.id = (d.ids.pick id).1)
        · rw [if_pos htaken]
          exact .inl ⟨rfl, rfl, _, rfl⟩
        · rw [if_neg htaken]
          obtain ⟨hsource, hsourceId⟩ := node?_eq_some (getNode_eq_ok.mp hfeeder)
          obtain ⟨htarget, htargetId⟩ := node?_eq_some (getNode_eq_ok.mp hfed)
          obtain ⟨hloop, hout, hin⟩ := checkConnection_eq_ok.mp hcheck
          refine .inr ⟨⟨(d.ids.pick id).1, source, target⟩, rfl, rfl, rfl, ⟨?_, ?_, ?_, ?_⟩,
            rfl, rfl, rfl⟩
          · exact ⟨feeder, hsource, hsourceId, hout⟩
          · exact ⟨fed, htarget, htargetId, hin⟩
          · simpa [hsourceId, htargetId] using hloop
          · simpa using htaken

theorem disconnect_outcome (id : String) :
    (disconnect id d).Refuses d.graph ∨
      (disconnect id d).Makes { d.graph with edges := d.graph.edges.eraseP (·.id = id) }
        ⟨.disconnect, id⟩ () := by
  unfold disconnect
  simp only [Editing.current_bind]
  by_cases h : d.graph.edges.any (·.id = id)
  · rw [if_pos h]
    exact .inr ⟨rfl, rfl, rfl⟩
  · rw [if_neg h]
    exact .inl ⟨rfl, rfl, _, rfl⟩

/-! ## Batches -/

/-- The batch passes all that is checked before its first node goes in. -/
def Passes (g : Graph) (nodes : List Node) (edges : List Edge) : Prop :=
  takenNode? g [] nodes = none ∧ checkEdges g nodes (g.edges.map (·.id)) edges = .ok ()

/-- A batch that does not pass the checks is refused; one that does is inserted node by node and edge by
edge. -/
theorem extend_outcome (nodes : List Node) (edges : List Edge) :
    (¬ d.graph.Passes nodes edges ∧ (extend nodes edges d).Refuses d.graph) ∨
      (d.graph.Passes nodes edges ∧
        extend nodes edges d = (do insertNodes nodes; insertEdges edges : Editing Unit) d) := by
  unfold extend Passes
  rw [Editing.current_bind]
  cases htaken : takenNode? d.graph [] nodes with
  | some id =>
    refine .inl ⟨?_, rfl, rfl, _, rfl⟩
    rintro ⟨⟨⟩, -⟩
  | none =>
    dsimp only
    rw [Editing.ofGraph_bind]
    cases hchecked : checkEdges d.graph nodes (d.graph.edges.map (·.id)) edges with
    | error e =>
      refine .inl ⟨?_, rfl, rfl, _, rfl⟩
      rintro ⟨-, ⟨⟩⟩
    | ok u => exact .inr ⟨⟨rfl, rfl⟩, rfl⟩

end Graph
end DetectionFlow
