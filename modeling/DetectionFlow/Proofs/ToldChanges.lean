import DetectionFlow.Proofs.AdviceTheorems
import DetectionFlow.Proofs.FailedEdits

/-!
# What listeners are told of

After a call the graph is the one that listeners were told of last, or the one before if they were told of
nothing (`Operation.told_run`, `Mutation.told_run`). Only a label can have been set untold, by an update that
failed; advice does not look at labels. All that it looks at is the outline of a graph (`Graph.outline`), so
that graphs with one outline have the same warnings (`Advice.warnings_of_outline`).
-/

namespace DetectionFlow

/-! ## Outlines -/

/-- The identifier and the payload of a node. -/
def Node.outline (n : Node) : String × Payload := (n.id, n.payload)

/-- A graph without labels and positions. -/
def Graph.outline (g : Graph) : List (String × Payload) × List Edge :=
  (g.nodes.map Node.outline, g.edges)

namespace Advice

variable {g g' : Graph} {n n' : Node}

/-- A node feeds one of the same kind in every graph of one outline. -/
lemma kind_target?_of_outline (h : g.outline = g'.outline) (hid : n.id = n'.id) :
    (target? g n).map Node.kind = (target? g' n').map Node.kind := by
  obtain ⟨hnodes, hedges⟩ := Prod.mk.inj h
  have hfind : ∀ (g : Graph) (id : String), (g.node? id).map Node.kind =
      ((g.nodes.map Node.outline).find? fun o => decide (o.1 = id)).map fun o => o.2.kind := by
    intro g id
    rw [List.find?_map, Option.map_map]
    rfl
  have hkind : ∀ id, (g.node? id).map Node.kind = (g'.node? id).map Node.kind := by
    intro id
    rw [hfind, hfind, hnodes]
  have houtgoing : g.outgoing? n.id = g'.outgoing? n'.id := by
    rw [Graph.outgoing?, Graph.outgoing?, hedges, hid]
  rw [target?, target?, Option.map_bind, Option.map_bind, houtgoing]
  congr 1
  funext e
  exact hkind e.target

/-- The rules say the same about a node in every graph of one outline. -/
lemma rules_of_outline (h : g.outline = g'.outline) (hn : n.outline = n'.outline) :
    ∀ rule ∈ rules, rule g n = rule g' n' := by
  obtain ⟨hid, hpayload⟩ := Prod.mk.inj hn
  have hkind : n.kind = n'.kind := congrArg Payload.kind hpayload
  have htarget := kind_target?_of_outline h hid
  simp only [rules, List.forall_mem_cons, List.not_mem_nil, false_implies, implies_true, and_true]
  refine ⟨?_, ?_, ?_, ?_, ?_⟩
  · unfold objectFeedsArea
    rw [hkind]
    cases ht : target? g n <;> cases ht' : target? g' n' <;> simp_all
  · rw [areaPointCount, areaPointCount, hpayload]
  · rw [pointsInFrame, pointsInFrame, hpayload]
  · rw [timeoutNotNegative, timeoutNotNegative, hpayload]
  · unfold suggestedDownstream
    rw [hkind]
    cases ht : target? g n <;> cases ht' : target? g' n' <;> simp_all

lemma firstWarning_congr {rs : List Rule} (h : ∀ rule ∈ rs, rule g n = rule g' n') :
    firstWarning g n rs = firstWarning g' n' rs := by
  induction rs with
  | nil => rfl
  | cons rule rest ih =>
    obtain ⟨hrule, hrest⟩ := List.forall_mem_cons.mp h
    rw [firstWarning_cons, firstWarning_cons, hrule, ih hrest]

/-- Graphs of one outline have the same warnings. -/
lemma warnings_of_outline (h : g.outline = g'.outline) {ws : Warnings} (hws : warnings g = .ok ws) :
    warnings g' = .ok ws := by
  have houtlines : List.Forall₂ Eq (g'.nodes.map Node.outline) (g.nodes.map Node.outline) := by
    rw [(Prod.mk.inj h).1, List.forall₂_same]
    exact fun _ _ => rfl
  have hnodes : List.Forall₂ (fun n' n : Node => n'.outline = n.outline) g'.nodes g.nodes :=
    List.forall₂_map_right_iff.mp (List.forall₂_map_left_iff.mp houtlines)
  refine warnings_eq_ok.mpr (forall₂_comp hnodes (warnings_eq_ok.mp hws) ?_)
  rintro n' - n w hn ⟨hid, hfirst⟩
  refine ⟨hid.trans (Prod.mk.inj hn).1.symm, ?_⟩
  rw [← hfirst]
  exact (firstWarning_congr (rules_of_outline h hn.symm)).symm

end Advice

/-! ## The graph that listeners know -/

/-- The draft that listeners were told of last; the one before if they were told of nothing. -/
def Draft.told (d : Draft) (steps : List (Change × Draft)) : Draft :=
  steps.foldl (fun _ t => t.2) d

namespace Editing

/-- Listeners are told of all that the operation does to a graph. -/
def Tells {α : Type} (m : Editing α) : Prop :=
  ∀ d : Draft, (d.told (m d).steps).graph = (m d).draft.graph

variable {α β : Type} {m : Editing α} {f : α → Editing β}

lemma told_congr {d d' : Draft} (h : d.graph = d'.graph) (steps : List (Change × Draft)) :
    (d.told steps).graph = (d'.told steps).graph := by
  cases steps with
  | nil => exact h
  | cons t rest => rfl

lemma told_append (d : Draft) (steps rest : List (Change × Draft)) :
    d.told (steps ++ rest) = (d.told steps).told rest := List.foldl_append

lemma Tells.bind (hm : m.Tells) (hf : ∀ a, (f a).Tells) : (m >>= f).Tells := by
  intro d
  have hfirst := hm d
  rw [bind_apply, andThen]
  cases (m d).result with
  | error e => exact hfirst
  | ok a =>
    rw [told_append, told_congr hfirst]
    exact hf a _

lemma Quiet.tells (hm : m.Quiet) : m.Tells := by
  intro d
  rw [(hm d).steps]
  exact (hm d).graph.symm

lemma tells_commit (g : Graph) (change : Change) : (commit g change).Tells := fun _ => rfl

end Editing

section Outcomes

variable {α : Type} {e : Edit α} {g : Graph} {d : Draft}

lemma Edit.Refuses.told (h : e.Refuses d.graph) : (d.told e.steps).graph = e.draft.graph := by
  rw [h.steps, h.graph]
  rfl

lemma Edit.Makes.told {c : Change} {a : α} (h : e.Makes g c a) :
    (d.told e.steps).graph = e.draft.graph := by
  rw [h.steps]
  rfl

end Outcomes

namespace Graph

open Editing

lemma tells_addNode (new : NewNode) : (addNode new).Tells := by
  intro d
  rcases addNode_outcome d new with h | ⟨node, -, -, h⟩
  · exact h.told
  · exact h.told

lemma tells_removeNode (id : String) : (removeNode id).Tells := by
  intro d
  rcases removeNode_outcome d id with h | h
  · exact h.told
  · exact h.told

lemma tells_moveNode (id : String) (x y : Value) : (moveNode id x y).Tells := by
  intro d
  rcases moveNode_outcome d id x y with h | ⟨node, position, -, h⟩
  · exact h.told
  · exact h.told

lemma tells_connect (source target : String) (id : Option String) :
    (connect source target id).Tells := by
  intro d
  rcases connect_outcome d source target id with h | ⟨edge, -, -, -, -, h⟩
  · exact h.told
  · exact h.told

lemma tells_disconnect (id : String) : (disconnect id).Tells := by
  intro d
  rcases disconnect_outcome d id with h | h
  · exact h.told
  · exact h.told

lemma tells_insertNodes (batch : List Node) : (insertNodes batch).Tells := by
  induction batch with
  | nil => exact (quiet_done ()).tells
  | cons n rest ih => exact quiet_current.tells.bind fun _ => (tells_commit _ _).bind fun _ => ih

lemma tells_insertEdges (batch : List Edge) : (insertEdges batch).Tells := by
  induction batch with
  | nil => exact (quiet_done ()).tells
  | cons e rest ih => exact (tells_connect e.source e.target (some e.id)).bind fun _ => ih

lemma tells_extend (nodes : List Node) (edges : List Edge) : (extend nodes edges).Tells := by
  refine quiet_current.tells.bind fun g => ?_
  split
  · exact (quiet_fail _).tells
  · exact (quiet_ofGraph _).tells.bind fun _ => (tells_insertNodes nodes).bind fun _ =>
      tells_insertEdges edges

/-- Another label and another position leave the outline as it is. -/
lemma Valid.outline_replaceNode {g : Graph} (hg : g.Valid) {node old : Node}
    (hold : g.node? node.id = some old) (hpayload : node.payload = old.payload) :
    (g.replaceNode node).outline = g.outline := by
  obtain ⟨hmem, hid⟩ := node?_eq_some hold
  have hsame : ∀ m ∈ g.nodes, (if m.id = node.id then node else m).outline = m.outline := by
    intro m hm
    by_cases h : m.id = node.id
    · rw [if_pos h, hg.node_ext hm hmem (h.trans hid.symm)]
      exact Prod.ext hid.symm hpayload
    · rw [if_neg h]
  rw [outline, outline, Graph.replaceNode, List.map_map]
  exact Prod.ext (List.map_congr_left hsame) rfl

/-- Of an update listeners know all but a label that it has set before it failed. -/
lemma told_updateNode {d : Draft} (hd : d.graph.Valid) (id : String) (label : Option String)
    (fields : Fields) :
    (d.told (updateNode id label fields d).steps).graph.outline =
      (updateNode id label fields d).draft.graph.outline := by
  rcases updateNode_outcome d id label fields with ⟨-, h⟩ | ⟨node, hnode, h | ⟨payload, -, h⟩⟩
  · rw [h.told]
  · -- Nothing was told, and the label is set.
    rw [h.steps, h.graph]
    have hnode' : d.graph.node? node.id = some node := by rwa [(node?_eq_some hnode).2]
    have houtline : (d.graph.replaceNode { node with label := label.getD node.label }).outline =
        d.graph.outline := hd.outline_replaceNode hnode' rfl
    exact houtline.symm
  · rw [h.told]

end Graph

/-! ## Calls -/

namespace Template

open Editing

lemma tells_insert (name area : Value) : (insert name area).Tells :=
  (quiet_expand name area).tells.bind fun (nodes, edges) =>
    (Graph.tells_extend nodes edges).bind fun _ => (quiet_done _).tells

end Template

section Calls

open Editing DetectionFlow.Graph

variable {d : Draft}

lemma told_update (hd : d.graph.Valid) (id : String) (label : Option String) (fields : Fields) :
    (d.told ((do let _ ← updateNode id label fields : Editing Unit) d).steps).graph.outline =
      ((do let _ ← updateNode id label fields : Editing Unit) d).draft.graph.outline := by
  have htold := told_updateNode hd id label fields
  rw [bind_apply, andThen]
  cases (updateNode id label fields d).result with
  | error e => exact htold
  | ok node => simpa using htold

/-- After a call on a valid graph, listeners know the outline of the graph. -/
lemma Operation.told_run (hd : d.graph.Valid) (op : Operation) :
    (d.told (op.run d).steps).graph.outline = (op.run d).draft.graph.outline := by
  have htold : ∀ {m : Editing Unit}, m.Tells →
      (d.told (m d).steps).graph.outline = (m d).draft.graph.outline := fun hm =>
    congrArg Graph.outline (hm d)
  cases op with
  | addNode new => exact htold ((tells_addNode new).bind fun _ => (quiet_done ()).tells)
  | removeNode id => exact htold (tells_removeNode id)
  | moveNode id x y => exact htold (tells_moveNode id x y)
  | updateNode id label fields => exact told_update hd id label fields
  | connect source target id =>
    exact htold ((tells_connect source target id).bind fun _ => (quiet_done ()).tells)
  | disconnect id => exact htold (tells_disconnect id)
  | extend nodes edges => exact htold (tells_extend nodes edges)
  | insertTemplate name area =>
    exact htold ((Template.tells_insert name area).bind fun _ => (quiet_done ()).tells)

end Calls

/-- A call on a graph. -/
inductive GraphCall
  | operation (op : Operation)
  | mutation (call : Mutation)

namespace GraphCall

def run : GraphCall → Editing Unit
  | operation op => op.run
  | mutation call => call.run

/-- Every call is an operation, unless it names a kind that there is not. -/
lemma run_cases (call : GraphCall) :
    (∃ op : Operation, call.run = op.run) ∨ ∃ e, call.run = Editing.fail e := by
  cases call with
  | operation op => exact .inl ⟨op, rfl⟩
  | mutation call =>
    cases call with
    | addNode kind position label id fields =>
      cases hkind : Kind.ofValue kind with
      | ok k =>
        refine .inl ⟨.addNode ⟨k, position, label, id, fields⟩, ?_⟩
        funext d
        simp [run, Mutation.run, Operation.run, hkind]
      | error f =>
        refine .inr ⟨.fault f, ?_⟩
        funext d
        simp [run, Mutation.run, hkind]
    | removeNode id => exact .inl ⟨.removeNode id, rfl⟩
    | moveNode id x y => exact .inl ⟨.moveNode id x y, rfl⟩
    | updateNode id label fields => exact .inl ⟨.updateNode id label fields, rfl⟩
    | connect source target id => exact .inl ⟨.connect source target id, rfl⟩
    | disconnect id => exact .inl ⟨.disconnect id, rfl⟩

lemma keeps_run (call : GraphCall) : call.run.Keeps Graph.Valid := by
  rcases call.run_cases with ⟨op, h⟩ | ⟨e, h⟩
  · rw [h]
    exact op.keeps_run
  · rw [h]
    exact (Editing.quiet_fail e).keeps

/-- After a call on a valid graph, listeners know the outline of the graph. -/
lemma told_run {d : Draft} (hd : d.graph.Valid) (call : GraphCall) :
    (d.told (call.run d).steps).graph.outline = (call.run d).draft.graph.outline := by
  rcases call.run_cases with ⟨op, h⟩ | ⟨e, h⟩
  · rw [h]
    exact op.told_run hd
  · rw [h]
    rfl

end GraphCall

end DetectionFlow
