import DetectionFlow.Proofs.ReachableGraphs
import DetectionFlow.Proofs.ReplacedNodes

/-!
# What a failed edit leaves behind

An edit of one node or one edge that fails tells no listener of anything, and with one exception it
leaves the graph as it was (`Mutation.failed_leaves`). The exception is an update with a new label whose
fields cannot be used: the label stays, unannounced (`Mutation.Relabels`). Nothing else of the graph is
changed by it, and it happens at every such update.
-/

namespace DetectionFlow

open Editing DetectionFlow.Graph

/-- A call that edits one node or one edge. The kind of a new node is given by its name and may be
none. -/
inductive Mutation
  | addNode (kind position : Value) (label id : Option String) (fields : Fields)
  | removeNode (id : String)
  | moveNode (id : String) (x y : Value)
  | updateNode (id : String) (label : Option String) (fields : Fields)
  | connect (source target : String) (id : Option String)
  | disconnect (id : String)

namespace Mutation

/-- What the call does. -/
def run : Mutation → Editing Unit
  | addNode kind position label id fields => do
    let kind ← Editing.ofFault (Kind.ofValue kind)
    let _ ← Graph.addNode ⟨kind, position, label, id, fields⟩
  | removeNode id => Graph.removeNode id
  | moveNode id x y => Graph.moveNode id x y
  | updateNode id label fields => do let _ ← Graph.updateNode id label fields
  | connect source target id => do let _ ← Graph.connect source target id
  | disconnect id => Graph.disconnect id

/-- The call gives a node of the graph a label that it does not have. -/
def Relabels (g : Graph) (call : Mutation) : Prop :=
  ∃ id label fields node, call = updateNode id (some label) fields ∧ g.node? id = some node ∧
    node.label ≠ label

/-- What a failed call leaves of a graph: all of it, but for the label that an update has set
already. -/
def leftover (g : Graph) : Mutation → Graph
  | updateNode id (some label) _ =>
    match g.node? id with
    | some node => g.replaceNode { node with label }
    | none => g
  | _ => g

end Mutation

/-! ## Outcomes of which the value is dropped -/

variable {α : Type} {d : Draft} {m : Editing α} {g : Graph}

lemma Edit.Refuses.discard (h : (m d).Refuses g) : ((m >>= fun _ => done ()) d).Refuses g := by
  obtain ⟨e, he⟩ := h.failed
  rw [bind_apply, andThen, he]
  exact ⟨h.steps, h.graph, e, rfl⟩

lemma Edit.Makes.discard {c : Change} {a : α} (h : (m d).Makes g c a) :
    ((m >>= fun _ => done ()) d).result = .ok () := by
  rw [bind_apply, andThen, h.result]
  rfl

/-! ## Labels -/

namespace Graph

/-- To exchange a node for itself changes nothing. -/
lemma Valid.replaceNode_self {node : Node} (hg : g.Valid) (hnode : node ∈ g.nodes) :
    g.replaceNode node = g := by
  have hsame : ∀ m ∈ g.nodes, (if m.id = node.id then node else m) = m := by
    intro m hm
    by_cases hid : m.id = node.id
    · rw [if_pos hid, hg.node_ext hm hnode hid]
    · rw [if_neg hid]
  have hnodes : (g.nodes.map fun m => if m.id = node.id then node else m) = g.nodes := by
    rw [List.map_congr_left hsame, List.map_id']
  rw [Graph.replaceNode, hnodes]

/-- The node that was exchanged is found in its place. -/
lemma node?_replaceNode {node old : Node} (hold : g.node? node.id = some old) :
    (g.replaceNode node).node? node.id = some node := by
  rw [node?_replaceNode_eq, hold, Option.map_some, Node.renewed, if_pos (node?_eq_some hold).2]

end Graph

/-! ## Failed calls -/

namespace Mutation

/-- A failed call leaves the graph as it was exactly if it did not set another label. -/
lemma leftover_eq_self_iff (hg : g.Valid) (call : Mutation) :
    call.leftover g = g ↔ ¬ call.Relabels g := by
  unfold leftover Relabels
  split
  next id label fields =>
    cases hnode : g.node? id with
    | none =>
      refine iff_of_true rfl ?_
      rintro ⟨id', label', fields', node, heq, hnode', -⟩
      cases heq
      rw [hnode] at hnode'
      cases hnode'
    | some node =>
      obtain ⟨hmem, rfl⟩ := node?_eq_some hnode
      constructor
      · rintro hsame ⟨id', label', fields', node', heq, hnode', hlabel⟩
        cases heq
        obtain rfl : node = node' := Option.some.inj (hnode.symm.trans hnode')
        have hfound := @node?_replaceNode _ { node with label } _ hnode
        dsimp only at hsame hfound
        rw [hsame, hnode] at hfound
        exact hlabel (congrArg Node.label (Option.some.inj hfound))
      · intro hnot
        have hlabel : node.label = label := by
          by_contra hne
          exact hnot ⟨_, _, _, node, rfl, hnode, hne⟩
        subst hlabel
        exact hg.replaceNode_self hmem
  next hother =>
    refine iff_of_true rfl ?_
    rintro ⟨id, label, fields, node, rfl, -⟩
    exact hother id label fields rfl

lemma leftover_of_absent {id : String} {label : Option String} {fields : Fields}
    (hnode : g.node? id = none) : (updateNode id label fields).leftover g = g := by
  cases label with
  | none => rfl
  | some label => rw [leftover, hnode]

lemma leftover_of_present (hg : g.Valid) {id : String} {label : Option String} {fields : Fields}
    {node : Node} (hnode : g.node? id = some node) :
    (updateNode id label fields).leftover g =
      g.replaceNode { node with label := label.getD node.label } := by
  cases label with
  | none => exact (hg.replaceNode_self (node?_eq_some hnode).1).symm
  | some label => rw [leftover, hnode, Option.getD_some]

/-- What the outcome of a failed call is: no word to any listener, and the graph that it left. -/
lemma failed_refuses (hg : g.Valid) (call : Mutation) {ids : IdSource} {e : Failure}
    (hfailed : (call.run ⟨g, ids⟩).result = .error e) :
    (call.run ⟨g, ids⟩).Refuses (call.leftover g) := by
  -- The outcome of each edit is a refusal or a success, and the failure excludes the success.
  cases call with
  | addNode kind position label id fields =>
    rw [run, ofFault_bind] at hfailed ⊢
    cases hkind : Kind.ofValue kind with
    | error f => exact ⟨rfl, rfl, _, rfl⟩
    | ok k =>
      rw [hkind] at hfailed
      rcases addNode_outcome ⟨g, ids⟩ ⟨k, position, label, id, fields⟩ with h | ⟨node, -, -, h⟩
      · exact h.discard
      · cases hfailed.symm.trans h.discard
  | removeNode id =>
    rcases removeNode_outcome ⟨g, ids⟩ id with h | h
    · exact h
    · cases hfailed.symm.trans h.result
  | moveNode id x y =>
    rcases moveNode_outcome ⟨g, ids⟩ id x y with h | ⟨node, position, -, h⟩
    · exact h
    · cases hfailed.symm.trans h.result
  | updateNode id label fields =>
    rcases updateNode_outcome ⟨g, ids⟩ id label fields with
      ⟨hnone, h⟩ | ⟨node, hnode, h | ⟨payload, -, h⟩⟩
    · rw [leftover_of_absent hnone]
      exact h.discard
    · rw [leftover_of_present hg hnode]
      exact h.discard
    · cases hfailed.symm.trans h.discard
  | connect source target id =>
    rcases connect_outcome ⟨g, ids⟩ source target id with h | ⟨edge, -, -, -, -, h⟩
    · exact h.discard
    · cases hfailed.symm.trans h.discard
  | disconnect id =>
    rcases disconnect_outcome ⟨g, ids⟩ id with h | h
    · exact h
    · cases hfailed.symm.trans h.result

/-- A call on a reachable graph that fails tells no listener of anything. It leaves the graph with its
nodes and edges as they were, unless it was to give a node another label: then that label is set, and
that alone. -/
theorem failed_leaves (hg : g.Reachable) (call : Mutation) {ids : IdSource} {e : Failure}
    (hfailed : (call.run ⟨g, ids⟩).result = .error e) :
    (call.run ⟨g, ids⟩).steps = [] ∧
      ((call.run ⟨g, ids⟩).draft.graph = g ↔ ¬ call.Relabels g) ∧
      (call.run ⟨g, ids⟩).draft.graph = call.leftover g := by
  have hrefuses := failed_refuses hg.valid call hfailed
  refine ⟨hrefuses.steps, ?_, hrefuses.graph⟩
  rw [hrefuses.graph]
  exact leftover_eq_self_iff hg.valid call

/-- A graph of one condition. -/
def loneCount : Graph := ⟨[⟨"c", "Old", origin, .new .count⟩], []⟩

/-- A new label along with a field that there is not. -/
def badUpdate : Mutation := updateNode "c" (some "New") [("nope", .null)]

/-- The update failed, nobody was told, and the condition has the new label. -/
theorem failed_leaves_newLabel :
    loneCount.Reachable ∧
      (badUpdate.run ⟨loneCount, ⟨Nat.repr, 0⟩⟩).result = .error (.graph (.invalidFields .count)) ∧
      (badUpdate.run ⟨loneCount, ⟨Nat.repr, 0⟩⟩).steps = [] ∧
      (badUpdate.run ⟨loneCount, ⟨Nat.repr, 0⟩⟩).draft.graph ≠ loneCount := by
  have hreachable : loneCount.Reachable :=
    Reachable.empty.call (.extend loneCount.nodes loneCount.edges) ⟨Nat.repr, 0⟩
  have hfailed : (badUpdate.run ⟨loneCount, ⟨Nat.repr, 0⟩⟩).result =
      .error (.graph (.invalidFields .count)) := rfl
  obtain ⟨hsteps, hsame, -⟩ := failed_leaves hreachable badUpdate hfailed
  refine ⟨hreachable, hfailed, hsteps, fun heq => hsame.mp heq ?_⟩
  exact ⟨_, _, _, _, rfl, rfl, by decide⟩

end Mutation
end DetectionFlow
