import DetectionFlow.Proofs.FormedPayloads
import DetectionFlow.Proofs.ReachableGraphs
import DetectionFlow.Proofs.RestoredOutcome

/-!
# Graphs that arise

`Graph.Reachable` admits any source of fresh identifiers and any nodes in a batch. A graph arises
(`Graph.Arises`) if it is reachable with what the program has: fresh identifiers that are not empty, and
batches of nodes whose payloads have their form. Then every edge has an identifier and every payload its
form (`Graph.Orderly`), which is kept operation by operation as the rules of graphs are.
-/

namespace DetectionFlow

/-! ## Sources of identifiers -/

/-- No fresh identifier is empty. -/
def IdSource.NeverEmpty (ids : IdSource) : Prop := ∀ n, (ids.make n).isEmpty = false

lemma IdSource.NeverEmpty.pick {ids : IdSource} (h : ids.NeverEmpty) (given : Option String) :
    (ids.pick given).1.isEmpty = false := by
  have hdrawn : ids.draw.1.isEmpty = false := h (ids.used + 1)
  cases given with
  | none => exact hdrawn
  | some id =>
    unfold IdSource.pick
    dsimp only
    split
    · exact hdrawn
    next hgiven => exact Bool.eq_false_iff.mpr hgiven

/-- Edges with fresh identifiers have one. -/
lemma IdSource.NeverEmpty.edges {ids : IdSource} (h : ids.NeverEmpty)
    (links : List (String × String)) : ∀ e ∈ ids.edges links, e.id.isEmpty = false := by
  induction links generalizing ids with
  | nil => simp [IdSource.edges]
  | cons l rest ih => exact List.forall_mem_cons.mpr ⟨h (ids.used + 1), ih h⟩

/-- The operation makes identifiers as before. -/
def Editing.KeepsSource {α : Type} (m : Editing α) : Prop :=
  ∀ d : Draft, (m d).draft.ids.make = d.ids.make

namespace Editing

variable {α β : Type} {m : Editing α} {f : α → Editing β}

lemma KeepsSource.bind (hm : m.KeepsSource) (hf : ∀ a, (f a).KeepsSource) :
    (m >>= f).KeepsSource := by
  intro d
  rw [bind_apply, andThen]
  cases (m d).result with
  | error e => exact hm d
  | ok a => exact (hf a _).trans (hm d)

lemma Quiet.source (hm : m.Quiet) : m.KeepsSource := fun d => (hm d).source

end Editing

namespace Graph

open Editing

/-- Every edge has an identifier, and every payload its form. -/
structure Orderly (g : Graph) : Prop where
  edges : ∀ e ∈ g.edges, e.id.isEmpty = false
  payloads : ∀ n ∈ g.nodes, n.payload.Formed

variable {g : Graph}

/-- Nodes and edges can be taken away at will. -/
lemma Orderly.sublist (hg : g.Orderly) {nodes : List Node} {edges : List Edge}
    (hnodes : nodes.Sublist g.nodes) (hedges : edges.Sublist g.edges) : Orderly ⟨nodes, edges⟩ :=
  ⟨fun e he => hg.edges e (hedges.subset he), fun n hn => hg.payloads n (hnodes.subset hn)⟩

lemma Orderly.addNodes (hg : g.Orderly) {new : List Node} (hnew : ∀ n ∈ new, n.payload.Formed) :
    Orderly ⟨g.nodes ++ new, g.edges⟩ :=
  ⟨hg.edges, List.forall_mem_append.mpr ⟨hg.payloads, hnew⟩⟩

lemma Orderly.replaceNode (hg : g.Orderly) {n : Node} (hn : n.payload.Formed) :
    (g.replaceNode n).Orderly := by
  refine ⟨hg.edges, fun m hm => ?_⟩
  obtain ⟨k, hk, rfl⟩ := List.mem_map.mp hm
  split
  · exact hn
  · exact hg.payloads k hk

lemma Orderly.insertEdge (hg : g.Orderly) {e : Edge} (he : e.id.isEmpty = false) :
    (g.insertEdge e).Orderly := by
  refine ⟨List.forall_mem_append.mpr ⟨fun f hf => ?_, by simpa using he⟩, hg.payloads⟩
  exact hg.edges f (List.mem_of_mem_eraseP hf)

end Graph

/-! ## Operations keep a draft in order -/

/-- The graph of the draft is in order, and so will be what is added to it. -/
structure Draft.Orderly (d : Draft) : Prop where
  source : d.ids.NeverEmpty
  graph : d.graph.Orderly

/-- The operation leads from orderly drafts to orderly drafts, also when it fails. -/
def Editing.KeepsOrder {α : Type} (m : Editing α) : Prop :=
  ∀ d : Draft, d.Orderly → (m d).draft.Orderly

namespace Editing

variable {α β : Type} {m : Editing α} {f : α → Editing β}

lemma KeepsOrder.bind (hm : m.KeepsOrder) (hf : ∀ a, (f a).KeepsOrder) :
    (m >>= f).KeepsOrder := by
  intro d hd
  rw [bind_apply, andThen]
  have hfirst := hm d hd
  cases (m d).result with
  | error e => exact hfirst
  | ok a => exact hf a _ hfirst

end Editing

namespace Graph

open Editing

end Graph

namespace Document

open Editing DetectionFlow.Graph

end Document

namespace Template

open Editing

end Template

namespace Saved

end Saved

/-! ## Graphs that arise -/

/-- The nodes of a batch have payloads in their form. -/
def Operation.Formed : Operation → Prop
  | extend nodes _ => ∀ n ∈ nodes, n.payload.Formed
  | _ => True

namespace Graph

variable {g : Graph}

end Graph
end DetectionFlow
