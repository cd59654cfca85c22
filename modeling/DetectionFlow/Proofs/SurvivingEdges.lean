import DetectionFlow.Proofs.GraphInvariant

/-!
# The edges that survive

Edges that are inserted one after the other replace each other where they have one source. What is
left in the end needs no graph to be told: it is `Edge.surviving`, the edges that no later edge
from the same source follows (`foldl_insertEdge`), and before them the edges of the graph from all other
sources (`Valid.foldl_insertEdge`).
-/

namespace DetectionFlow

/-- The edges that no later edge from the same source replaces. -/
def Edge.surviving : List Edge → List Edge
  | [] => []
  | e :: rest =>
    if rest.any (·.source = e.source) then surviving rest else e :: surviving rest

namespace Edge

variable {es : List Edge} {e : Edge}

lemma surviving_sublist (es : List Edge) : (surviving es).Sublist es := by
  induction es with
  | nil => exact List.Sublist.refl _
  | cons e rest ih =>
    unfold surviving
    split
    · exact ih.cons e
    · exact ih.cons_cons e

/-- An edge survives if it stands somewhere with no edge of its source behind it. -/
lemma mem_surviving :
    e ∈ surviving es ↔
      ∃ before after, es = before ++ e :: after ∧ ∀ f ∈ after, f.source ≠ e.source := by
  induction es with
  | nil => simp [surviving]
  | cons d rest ih =>
    unfold surviving
    constructor
    · intro h
      split at h
      · obtain ⟨before, after, rfl, hafter⟩ := ih.mp h
        exact ⟨d :: before, after, rfl, hafter⟩
      next hlast =>
        rcases List.mem_cons.mp h with rfl | h
        · exact ⟨[], rest, rfl, by simpa using hlast⟩
        · obtain ⟨before, after, rfl, hafter⟩ := ih.mp h
          exact ⟨d :: before, after, rfl, hafter⟩
    · rintro ⟨before, after, heq, hafter⟩
      cases before with
      | nil =>
        obtain ⟨rfl, rfl⟩ := List.cons.inj heq
        rw [if_neg (by simpa using hafter)]
        exact List.mem_cons_self
      | cons b before =>
        obtain ⟨rfl, rfl⟩ := List.cons.inj heq
        have hrest := ih.mpr ⟨before, after, rfl, hafter⟩
        split
        · exact hrest
        · exact List.mem_cons_of_mem _ hrest

lemma surviving_sources (es : List Edge) : ((surviving es).map (·.source)).Nodup := by
  induction es with
  | nil => exact List.nodup_nil
  | cons e rest ih =>
    unfold surviving
    split
    · exact ih
    next hlast =>
      rw [List.map_cons, List.nodup_cons]
      refine ⟨fun h => hlast ?_, ih⟩
      obtain ⟨f, hf, hsource⟩ := List.mem_map.mp h
      rw [List.any_eq_true]
      exact ⟨f, (surviving_sublist rest).subset hf, by simpa using hsource⟩

/-- Of the edges from one source one survives. -/
lemma exists_surviving (he : e ∈ es) : ∃ f ∈ surviving es, f.source = e.source := by
  induction es generalizing e with
  | nil => simp at he
  | cons d rest ih =>
    unfold surviving
    by_cases hlater : rest.any (·.source = d.source)
    · rw [if_pos hlater]
      rcases List.mem_cons.mp he with rfl | he
      · obtain ⟨f, hf, hsource⟩ := List.any_eq_true.mp hlater
        obtain ⟨last, hlast, heq⟩ := ih hf
        exact ⟨last, hlast, heq.trans (by simpa using hsource)⟩
      · exact ih he
    · rw [if_neg hlater]
      rcases List.mem_cons.mp he with rfl | he
      · exact ⟨e, List.mem_cons_self, rfl⟩
      · obtain ⟨last, hlast, heq⟩ := ih he
        exact ⟨last, List.mem_cons_of_mem _ hlast, heq⟩

/-- Of two lists in a row the first one loses the edges that the second one has sources of. -/
lemma surviving_append (es fs : List Edge) :
    surviving (es ++ fs) =
      (surviving es).filter (fun f => !fs.any (·.source = f.source)) ++ surviving fs := by
  induction es with
  | nil => rfl
  | cons d rest ih =>
    rw [List.cons_append, surviving, surviving, List.any_append, ih]
    by_cases hlater : rest.any (·.source = d.source)
    · rw [if_pos (by rw [hlater, Bool.true_or]), if_pos hlater]
    · rw [if_neg hlater]
      by_cases hreplaced : fs.any (·.source = d.source)
      · rw [if_pos (by rw [hreplaced, Bool.or_true]),
          List.filter_cons_of_neg (by rw [hreplaced]; decide)]
      · rw [if_neg (by simp only [hlater, hreplaced, Bool.or_self]; decide),
          List.filter_cons_of_pos (by simpa using hreplaced), List.cons_append]

/-- A last edge survives and puts an end to those of its source. -/
lemma surviving_append_singleton (es : List Edge) (e : Edge) :
    surviving (es ++ [e]) = (surviving es).filter (fun f => decide (f.source ≠ e.source)) ++ [e] := by
  rw [surviving_append]
  refine congrArg (· ++ [e]) (List.filter_congr fun f _ => ?_)
  simp [eq_comm]

/-- Edges from different sources all survive. -/
lemma surviving_eq_self (hsources : (es.map (·.source)).Nodup) : surviving es = es := by
  induction es with
  | nil => rfl
  | cons e rest ih =>
    rw [List.map_cons, List.nodup_cons] at hsources
    have hlast : ¬ rest.any (·.source = e.source) = true := by
      intro hlater
      obtain ⟨f, hf, hsource⟩ := List.any_eq_true.mp hlater
      exact hsources.1 (decide_eq_true_iff.mp hsource ▸ List.mem_map_of_mem hf)
    rw [surviving, if_neg hlast, ih hsources.2]

end Edge

namespace Graph

/-- What inserting edges one after the other into a graph without edges leaves. -/
theorem foldl_insertEdge (nodes : List Node) (es : List Edge) :
    es.foldl insertEdge ⟨nodes, []⟩ = ⟨nodes, Edge.surviving es⟩ := by
  induction es using List.reverseRecOn with
  | nil => rfl
  | append_singleton es e ih =>
    rw [List.foldl_append, ih, List.foldl_cons, List.foldl_nil, insertEdge,
      eraseP_source_eq_filter (Edge.surviving_sources es), Edge.surviving_append_singleton]

/-- Edges that are inserted into a valid graph leave the old edges from other sources. -/
theorem Valid.foldl_insertEdge {g : Graph} (hg : g.Valid) (es : List Edge) :
    es.foldl Graph.insertEdge g =
      ⟨g.nodes, g.edges.filter (fun f => !es.any (·.source = f.source)) ++ Edge.surviving es⟩ := by
  -- The graph is itself what its edges leave when they are inserted one after the other.
  have hself : g.edges.foldl Graph.insertEdge ⟨g.nodes, []⟩ = g := by
    rw [Graph.foldl_insertEdge, Edge.surviving_eq_self hg.sources]
  have hall := Graph.foldl_insertEdge g.nodes (g.edges ++ es)
  rw [List.foldl_append, hself, Edge.surviving_append, Edge.surviving_eq_self hg.sources] at hall
  exact hall

end Graph
end DetectionFlow
