import DetectionFlow.Proofs.RestoredTheorems

/-!
# What a successful restoration yields

A restoration that does not fail has made a node of every placed record and joined each child to its
parent (`Saved.restore_yields`). Nothing need be known of the fresh identifiers here: had one of them been
in use, the restoration would have failed.
-/

namespace DetectionFlow
namespace Saved

open Placed

/-! ## Connections that were made -/

lemma connectOne_ok {draft draft' : Draft} {t : Placed} {l : String × String}
    (hnodes : (draft.graph.nodes.map (·.id)).Nodup) (hlink : t.link? = some l)
    (h : (connectOne draft t).result = .ok draft') :
    draft' = ⟨draft.graph.insertEdge ⟨draft.ids.draw.1, l.1, l.2⟩, draft.ids.draw.2⟩ := by
  have hdrawn : draft.ids.pick none = draft.ids.draw := rfl
  unfold link? at hlink
  split at hlink
  · simp at hlink
  next hrow =>
    obtain ⟨parent, hparent, rfl⟩ := Option.map_eq_some_iff.mp hlink
    unfold connectOne at h
    simp only [hparent] at h
    rw [if_neg hrow] at h
    rcases Graph.connect_outcome draft parent t.record.id none with
      hrefused | ⟨edge, hsource, htarget, hid, hadmits, -⟩
    · obtain ⟨e, he⟩ := hrefused.failed
      simp [he, Except.map] at h
    · obtain rfl : edge = ⟨(draft.ids.pick none).1, parent, t.record.id⟩ := by
        cases edge
        simp_all
      rw [Graph.connect_of_admits hnodes hadmits] at h
      exact (Except.ok.inj h).symm

/-- Where no connection failed, there is one edge for each link. -/
lemma foldlM_connectOne_ok {placed : List Placed} {draft draft' : Draft}
    (hnodes : (draft.graph.nodes.map (·.id)).Nodup)
    (h : (placed.foldlM connectOne draft).result = .ok draft') :
    draft' = ⟨(draft.ids.edges (links placed)).foldl Graph.insertEdge draft.graph,
      draft.ids.after (links placed).length⟩ := by
  induction placed generalizing draft with
  | nil => exact (Except.ok.inj h).symm
  | cons t rest ih =>
    rw [List.foldlM_cons] at h
    obtain ⟨next, hnext, hrest⟩ := Noted.bind_result_eq_ok.mp h
    cases hlink : t.link? with
    | none =>
      have hlinks : links (t :: rest) = links rest := by simp [links, hlink]
      rw [connectOne_of_no_link hlink] at hnext
      obtain rfl := Except.ok.inj hnext
      rw [hlinks]
      exact ih hnodes hrest
    | some l =>
      have hlinks : links (t :: rest) = l :: links rest := by simp [links, hlink]
      obtain rfl := connectOne_ok hnodes hlink hnext
      rw [hlinks]
      have hafter :=
        @ih ⟨draft.graph.insertEdge ⟨draft.ids.draw.1, l.1, l.2⟩, draft.ids.draw.2⟩ hnodes hrest
      rw [hafter, IdSource.draw_after]
      rfl

/-! ## The whole -/

/-- What there is after a restoration that succeeded. -/
structure Yields (entries : List Saved) (ids : IdSource) (restored : Restored) : Prop where
  keys : ∀ s ∈ entries, s.typeIsNoKey = false
  nodes : List.Forall₂ (fun t n => (nodeOf t).result = .ok n) (placing entries).placed
    restored.graph.nodes
  edges : restored.graph.edges = restoredEdges entries ids
  dropped : restored.dropped = (sifted entries).dropped
  unplaced : restored.unplaced = (placing entries).waiting.map (·.id)

variable {entries : List Saved} {ids ids' : IdSource} {restored : Restored}

theorem restore_yields (h : (restore entries ids).result = .ok (restored, ids')) :
    Yields entries ids restored := by
  obtain ⟨hkeys, nodes, draft, hmade, hdraft, hgraph, hdropped, hunplaced⟩ :=
    restoreNoted_eq_ok (restore_result_eq_ok.mp h).1
  have hjoined := @foldlM_connectOne_ok _ ⟨⟨nodes, []⟩, ids⟩ _ (nodeIds_nodup hmade) hdraft
  dsimp only at hjoined
  rw [Graph.foldl_insertEdge] at hjoined
  rw [hjoined] at hgraph
  exact ⟨hkeys, hgraph ▸ hmade, by rw [← hgraph, restoredEdges], hdropped, hunplaced⟩

/-- A node is that of a kept record. -/
lemma Yields.exists_placed (h : Yields entries ids restored) {n : Node}
    (hn : n ∈ restored.graph.nodes) :
    ∃ t ∈ (placing entries).placed, (nodeOf t).result = .ok n :=
  exists_of_forall₂ h.nodes.flip hn

lemma Yields.nodeIds (h : Yields entries ids restored) :
    restored.graph.nodes.map (·.id) = ((placing entries).placed.map (·.record)).map (·.id) := by
  rw [List.map_map]
  exact (map_eq_of_forall₂ h.nodes fun t n h => (nodeOf_ok h).1.symm).symm

end Saved
end DetectionFlow
