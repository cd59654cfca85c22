import DetectionFlow.Proofs.CompiledStructure

/-!
# Graphs side by side

Two graphs that share no identifier of a node are put side by side (`Graph.beside`), and compile to the
records of the one followed by the records of the other (`Graph.compile_beside`).

Each of the two is a part of the whole that no edge leads into from outside (`Graph.IsPart`). Whatever
compilation asks about a node, be it its parent, the Object far above it or its record, has the same answer
in a part and in the whole. For the walk upwards this takes that the steps it is allowed do not matter as
long as they are more than the edges it can still follow (`IsPart.ascend`).
-/

namespace DetectionFlow
namespace Graph

/-! ## Parts of a graph -/

/-- The graph is a part of another one, with all edges into its nodes. -/
structure IsPart (p g : Graph) : Prop where
  edges : p.edges.Sublist g.edges
  node? : ∀ n ∈ p.nodes, g.node? n.id = p.node? n.id
  incoming : ∀ n ∈ p.nodes, g.incoming n.id = p.incoming n.id
  source : ∀ e ∈ p.edges, ∃ n ∈ p.nodes, n.id = e.source

/-- How many edges a walk upwards can still follow. -/
def unvisited (g : Graph) (visited : List String) : Nat :=
  (g.edges.filter fun e => !visited.contains e.source).length

lemma unvisited_le (g : Graph) (visited : List String) : g.unvisited visited ≤ g.edges.length :=
  List.length_filter_le _ _

/-- Past one node more there are fewer edges to follow. -/
lemma unvisited_cons_lt {g : Graph} {visited : List String} {e : Edge} (he : e ∈ g.edges)
    (hnew : e.source ∉ visited) : g.unvisited (e.source :: visited) < g.unvisited visited := by
  have hfewer : (g.edges.filter fun f => !(e.source :: visited).contains f.source) =
      (g.edges.filter fun f => !visited.contains f.source).filter fun f =>
        decide (f.source ≠ e.source) := by
    rw [List.filter_filter]
    refine List.filter_congr fun f _ => ?_
    simp
  rw [unvisited, hfewer, unvisited, List.length_filter_lt_length_iff_exists]
  exact ⟨e, List.mem_filter.mpr ⟨he, by simpa using hnew⟩, by simp⟩

namespace IsPart

variable {p g : Graph} {n : Node}

lemma feeder? (h : IsPart p g) (hn : n ∈ p.nodes) : g.feeder? n.id = p.feeder? n.id := by
  rw [Graph.feeder?, Graph.feeder?, h.incoming n hn]

/-- A stage that feeds a node of the part is a node of the part. -/
lemma exists_of_feeder? (h : IsPart p g) {id above : String} (hfeeder : p.feeder? id = some above) :
    ∃ m ∈ p.nodes, m.id = above := by
  obtain ⟨e, he, rfl, -⟩ := feeder?_eq_some hfeeder
  exact h.source e he

lemma parentId? (h : IsPart p g) (hn : n ∈ p.nodes) : g.parentId? n.id = p.parentId? n.id := by
  rw [Graph.parentId?, Graph.parentId?, h.feeder? hn]
  cases hfeeder : p.feeder? n.id with
  | none => rfl
  | some above =>
    obtain ⟨m, hm, rfl⟩ := h.exists_of_feeder? hfeeder
    dsimp only
    rw [h.node? m hm]

/-- Walks of enough steps end at the same place. -/
lemma ascend (h : IsPart p g) {steps steps' : Nat} {visited : List String} (hn : n ∈ p.nodes)
    (hsteps : p.unvisited visited < steps) (hsteps' : p.unvisited visited < steps') :
    g.ascend steps visited n.id = p.ascend steps' visited n.id := by
  induction steps generalizing steps' visited n with
  | zero => exact absurd hsteps (Nat.not_lt_zero _)
  | succ steps ih =>
    cases steps' with
    | zero => exact absurd hsteps' (Nat.not_lt_zero _)
    | succ steps' =>
      rw [Graph.ascend, Graph.ascend, h.feeder? hn]
      -- Both walks take the same step, and neither runs out of steps before the edges are used up.
      cases hfeeder : p.feeder? n.id with
      | none => rfl
      | some above =>
        obtain ⟨e, he, hsource, -⟩ := feeder?_eq_some hfeeder
        obtain ⟨m, hm, rfl⟩ := h.exists_of_feeder? hfeeder
        dsimp only
        by_cases hvisited : visited.contains m.id = true
        · rw [if_pos hvisited, if_pos hvisited]
        · have hfewer := unvisited_cons_lt he (by simpa [hsource] using hvisited)
          rw [hsource] at hfewer
          have hrest : g.ascend steps (m.id :: visited) m.id =
              p.ascend steps' (m.id :: visited) m.id := ih hm (by omega) (by omega)
          rw [if_neg hvisited, if_neg hvisited, h.node? m hm, hrest]

/-- The walk upwards from a node of the part stays in the part. -/
lemma ancestry (h : IsPart p g) (hn : n ∈ p.nodes) : g.ancestry n.id = p.ancestry n.id := by
  have hmost := p.unvisited_le [n.id]
  have hedges := h.edges.length_le
  exact h.ascend hn (by omega) (by omega)

lemma resolveTarget (h : IsPart p g) (hn : n ∈ p.nodes) :
    g.resolveTarget n.id = p.resolveTarget n.id := by
  rw [Graph.resolveTarget, Graph.resolveTarget, h.ancestry hn]

lemma payloadFields (h : IsPart p g) (hn : n ∈ p.nodes) :
    g.payloadFields n = p.payloadFields n := by
  rw [Graph.payloadFields, Graph.payloadFields, h.resolveTarget hn]

/-- A node of the part has the same record in the whole. -/
lemma compileNode (h : IsPart p g) (hn : n ∈ p.nodes) : g.compileNode n = p.compileNode n := by
  rw [Graph.compileNode, Graph.compileNode, h.payloadFields hn, headerFields, headerFields,
    h.parentId? hn]

end IsPart

/-! ## Two parts -/

/-- The nodes and edges of one graph and then those of another one. -/
def beside (g b : Graph) : Graph := ⟨g.nodes ++ b.nodes, g.edges ++ b.edges⟩

/-- No node of one graph has the identifier of a node of the other one. -/
def Apart (g b : Graph) : Prop := ∀ m ∈ g.nodes, ∀ n ∈ b.nodes, m.id ≠ n.id

section Beside

variable {g b : Graph}

/-- No edge of a graph ends at a node that is not there. -/
lemma Valid.incoming_eq_nil (hg : g.Valid) {id : String} (h : ∀ m ∈ g.nodes, m.id ≠ id) :
    g.incoming id = [] := by
  rw [incoming, List.filter_eq_nil_iff]
  intro e he
  obtain ⟨m, hm, hid, -⟩ := hg.target e he
  simpa [hid] using h m hm

lemma node?_eq_none {id : String} (h : ∀ m ∈ g.nodes, m.id ≠ id) : g.node? id = none := by
  rw [node?, List.find?_eq_none]
  simpa using h

lemma incoming_beside (id : String) :
    (g.beside b).incoming id = g.incoming id ++ b.incoming id := by
  simp [incoming, beside]

lemma node?_beside (id : String) : (g.beside b).node? id = (g.node? id).or (b.node? id) := by
  simp [node?, beside, List.find?_append]

lemma Valid.exists_source (hg : g.Valid) : ∀ e ∈ g.edges, ∃ n ∈ g.nodes, n.id = e.source := by
  intro e he
  obtain ⟨n, hn, hid, -⟩ := hg.source e he
  exact ⟨n, hn, hid⟩

lemma isPart_left (hg : g.Valid) (hb : b.Valid) (h : g.Apart b) : IsPart g (g.beside b) where
  edges := List.sublist_append_left _ _
  node? n hn := by
    rw [node?_beside, node?_eq_none fun m hm => (h n hn m hm).symm, Option.or_none]
  incoming n hn := by
    rw [incoming_beside, hb.incoming_eq_nil fun m hm => (h n hn m hm).symm, List.append_nil]
  source := hg.exists_source

lemma isPart_right (hg : g.Valid) (hb : b.Valid) (h : g.Apart b) : IsPart b (g.beside b) where
  edges := List.sublist_append_right _ _
  node? n hn := by
    rw [node?_beside, node?_eq_none fun m hm => h m hm n hn, Option.none_or]
  incoming n hn := by
    rw [incoming_beside, hg.incoming_eq_nil fun m hm => h m hm n hn, List.nil_append]
  source := hb.exists_source

/-- Valid graphs that share no identifier make a valid graph side by side. -/
lemma valid_beside (hg : g.Valid) (hb : b.Valid) (hapart : g.Apart b)
    (hids : ∀ e ∈ g.edges, ∀ f ∈ b.edges, e.id ≠ f.id) : (g.beside b).Valid := by
  refine ⟨nodup_map_append hg.nodeIds hb.nodeIds hapart, ?_, ?_, ?_,
    nodup_map_append hg.edgeIds hb.edgeIds hids, nodup_map_append hg.sources hb.sources ?_⟩
  · intro e he
    rcases List.mem_append.mp he with he | he
    · obtain ⟨n, hn, h⟩ := hg.source e he
      exact ⟨n, List.mem_append_left _ hn, h⟩
    · obtain ⟨n, hn, h⟩ := hb.source e he
      exact ⟨n, List.mem_append_right _ hn, h⟩
  · intro e he
    rcases List.mem_append.mp he with he | he
    · obtain ⟨n, hn, h⟩ := hg.target e he
      exact ⟨n, List.mem_append_left _ hn, h⟩
    · obtain ⟨n, hn, h⟩ := hb.target e he
      exact ⟨n, List.mem_append_right _ hn, h⟩
  · intro e he
    rcases List.mem_append.mp he with he | he
    · exact hg.noLoop e he
    · exact hb.noLoop e he
  -- Edges of different parts have different sources, since these are nodes of their parts.
  · intro e he f hf
    obtain ⟨m, hm, hsource, -⟩ := hg.source e he
    obtain ⟨n, hn, hsource', -⟩ := hb.source f hf
    rw [← hsource, ← hsource']
    exact hapart m hm n hn

end Beside

end Graph

/-! ## Compilation -/

/-- What two graphs compile to, as what one graph compiles to. -/
def Compiled.append (c d : Compiled) : Compiled where
  settings := ⟨schemaVersion, c.settings.records ++ d.settings.records⟩
  elided := c.elided ++ d.elided
  droppedParents := c.droppedParents ++ d.droppedParents

namespace Graph

variable {g b : Graph} {c d : Compiled}

/-- Graphs side by side compile to the records of both. -/
theorem compile_beside (hg : g.Valid) (hb : b.Valid) (hapart : g.Apart b) (hc : g.compile = .ok c)
    (hd : b.compile = .ok d) : (g.beside b).compile = .ok (c.append d) := by
  have hleft := isPart_left hg hb hapart
  have hright := isPart_right hg hb hapart
  obtain ⟨hrecords, -, helided, hdropped⟩ := compile_eq_ok.mp hc
  obtain ⟨hrecords', -, helided', hdropped'⟩ := compile_eq_ok.mp hd
  have hemitting : (g.beside b).emitting = g.emitting ++ b.emitting := List.filter_append ..
  have hmade : ∀ {p : Graph} {rs : List Record}, IsPart p (g.beside b) →
      List.Forall₂ (fun n r => p.compileNode n = .ok r) p.emitting rs →
      List.Forall₂ (fun n r => (g.beside b).compileNode n = .ok r) p.emitting rs := by
    intro p rs hpart hrecords
    refine ((List.forall₂_and_left _ _).mpr ⟨fun _ hn => hn, hrecords⟩).imp fun n r ⟨hn, hr⟩ => ?_
    rw [hpart.compileNode (mem_emitting.mp hn).1, hr]
  have hcrowded : ∀ {p : Graph}, IsPart p (g.beside b) →
      p.emitting.filter (fun n => 1 < ((g.beside b).incoming n.id).length) =
        p.emitting.filter fun n => 1 < (p.incoming n.id).length := by
    intro p hpart
    refine List.filter_congr fun n hn => ?_
    rw [hpart.incoming n (mem_emitting.mp hn).1]
  rw [compile_eq_ok, hemitting]
  refine ⟨List.rel_append (hmade hleft hrecords) (hmade hright hrecords'), rfl, ?_, ?_⟩
  · rw [Compiled.append, helided, helided', ← List.map_append]
    exact congrArg _ (List.filter_append ..).symm
  · rw [Compiled.append, hdropped, hdropped', ← List.map_append, List.filter_append,
      hcrowded hleft, hcrowded hright]

end Graph
end DetectionFlow
