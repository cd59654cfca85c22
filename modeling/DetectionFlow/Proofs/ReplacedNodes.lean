import DetectionFlow.Proofs.EditTheorems
import DetectionFlow.Proofs.CompiledTheorems

/-!
# Nodes that are replaced

If a node is replaced by another one of its kind, no edge changes, and so the walk upwards from any node ends
where it ended, perhaps with the new node in the place of the old (`Graph.ancestry_replaceNode`). Only an
Object is looked into from below: if another node is replaced, whatever is compiled of any node stays the same
(`Graph.compileNode_replaceNode`).
-/

namespace DetectionFlow

/-- The node itself, or the new one that has its identifier. -/
def Node.renewed (new n : Node) : Node := if n.id = new.id then new else n

lemma Node.renewed_id (new n : Node) : (new.renewed n).id = n.id := by
  unfold renewed
  split
  next h => exact h.symm
  next => rfl

lemma Node.renewed_of_ne {new n : Node} (h : n.id ≠ new.id) : new.renewed n = n := if_neg h

namespace Graph

/-- What the walk ends at, with the new node in the place of the old. -/
def Ancestry.renewed (new : Node) : Ancestry → Ancestry
  | .object n => .object (new.renewed n)
  | a => a

/-- The node that is to be replaced is of the kind of the new one. -/
def Fits (g : Graph) (new : Node) : Prop := ∀ n ∈ g.nodes, n.id = new.id → n.kind = new.kind

variable {g : Graph} {new n : Node}

lemma Fits.renewed_kind (h : g.Fits new) (hn : n ∈ g.nodes) : (new.renewed n).kind = n.kind := by
  unfold Node.renewed
  split
  next hid => exact (h n hn hid).symm
  next => rfl

/-- In a valid graph the node of the identifier is the only one. -/
lemma Valid.fits (hg : g.Valid) (hn : n ∈ g.nodes) (hid : n.id = new.id) (hkind : n.kind = new.kind) :
    g.Fits new := by
  intro m hm hmid
  rwa [hg.node_ext hm hn (hmid.trans hid.symm)]

lemma node?_replaceNode_eq (g : Graph) (new : Node) (id : String) :
    (g.replaceNode new).node? id = (g.node? id).map new.renewed := by
  show (g.nodes.map new.renewed).find? _ = _
  rw [List.find?_map, node?]
  congr 2
  funext m
  simp [Node.renewed_id]

/-- An update with fields that can be used makes the new node. -/
lemma updateNode_makes {d : Draft} {id : String} {label : Option String} {fields : Fields}
    {payload : Payload} (hn : d.graph.node? id = some n) (hfields : fields.isEmpty = false)
    (hpayload : n.payload.update fields = .ok payload) :
    (updateNode id label fields d).Makes
      (d.graph.replaceNode { n with label := label.getD n.label, payload := payload })
      ⟨.updateNode, id⟩ { n with label := label.getD n.label, payload := payload } := by
  unfold updateNode
  simp only [Editing.current_bind, Editing.ofGraph_bind, Editing.put_bind, getNode_eq_ok.mpr hn,
    hfields, Bool.false_eq_true, if_false, hpayload]
  exact ⟨rfl, rfl, rfl⟩

/-! ## Walks upwards -/

lemma ascend_replaceNode (h : g.Fits new) (steps : Nat) (visited : List String) (id : String) :
    (g.replaceNode new).ascend steps visited id = (g.ascend steps visited id).renewed new := by
  -- No edge changes, so both walks pass the same identifiers, and the kinds there decide where they end.
  induction steps generalizing visited id with
  | zero => rfl
  | succ steps ih =>
    have hfeeder : (g.replaceNode new).feeder? id = g.feeder? id := rfl
    rw [ascend, ascend, hfeeder]
    cases g.feeder? id with
    | none => rfl
    | some above =>
      dsimp only
      by_cases hvisited : visited.contains above = true
      · rw [if_pos hvisited, if_pos hvisited]
        rfl
      · rw [if_neg hvisited, if_neg hvisited, node?_replaceNode_eq]
        cases hn : g.node? above with
        | none => rfl
        | some n =>
          rw [Option.map_some]
          dsimp only
          rw [h.renewed_kind (node?_eq_some hn).1]
          split
          · rfl
          · exact ih _ _

lemma ancestry_replaceNode (h : g.Fits new) (id : String) :
    (g.replaceNode new).ancestry id = (g.ancestry id).renewed new :=
  ascend_replaceNode h _ _ _

/-- The target of a node is the same if the Object above it was not replaced. -/
lemma resolveTarget_replaceNode_of_ne (h : g.Fits new) {id : String}
    (hne : ∀ m, g.ancestry id = .object m → m.id ≠ new.id) :
    (g.replaceNode new).resolveTarget id = g.resolveTarget id := by
  have hsame : (g.replaceNode new).ancestry id = g.ancestry id := by
    rw [ancestry_replaceNode h]
    cases hancestry : g.ancestry id with
    | object m => rw [Ancestry.renewed, Node.renewed_of_ne (hne m hancestry)]
    | _ => rfl
  rw [resolveTarget, resolveTarget, hsame]

/-- A node that is no Object gives no target. -/
lemma resolveTarget_replaceNode (h : g.Fits new) (hkind : new.kind ≠ .object) (id : String) :
    (g.replaceNode new).resolveTarget id = g.resolveTarget id := by
  refine resolveTarget_replaceNode_of_ne h fun m hancestry hid => ?_
  obtain ⟨hm, hobject⟩ := object_of_ascend hancestry
  exact hkind (h m hm hid ▸ hobject)

/-! ## Records -/

lemma parentId?_replaceNode (h : g.Fits new) (id : String) :
    (g.replaceNode new).parentId? id = g.parentId? id := by
  have hfeeder : (g.replaceNode new).feeder? id = g.feeder? id := rfl
  rw [parentId?, parentId?, hfeeder]
  cases g.feeder? id with
  | none => rfl
  | some above =>
    dsimp only
    rw [node?_replaceNode_eq]
    cases hn : g.node? above with
    | none => rfl
    | some n =>
      rw [Option.map_some]
      dsimp only
      rw [h.renewed_kind (node?_eq_some hn).1, Node.renewed_id]

/-- What is compiled of a node does not depend on another node that is no Object. -/
lemma compileNode_replaceNode (h : g.Fits new) (hkind : new.kind ≠ .object) (n : Node) :
    (g.replaceNode new).compileNode n = g.compileNode n := by
  have hheader : (g.replaceNode new).headerFields n = g.headerFields n := by
    rw [headerFields, headerFields, parentId?_replaceNode h]
  have hfields : (g.replaceNode new).payloadFields n = g.payloadFields n := by
    rw [payloadFields, payloadFields, resolveTarget_replaceNode h hkind]
  rw [compileNode, compileNode, hheader, hfields]

end Graph
end DetectionFlow
