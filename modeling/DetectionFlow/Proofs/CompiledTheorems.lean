import DetectionFlow.Compiled
import DetectionFlow.Proofs.CheckedTheorems
import DetectionFlow.Proofs.GraphInvariant
import DetectionFlow.Proofs.NotedTheorems

/-!
# What compilation yields

A graph compiles exactly if every node that has a record does (`Graph.compile_eq_ok`), and the record of
a node is read from its fields (`Graph.compileNode_eq_ok`). Whatever the payload, the header of the record
is that of the node (`Graph.heads_of_compileNode`).
-/

namespace DetectionFlow

open Checked

namespace Graph

variable {g : Graph}

/-! ## The record of a node -/

lemma compileNode_eq_ok {n : Node} {r : Record} :
    g.compileNode n = .ok r ↔ ∃ fields, g.payloadFields n = .ok fields ∧
      Record.checkFields n.kind (g.headerFields n ++ fields) = ok r := by
  have hread : ((do
      let fields ← g.payloadFields n
      (Record.checkFields n.kind (g.headerFields n ++ fields)).toFailure : Except Failure Record)
        = .ok r) ↔ ∃ fields, g.payloadFields n = .ok fields ∧
          Record.checkFields n.kind (g.headerFields n ++ fields) = ok r := by
    simp only [Except.bind_eq_ok, toFailure_eq_ok]
  rw [← hread, compileNode]
  split
  next heq => rw [heq]
  next heq => simp [heq]

/-- The header of a compiled record. -/
structure Heads (g : Graph) (n : Node) (r : Record) : Prop where
  id : r.id = n.id
  name : r.name = n.label
  parent : r.parent = g.parentId? n.id
  kind : r.body.kind = n.kind
  nonempty : n.id.isEmpty = false
  whole : Text.Half.isIn n.id = false

/-- Whatever the payload of a node, its record has the identifier, the label and the kind of the
node, and the parent that the edges give. -/
lemma heads_of_compileNode {n : Node} {r : Record} (h : g.compileNode n = .ok r) :
    g.Heads n r := by
  obtain ⟨fields, -, hread⟩ := compileNode_eq_ok.mp h
  obtain ⟨hid, hname, hparent, -, hbody⟩ := Record.checkFields_eq_ok.mp hread
  have hid' : (Reader.name (.text n.id)).under (.field "eventSettingId") = ok r.id := hid
  have hname' : (Reader.text (.text n.label)).under (.field "eventSettingName") = ok r.name := hname
  have hparent' : (Reader.nullable Reader.text (Value.ofText? (g.parentId? n.id))).under
      (.field "parentId") = ok r.parent := hparent
  rw [under_eq_ok, Reader.name_text] at hid'
  rw [under_eq_ok, Reader.text_text, ok_inj] at hname'
  rw [under_eq_ok, Reader.nullable_text_ofText?, ok_inj] at hparent'
  exact ⟨hid'.1, hname'.symm, hparent'.symm, Record.kind_bodyOf hbody, hid'.2.1, hid'.2.2⟩

/-! ## The records of a graph -/

/-- A graph is compiled node by node. -/
lemma compile_eq_ok {c : Compiled} :
    g.compile = .ok c ↔
      List.Forall₂ (fun n r => g.compileNode n = .ok r) g.emitting c.settings.records ∧
      c.settings.version = schemaVersion ∧ c.elided = g.elided.map (·.id) ∧
      c.droppedParents = (g.emitting.filter fun n => 1 < (g.incoming n.id).length).map (·.id) := by
  unfold compile
  rw [Except.bind_eq_ok]
  constructor
  · rintro ⟨records, hrecords, hc⟩
    obtain rfl := Except.ok.inj hc
    exact ⟨Except.mapM_eq_ok.mp hrecords, rfl, rfl, rfl⟩
  · rintro ⟨hrecords, hversion, helided, hdropped⟩
    refine ⟨c.settings.records, Except.mapM_eq_ok.mpr hrecords, ?_⟩
    rw [← helided, ← hdropped, ← hversion]
    rfl

/-! ## Parents -/

lemma mem_incoming {e : Edge} {id : String} : e ∈ g.incoming id ↔ e ∈ g.edges ∧ e.target = id := by
  simp [incoming]

lemma feeder?_eq_some {id above : String} (h : g.feeder? id = some above) :
    ∃ e ∈ g.edges, e.source = above ∧ e.target = id := by
  obtain ⟨e, he, hsource⟩ := Option.map_eq_some_iff.mp h
  obtain ⟨hmem, htarget⟩ := mem_incoming.mp (List.mem_of_head? he)
  exact ⟨e, hmem, hsource, htarget⟩

/-- A parent feeds the node and has a record. -/
lemma parentId?_eq_some {id above : String} (h : g.parentId? id = some above) :
    g.feeder? id = some above ∧ ∃ m, g.node? above = some m ∧ m.kind.emits = true := by
  unfold parentId? at h
  cases hfeeder : g.feeder? id with
  | none => simp [hfeeder] at h
  | some source =>
    cases hnode : g.node? source with
    | none => simp [hfeeder, hnode] at h
    | some m =>
      simp only [hfeeder, hnode, Option.ite_none_right_eq_some, Option.some.injEq] at h
      obtain ⟨hemits, rfl⟩ := h
      obtain ⟨-, rfl⟩ := node?_eq_some hnode
      exact ⟨rfl, m, hnode, hemits⟩

lemma parentId?_of_feeder? {id above : String} {m : Node} (hfeeder : g.feeder? id = some above)
    (hnode : g.node? above = some m) (hemits : m.kind.emits = true) :
    g.parentId? id = some above := by
  obtain ⟨-, rfl⟩ := node?_eq_some hnode
  rw [parentId?, hfeeder]
  dsimp only
  rw [hnode]
  exact if_pos hemits

/-! ## Targets -/

/-- What a walk upwards ends at is an Object of the graph. -/
lemma object_of_ascend {steps : Nat} {visited : List String} {id : String} {n : Node}
    (h : g.ascend steps visited id = .object n) : n ∈ g.nodes ∧ n.kind = .object := by
  induction steps generalizing visited id with
  | zero => simp [ascend] at h
  | succ steps ih =>
    unfold ascend at h
    split at h
    · simp at h
    next above _ =>
      split at h
      · simp at h
      · split at h
        · simp at h
        next m hm =>
          split at h
          next hkind =>
            rw [← Ancestry.object.inj h]
            exact ⟨(node?_eq_some hm).1, by simpa [Kind.providesTarget] using hkind⟩
          next => exact ih h

/-- Without an Object above it, a node has no target. -/
lemma resolveTarget_of_ne_object {id : String} (h : ∀ o, g.ancestry id ≠ .object o) :
    g.resolveTarget id = ok none := by
  unfold resolveTarget
  split
  next heq => exact absurd heq (h _)
  next => rfl

end Graph
end DetectionFlow
