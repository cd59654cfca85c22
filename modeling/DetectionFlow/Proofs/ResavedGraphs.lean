import DetectionFlow.Proofs.CompiledBodies
import DetectionFlow.Proofs.DepthPlacement
import DetectionFlow.Proofs.RecodedAlarms

/-!
# Restored graphs are saved again

A graph that was restored from sound records compiles, and its records are those that were placed
(`Saved.compile_restored`), in the order of their nodes. `Saved.resaved` says what becomes of a record on
the way: it has a name, it hangs below its parent only if it is the last to do so, its target is gone, and
the text of an alarm was written again.
-/

namespace DetectionFlow

open Checked

/-! ## Bodies -/

namespace Body

/-- The payload that a body is restored to. -/
def payload : Body → Payload
  | zone points _ detectionPoint => .zone points (Value.ofText? detectionPoint)
  | line points direction _ detectionPoint => .line points direction (Value.ofText? detectionPoint)
  | count condition => .count (.text condition)
  | timeout seconds => .timeout seconds.toValue
  | speed turn => .speed (match turn with | some n => .int n | none => .null)
  | merge inOrder => .merge (match inOrder with | some b => .bool b | none => .null)
  | alarm ext => .alarm (Alarm.restored ext)

/-- The body that is saved of a restored one: without a target, and with the text of an alarm written
again. -/
def resaved : Body → Body
  | zone points _ detectionPoint => zone points none detectionPoint
  | line points direction _ detectionPoint => line points direction none detectionPoint
  | alarm ext => alarm (Alarm.recoded ext)
  | b => b

@[simp] lemma kind_payload (b : Body) : b.payload.kind = b.kind := by
  cases b <;> rfl

@[simp] lemma kind_resaved (b : Body) : b.resaved.kind = b.kind := by
  cases b <;> rfl

/-- What was saved of a restored body is saved the same again. -/
lemma resaved_resaved (b : Body) : b.resaved.resaved = b.resaved := by
  cases b with
  | alarm ext => exact congrArg alarm (Alarm.recoded_recoded ext)
  | _ => rfl

lemma Sound.resaved {b : Body} (h : b.Sound) : b.resaved.Sound := by
  cases b with
  | zone => exact ⟨h.1, h.2.1, by simp⟩
  | line => exact ⟨h.1, h.2.1, by simp⟩
  | timeout => exact h
  | _ => exact trivial

/-- Where there is no target above, the payload of a sound body is read as what is saved of the body. -/
lemma Sound.readAs {b : Body} (h : b.Sound) : b.payload.ReadAs (ok none) b.resaved := by
  cases b with
  | zone points target point =>
    exact .zone rfl nofun h.1 h.2.1 (Reader.nullable_text_ofText? point)
  | line points direction target point =>
    exact .line direction rfl nofun h.1 h.2.1 (Reader.nullable_text_ofText? point)
  | count condition => exact .count (Reader.text_text condition)
  | timeout seconds => exact .timeout (Reader.seconds_toValue h)
  | speed turn => exact .speed (by cases turn <;> rfl)
  | merge inOrder =>
    cases inOrder with
    | none => exact .merge rfl
    | some b => cases b <;> exact .merge rfl
  | alarm ext => exact .alarm (Alarm.encode_restored ext)

end Body

namespace Graph

variable {g : Graph} {n : Node}

lemma exists_feeder {e : Edge} {id : String} (h : e ∈ g.incoming id) :
    ∃ source, g.feeder? id = some source := by
  unfold feeder?
  cases hincoming : g.incoming id with
  | nil => simp [hincoming] at h
  | cons f rest => exact ⟨f.source, rfl⟩

/-! ## Graphs without Objects -/

lemma resolveTarget_of_no_object (hnone : ∀ m ∈ g.nodes, m.kind ≠ .object) (id : String) :
    g.resolveTarget id = ok none :=
  resolveTarget_of_ne_object fun o ho => hnone o (object_of_ascend ho).1 (object_of_ascend ho).2

end Graph

namespace Saved

open Placed

/-! ## Nodes of records -/

variable {entries : List Saved} {ids : IdSource} {restored : Restored}

lemma payloadOf_eq_ok {r : Record} {p : Payload} (h : (payloadOf r).result = .ok p) :
    p = r.body.payload := by
  unfold payloadOf at h
  cases hbody : r.body with
  | alarm ext =>
    simp only [hbody] at h
    cases hdecode : Alarm.decode ext with
    | ok bindings =>
      rw [hdecode] at h
      obtain rfl := Except.ok.inj h
      rw [Body.payload, Alarm.restored_of_decode hdecode]
    | error f =>
      have hnone : Alarm.restored ext = [] := by
        rw [Alarm.restored, hdecode]
        rfl
      rw [hdecode] at h
      rw [Body.payload, hnone]
      cases hfamily : f.family <;> simp [hfamily, Noted.fail] at h <;> exact h.symm
  | _ =>
    simp only [hbody] at h
    exact (Except.ok.inj h).symm

/-- The node of a placed record has the payload of its body. -/
lemma nodeOf_payload {t : Placed} {n : Node} (h : (nodeOf t).result = .ok n) :
    n.payload = t.record.body.payload :=
  payloadOf_eq_ok (payload_of_nodeOf h)

/-! ## Edges of records -/

lemma lastLink?_eq_some {r : Record} {l : String × String} :
    lastLink? entries r = some l ↔
      IsLastChild entries r ∧ r.parent = some l.1 ∧ r.id = l.2 := by
  unfold lastLink?
  split
  next hlast =>
    rw [Option.map_eq_some_iff]
    constructor
    · rintro ⟨p, hp, rfl⟩
      exact ⟨hlast, hp, rfl⟩
    · rintro ⟨-, hp, hid⟩
      exact ⟨l.1, hp, Prod.ext rfl hid⟩
  next hlast => simp [hlast]

section Restoration

variable (h : Yields entries ids restored)

include h

/-- Placed records are joined where one is the last child of the other. -/
lemma Yields.exists_edge {source target : String} :
    (∃ e ∈ restored.graph.edges, e.source = source ∧ e.target = target) ↔
      ∃ r ∈ placedRecords entries, lastLink? entries r = some (source, target) := by
  rw [← List.mem_filterMap, ← @restoredEdges_ends entries ids, ← h.edges, List.mem_map]
  simp only [Prod.mk.injEq]

/-- A node takes as the stage above it the parent that its record is the last child of. -/
lemma Yields.feeder? {r : Record} (hr : r ∈ placedRecords entries) :
    restored.graph.feeder? r.id = (lastLink? entries r).map (·.1) := by
  have hsame : ∀ {source : String}, restored.graph.feeder? r.id = some source →
      lastLink? entries r = some (source, r.id) := by
    intro source hsource
    obtain ⟨e, he, hends⟩ := Graph.feeder?_eq_some hsource
    obtain ⟨s, hs, hlink⟩ := h.exists_edge.mp ⟨e, he, hends⟩
    obtain rfl := placedRecords_ext hs hr (lastLink?_eq_some.mp hlink).2.2
    exact hlink
  cases hlink : lastLink? entries r with
  | none =>
    cases hfeeder : restored.graph.feeder? r.id with
    | none => rfl
    | some source => simp [hsame hfeeder] at hlink
  | some l =>
    obtain ⟨-, -, hid⟩ := lastLink?_eq_some.mp hlink
    obtain ⟨e, he, -, htarget⟩ := h.exists_edge.mpr ⟨r, hr, hlink⟩
    have hin : e ∈ restored.graph.incoming r.id :=
      Graph.mem_incoming.mpr ⟨he, htarget.trans hid.symm⟩
    obtain ⟨source, hsource⟩ := Graph.exists_feeder hin
    rw [hsource, Option.some.inj (hlink.symm.trans (hsame hsource))]
    rfl

/-- The nodes of a restored graph have records. -/
lemma Yields.exists_body {n : Node} (hn : n ∈ restored.graph.nodes) :
    ∃ r ∈ placedRecords entries, n.id = r.id ∧ n.label = labelOf r ∧ n.payload = r.body.payload := by
  obtain ⟨t, ht, hmade⟩ := h.exists_placed hn
  obtain ⟨hid, hlabel, -⟩ := nodeOf_ok hmade
  refine ⟨t.record, ?_, hid, hlabel, nodeOf_payload hmade⟩
  rw [← placed_records]
  exact List.mem_map_of_mem ht

lemma Yields.emits {n : Node} (hn : n ∈ restored.graph.nodes) : n.kind.emits = true := by
  obtain ⟨r, -, -, -, hpayload⟩ := h.exists_body hn
  rw [Node.kind, hpayload, Body.kind_payload, Kind.emits, Body.recordType?_kind]
  rfl

/-- The record of a node names that parent. -/
lemma Yields.parentId? {r : Record} (hr : r ∈ placedRecords entries) :
    restored.graph.parentId? r.id = (lastLink? entries r).map (·.1) := by
  have hfeeder := h.feeder? hr
  cases hlink : lastLink? entries r with
  | none =>
    rw [hlink] at hfeeder
    rw [Graph.parentId?, hfeeder]
    rfl
  | some l =>
    rw [hlink] at hfeeder
    obtain ⟨hlast, hparent, hid⟩ := lastLink?_eq_some.mp hlink
    rw [← placed_records] at hr
    obtain ⟨t, ht, rfl⟩ := List.mem_map.mp hr
    have hmem : (l.1, t.record.id) ∈ links (placing entries).placed :=
      List.mem_filterMap.mpr ⟨t, ht, link?_of_parent ht hlast.1 hparent⟩
    obtain ⟨m, hm, hmId, -⟩ := (joins_of_placed h.nodes _ hmem).source
    have hnode : restored.graph.node? l.1 = some m := hmId ▸ find?_of_nodup (nodeIds_nodup h.nodes) hm
    exact Graph.parentId?_of_feeder? hfeeder hnode (h.emits hm)

/-- No node of a restored graph is fed by two others. -/
lemma Yields.incoming_length (id : String) : (restored.graph.incoming id).length ≤ 1 := by
  rw [Graph.incoming, h.edges]
  exact length_filter_of_nodup restoredEdges_targets_nodup id

end Restoration

/-! ## The records of a restored graph -/

/-- What is saved of a placed record after its restoration. -/
def resaved (entries : List Saved) (r : Record) : Record :=
  ⟨r.id, labelOf r, (lastLink? entries r).map (·.1), r.body.resaved⟩

/-- A graph that was restored from sound records compiles to what is saved of those that were placed, in
their order. -/
theorem compile_restored (h : Yields entries ids restored)
    (hsound : ∀ r ∈ kept entries, r.Sound) :
    restored.graph.compile =
      .ok ⟨⟨schemaVersion, (placedRecords entries).map (resaved entries)⟩, [], []⟩ := by
  have hemitting : restored.graph.emitting = restored.graph.nodes :=
    List.filter_eq_self.mpr fun n hn => h.emits hn
  have helided : restored.graph.elided = [] :=
    List.filter_eq_nil_iff.mpr fun n hn => by simp [h.emits hn]
  have hobject : ∀ m ∈ restored.graph.nodes, m.kind ≠ .object := by
    intro m hm heq
    have := h.emits hm
    rw [heq] at this
    exact absurd this (by decide)
  rw [Graph.compile_eq_ok]
  refine ⟨?_, rfl, by rw [helided]; rfl, ?_⟩
  · rw [hemitting, List.forall₂_map_right_iff, ← placed_records, List.forall₂_map_right_iff]
    refine ((List.forall₂_and_left _ _).mpr ⟨fun _ ht => ht, h.nodes⟩).flip.imp ?_
    rintro n t ⟨ht, hmade⟩
    obtain ⟨hid, hlabel, -⟩ := nodeOf_ok hmade
    have hkept := hsound t.record (mem_kept_of_placed ht)
    have hplaced : t.record ∈ placedRecords entries := placed_records ▸ List.mem_map_of_mem ht
    have hread : n.payload.ReadAs (restored.graph.resolveTarget n.id) t.record.body.resaved := by
      rw [nodeOf_payload hmade, Graph.resolveTarget_of_no_object hobject]
      exact hkept.body.readAs
    have hcompiled :=
      Graph.compileNode_of_readAs (hid ▸ hkept.nonempty) (hid ▸ hkept.whole) hread
    rw [hcompiled, resaved, hid, hlabel, h.parentId? hplaced]
  · symm
    rw [hemitting, List.map_eq_nil_iff, List.filter_eq_nil_iff]
    intro n _
    have := h.incoming_length n.id
    simpa using this

end Saved
end DetectionFlow
