import DetectionFlow.Proofs.DocumentFiles
import DetectionFlow.Proofs.DocumentTheorems
import DetectionFlow.Proofs.PayloadFaults
import DetectionFlow.Proofs.PlainPayloads

/-!
# Documents that make no graph

The graph of a document that was read fails by the rules of graphs, or as the first entry does that breaks
in a way that a graph has no word for (`NodeEntry.Breaks`, `Document.toGraph_escapes`): a field that no
field can be called, or a point or a direction that is not admitted. Edges never break in such a way
(`Document.rejects_connectEntries`).
-/

namespace DetectionFlow

open Checked Editing DetectionFlow.Graph

/-! ## Operations that fail by the rules of graphs -/

/-- The failure is one of the rules of graphs. -/
def Failure.IsGraph (e : Failure) : Prop := ∃ g, e = .graph g

lemma Failure.isGraph_graph (g : GraphError) : (Failure.graph g).IsGraph := ⟨g, rfl⟩

/-- The operation fails by the rules of graphs alone. -/
def Editing.Rejects {α : Type} (m : Editing α) : Prop :=
  ∀ d e, (m d).result = .error e → e.IsGraph

namespace Editing

variable {α β : Type} {m : Editing α} {f : α → Editing β}

lemma rejects_of_ok (h : ∀ d, ∃ a, (m d).result = .ok a) : m.Rejects := by
  intro d e he
  obtain ⟨a, ha⟩ := h d
  cases ha.symm.trans he

lemma rejects_fail (g : GraphError) : (fail (.graph g) : Editing α).Rejects := by
  intro d e he
  cases he
  exact Failure.isGraph_graph g

lemma rejects_ofGraph (x : Except GraphError α) : (ofGraph x).Rejects := by
  cases x with
  | ok a => exact rejects_of_ok fun d => ⟨a, rfl⟩
  | error g => exact rejects_fail g

lemma rejects_identifier (given : Option String) : (identifier given).Rejects := by
  refine rejects_of_ok fun d => ?_
  unfold identifier
  split
  · split <;> exact ⟨_, rfl⟩
  · exact ⟨_, rfl⟩

lemma Rejects.bind (hm : m.Rejects) (hf : ∀ a, (f a).Rejects) : (m >>= f).Rejects := by
  intro d e he
  rcases bind_result_eq_error.mp he with he | ⟨a, -, he⟩
  · exact hm d e he
  · exact hf a _ e he

end Editing

namespace Graph

lemma rejects_connect (source target : String) (id : Option String) :
    (connect source target id).Rejects := by
  unfold connect
  refine Rejects.bind (rejects_of_ok fun d => ⟨_, rfl⟩) fun g => ?_
  refine (rejects_ofGraph _).bind fun feeder => (rejects_ofGraph _).bind fun fed => ?_
  refine (rejects_ofGraph _).bind fun _ => (rejects_identifier id).bind fun id => ?_
  split
  · exact rejects_fail _
  · exact Rejects.bind (rejects_of_ok fun d => ⟨_, rfl⟩) fun _ => rejects_of_ok fun d => ⟨_, rfl⟩

end Graph

namespace Document

lemma rejects_connectEntries (es : List EdgeEntry) : (connectEntries es).Rejects := by
  induction es with
  | nil => exact rejects_of_ok fun d => ⟨_, rfl⟩
  | cons e rest ih => exact (rejects_connect e.source e.target e.id).bind fun _ => ih

end Document

/-! ## Entries -/

/-- A name is not empty. -/
lemma Reader.nonempty_of_name {v : Value} {s : String} (h : Reader.name v = ok s) :
    s.isEmpty = false := by
  unfold Reader.name at h
  split at h
  · exact absurd h wrong_ne_ok
  · obtain ⟨t, -, h⟩ := andThen_eq_ok.mp h
    split at h
    · exact absurd h wrong_ne_ok
    next hempty =>
      rw [← ok_inj.mp h]
      exact Bool.eq_false_iff.mpr hempty

namespace NodeEntry

/-- The payload of an entry, or the failure of the entry. -/
def payload (n : NodeEntry) : Except Failure Payload :=
  if Document.hasBadName n then .error (.fault .badFieldName)
  else match Payload.build n.kind n.data with
    | .ok p => .ok p
    | .error f => .error (fieldsFailure n.kind f)

/-- The node of an entry in a graph, with a payload that was made of the fields. -/
def nodeIn (n : NodeEntry) (g : Graph) (p : Payload) : Node :=
  ⟨n.id, n.label.getD (g.nextLabel n.kind), [.float n.x, .float n.y], p⟩

/-- What is wrong with an entry other than what a graph has a word for. -/
inductive Breaks (n : NodeEntry) : Fault → Prop
  /-- A field has a name that is taken, or a key that is no text. -/
  | name (h : n.badKeys ≠ [] ∨ ∃ f ∈ n.data, f.1 ∈ Document.reservedNames) : Breaks n .badFieldName
  /-- All names are in order, but a point or the direction is not. -/
  | area {f : Fault} (hkeys : n.badKeys = []) (hnames : Payload.Named n.kind n.data)
      (h : Payload.AreaFault n.kind n.data f) : Breaks n f

variable {n : NodeEntry}

/-- The identifier of an entry that was read is a name. -/
lemma nonempty_of_read {v : Value} (h : read v = ok n) : n.id.isEmpty = false := by
  obtain ⟨entries, -, hfields, -⟩ := Reader.strict_eq_ok h
  simp only [seq_eq_ok, map_eq_ok] at hfields
  obtain ⟨_, data, ⟨_, position, ⟨_, label, ⟨_, kind, ⟨id, hid, rfl⟩, -, rfl⟩, -, rfl⟩, -, rfl⟩, -, rfl⟩ :=
    hfields
  obtain ⟨_, w, -, hname⟩ := Reader.required_eq_ok hid
  exact Reader.nonempty_of_name hname

lemma hasBadName_iff : Document.hasBadName n = true ↔
    n.badKeys ≠ [] ∨ ∃ f ∈ n.data, f.1 ∈ Document.reservedNames := by
  simp [Document.hasBadName]

lemma hasBadName_of_named (hkeys : n.badKeys = []) (hnames : Payload.Named n.kind n.data) :
    ¬ Document.hasBadName n = true := by
  rw [hasBadName_iff]
  rintro (hbad | ⟨f, hf, hreserved⟩)
  · exact hbad hkeys
  · have hfree := Payload.fieldNames_not_reserved n.kind f.1 (hnames f hf)
    simp [hreserved] at hfree

/-- An entry fails other than by the rules of graphs exactly if it breaks. -/
lemma payload_escapes {e : Failure} :
    (n.payload = .error e ∧ ¬ e.IsGraph) ↔ ∃ f, e = .fault f ∧ n.Breaks f := by
  constructor
  · rintro ⟨h, hother⟩
    unfold payload at h
    split at h
    next hbad =>
      cases h
      exact ⟨_, rfl, .name (hasBadName_iff.mp hbad)⟩
    next hgood =>
      split at h
      · cases h
      next f hbuild =>
        cases h
        -- A fault of type is one of the errors of graphs.
        have hf : f.family ≠ .wrongType := by
          intro htype
          rw [fieldsFailure, if_pos htype] at hother
          exact hother (Failure.isGraph_graph _)
        obtain ⟨hnames, harea⟩ := Payload.build_eq_error_iff.mp ⟨hbuild, hf⟩
        refine ⟨f, if_neg hf, .area ?_ hnames harea⟩
        by_contra hkeys
        exact hgood (hasBadName_iff.mpr (.inl hkeys))
  · rintro ⟨f, rfl, hbreaks⟩
    have hother : ¬ (Failure.fault f).IsGraph := by
      rintro ⟨g, ⟨⟩⟩
    refine ⟨?_, hother⟩
    cases hbreaks with
    | name h => rw [payload, if_pos (hasBadName_iff.mpr h)]
    | area hkeys hnames harea =>
      obtain ⟨hbuild, hf⟩ := Payload.build_eq_error_iff.mpr ⟨hnames, harea⟩
      rw [payload, if_neg (hasBadName_of_named hkeys hnames), hbuild]
      exact congrArg Except.error (if_neg hf)

end NodeEntry

/-! ## Entries one after the other -/

namespace Document

variable {n : NodeEntry} {ns : List NodeEntry} {d : Draft}

/-- The entry of a new identifier adds its node with the payload, or fails as the payload does. -/
lemma addEntry_outcome (hnamed : n.id.isEmpty = false) (hfresh : d.graph.hasNode n.id = false) :
    (∃ e, n.payload = .error e ∧ (addEntry n d).result = .error e) ∨
      ∃ p, n.payload = .ok p ∧
        (addEntry n).Leads d () ⟨⟨d.graph.nodes ++ [n.nodeIn d.graph p], d.graph.edges⟩, d.ids⟩ := by
  unfold NodeEntry.payload addEntry
  by_cases hbad : hasBadName n = true
  · rw [if_pos hbad, if_pos hbad]
    exact .inl ⟨_, rfl, rfl⟩
  · rw [if_neg hbad, if_neg hbad]
    have hpick : d.ids.pick (some n.id) = (n.id, d.ids) := by simp [IdSource.pick, hnamed]
    have hposition : positionOf (.list [.float n.x, .float n.y]) = .ok [.float n.x, .float n.y] := rfl
    cases hbuild : Payload.build n.kind n.data with
    | error f =>
      refine .inl ⟨_, rfl, bind_result_eq_error.mpr (.inl ?_)⟩
      simp [addNode, hpick, hfresh, hbuild, payloadOr]
    | ok p =>
      have hadd : (addNode ⟨n.kind, .list [.float n.x, .float n.y], n.label, some n.id, n.data⟩).Leads d
          (n.nodeIn d.graph p) ⟨⟨d.graph.nodes ++ [n.nodeIn d.graph p], d.graph.edges⟩, d.ids⟩ := by
        constructor <;>
          simp [addNode, hpick, hfresh, hbuild, payloadOr, hposition, NodeEntry.nodeIn]
      exact .inr ⟨p, rfl, hadd.bind (leads_done () _)⟩

/-- Identifiers that are still to come are new also beside the node that was just added. -/
lemma hasNode_beside_nodeIn {g : Graph} (p : Payload) (edges : List Edge)
    (hids : n.id ∉ ns.map (·.id)) (hfresh : ∀ m ∈ ns, g.hasNode m.id = false) :
    ∀ m ∈ ns, hasNode ⟨g.nodes ++ [n.nodeIn g p], edges⟩ m.id = false := by
  intro m hm
  have hne : n.id ≠ m.id := fun heq => hids (heq ▸ List.mem_map_of_mem hm)
  rw [hasNode_eq_false, List.forall_mem_append, List.forall_mem_singleton]
  exact ⟨hasNode_eq_false.mp (hfresh m hm), hne⟩

/-- The entries of new identifiers fail as the first payload does that fails. -/
lemma addEntries_result (hnamed : ∀ n ∈ ns, n.id.isEmpty = false) (hids : (ns.map (·.id)).Nodup)
    (hfresh : ∀ n ∈ ns, d.graph.hasNode n.id = false) :
    (addEntries ns d).result = (ns.mapM NodeEntry.payload).map fun _ => () := by
  induction ns generalizing d with
  | nil => rfl
  | cons n rest ih =>
    rw [List.forall_mem_cons] at hnamed hfresh
    rw [List.map_cons, List.nodup_cons] at hids
    rw [List.mapM_cons, addEntries]
    rcases addEntry_outcome hnamed.1 hfresh.1 with ⟨e, he, hadd⟩ | ⟨p, hpayload, hadd⟩
    · rw [he]
      exact bind_result_eq_error.mpr (.inl hadd)
    · have hfresh' := hasNode_beside_nodeIn p d.graph.edges hids.1 hfresh.2
      have hrest := ih (d := ⟨⟨d.graph.nodes ++ [n.nodeIn d.graph p], d.graph.edges⟩, d.ids⟩) hnamed.2
        hids.2 hfresh'
      rw [bind_apply, Editing.andThen, hadd.result, hadd.draft, hpayload]
      dsimp only
      rw [hrest]
      cases rest.mapM NodeEntry.payload <;> rfl

/-! ## Documents -/

/-- The identifiers of a document that was read are names, and all different. -/
lemma ids_of_read {document : Document} {v : Value} (h : read v = ok document) :
    (∀ n ∈ document.nodes, n.id.isEmpty = false) ∧ (document.nodes.map (·.id)).Nodup := by
  obtain ⟨document', hread, hcheck⟩ := andThen_eq_ok.mp h
  obtain ⟨hids, -, rfl⟩ := checkReferences_eq_ok.mp hcheck
  refine ⟨fun n hn => ?_, hids⟩
  obtain ⟨entries, -, hfields, -⟩ := Reader.strict_eq_ok hread
  simp only [seq_eq_ok, map_eq_ok] at hfields
  obtain ⟨_, edges, ⟨_, nodes, ⟨name, -, rfl⟩, hnodes, rfl⟩, -, rfl⟩ := hfields
  rcases Reader.optional_eq_ok hnodes with rfl | ⟨_, w, -, hlist⟩
  · cases hn
  · obtain ⟨items, -, hitems⟩ := Reader.list_eq_ok.mp hlist
    obtain ⟨item, -, hitem⟩ := exists_of_forall₂ hitems.flip hn
    exact NodeEntry.nonempty_of_read hitem

/-- The graph of a document that was read fails other than by the rules of graphs as the first entry does
that breaks. -/
lemma toGraph_escapes {document : Document} {v : Value} {ids : IdSource} {e : Failure}
    (hread : read v = ok document) :
    (document.toGraph ids = .error e ∧ ¬ e.IsGraph) ↔
      ∃ before n after f, document.nodes = before ++ n :: after ∧
        (∀ m ∈ before, ∃ p, m.payload = .ok p) ∧ e = .fault f ∧ n.Breaks f := by
  obtain ⟨hnamed, hids⟩ := ids_of_read hread
  have hentries : (addEntries document.nodes ⟨empty, ids⟩).result =
      (document.nodes.mapM NodeEntry.payload).map fun _ => () :=
    addEntries_result hnamed hids fun _ _ => rfl
  have hnodes : ∀ e, (addEntries document.nodes ⟨empty, ids⟩).result = .error e ↔
      ∃ before n after, document.nodes = before ++ n :: after ∧
        (∀ m ∈ before, ∃ p, m.payload = .ok p) ∧ n.payload = .error e := by
    intro e
    rw [hentries, ← Except.mapM_eq_error]
    cases document.nodes.mapM NodeEntry.payload <;> simp [Except.map]
  rw [toGraph_eq_error, insert, bind_result_eq_error, hnodes]
  constructor
  · rintro ⟨⟨before, n, after, hsplit, hbefore, hn⟩ | ⟨_, -, hedges⟩, hother⟩
    · obtain ⟨f, rfl, hbreaks⟩ := NodeEntry.payload_escapes.mp ⟨hn, hother⟩
      exact ⟨before, n, after, f, hsplit, hbefore, rfl, hbreaks⟩
    · exact absurd (rejects_connectEntries _ _ _ hedges) hother
  · rintro ⟨before, n, after, f, hsplit, hbefore, rfl, hbreaks⟩
    obtain ⟨hn, hother⟩ := NodeEntry.payload_escapes.mpr ⟨f, rfl, hbreaks⟩
    exact ⟨.inl ⟨before, n, after, hsplit, hbefore, hn⟩, hother⟩

end Document

end DetectionFlow
