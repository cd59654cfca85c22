import DetectionFlow.Document
import DetectionFlow.Proofs.NotedTheorems
import DetectionFlow.Proofs.RecordReading

/-!
# Documents are read from what is written of them

A document whose identifiers are names, whose edges join its nodes and whose payload fields are plain
values (`Value.IsPlain`) is written as it is and read back as it was (`Document.read_toValue`).
-/

namespace DetectionFlow

open Checked

/-! ## Plain values -/

/-- The values that documents write as they are. -/
inductive Value.IsPlain : Value → Prop
  | null : IsPlain .null
  | bool (b : Bool) : IsPlain (.bool b)
  | int (n : Int) : IsPlain (.int n)
  | float {x : Double} (h : x.isFinite = true) : IsPlain (.float x)
  | text (s : String) : IsPlain (.text s)
  | list {items : List Value} (h : ∀ v ∈ items, IsPlain v) : IsPlain (.list items)
  | object {fields : Fields} (hkeys : (fields.map (·.1)).Nodup)
      (hwhole : ∀ f ∈ fields, Text.Half.isIn f.1 = false) (h : ∀ f ∈ fields, IsPlain f.2) :
      IsPlain (.object fields)

namespace Document

lemma plainItems_eq {items : List Value} (h : ∀ v ∈ items, plain v = .ok v) :
    plainItems items = .ok items := by
  induction items with
  | nil => rfl
  | cons v rest ih =>
    obtain ⟨hv, hrest⟩ := List.forall_mem_cons.mp h
    rw [plainItems, hv, ih hrest]
    rfl

/-- Fields with new names are written behind those that were written before. -/
lemma plainFields_eq {fields written : Fields} (hkeys : ((written ++ fields).map (·.1)).Nodup)
    (hwhole : ∀ f ∈ fields, Text.Half.isIn f.1 = false) (h : ∀ f ∈ fields, plain f.2 = .ok f.2) :
    plainFields written fields = .ok (written ++ fields) := by
  induction fields generalizing written with
  | nil => simp [plainFields]
  | cons f rest ih =>
    obtain ⟨key, v⟩ := f
    obtain ⟨hkey, hwholeRest⟩ := List.forall_mem_cons.mp hwhole
    obtain ⟨hv, hrest⟩ := List.forall_mem_cons.mp h
    have hput : written.put key v = written ++ [(key, v)] := by
      have hnew : written.has key = false := by
        rw [List.map_append, List.map_cons, List.nodup_append] at hkeys
        simp only [Fields.has, List.any_eq_false, decide_eq_true_eq]
        exact fun g hg heq => hkeys.2.2 g.1 (List.mem_map_of_mem hg) key List.mem_cons_self heq
      rw [Fields.put, hnew]
      rfl
    have hname : keyName (.text key) = .ok key := by
      rw [keyName, hkey]
      rfl
    rw [plainFields, hname, hv]
    show plainFields (written.put key v) rest = _
    rw [hput, ih (by simpa using hkeys) hwholeRest hrest, List.append_assoc]
    rfl

/-- A plain value is written as it is. -/
lemma plain_eq {v : Value} (h : v.IsPlain) : plain v = .ok v := by
  induction h with
  | null => rfl
  | bool b => rfl
  | int n => rfl
  | float hx => simp [plain, finite, hx]
  | text s => rfl
  | list _ ih =>
    rw [plain, plainItems_eq ih]
    rfl
  | @object fields hkeys hwhole _ ih =>
    have hwritten : plainFields [] fields = .ok ([] ++ fields) := plainFields_eq hkeys hwhole ih
    rw [plain, hwritten]
    rfl

variable {d d' : Document}

/-! ## References -/

/-- No identifier is repeated exactly if all are distinct. -/
lemma repeatedIds_isEmpty : d.repeatedIds.isEmpty = true ↔ (d.nodes.map (·.id)).Nodup := by
  have hdups : d.repeatedIds = [] ↔
      (d.nodes.map (·.id)).filter (fun i => 1 < (d.nodes.map (·.id)).count i) = [] := by
    rw [repeatedIds, ← List.length_eq_zero_iff, List.length_mergeSort, List.length_eq_zero_iff]
    simp only [List.eq_nil_iff_forall_not_mem, List.mem_eraseDups]
  rw [List.isEmpty_iff, hdups, List.filter_eq_nil_iff, List.nodup_iff_count_le_one]
  constructor
  · intro h a
    by_cases ha : a ∈ d.nodes.map (·.id)
    · simpa using h a ha
    · rw [List.count_eq_zero_of_not_mem ha]
      exact Nat.zero_le 1
  · intro h a _
    simpa using h a

/-- The references of a document are in order if its identifiers are distinct and its edges join its
nodes. -/
lemma checkReferences_eq_ok :
    d.checkReferences = .ok d' ↔
      (d.nodes.map (·.id)).Nodup ∧ (∀ e ∈ d.edges, d.danglingEnd? e = none) ∧ d' = d := by
  unfold checkReferences
  by_cases hids : d.repeatedIds.isEmpty = true
  · have hfind : d.edges.findSome? (fun e => (d.danglingEnd? e).map (e, ·)) = none ↔
        ∀ e ∈ d.edges, d.danglingEnd? e = none := by
      simp
    rw [if_pos hids, ← repeatedIds_isEmpty, ← hfind]
    cases d.edges.findSome? fun e => (d.danglingEnd? e).map (e, ·) with
    | none => simp [hids, eq_comm]
    | some broken => simp [Checked.ruleBroken]
  · rw [if_neg hids, ← repeatedIds_isEmpty]
    simp [hids, Checked.ruleBroken]

/-- An edge has both its ends among the nodes. -/
lemma danglingEnd?_eq_none {e : EdgeEntry} :
    d.danglingEnd? e = none ↔
      (∃ n ∈ d.nodes, n.id = e.source) ∧ ∃ n ∈ d.nodes, n.id = e.target := by
  simp [danglingEnd?]

end Document

/-! ## Reading what was written -/

namespace Reader

/-- A strict object without unknown fields is read by its fields. -/
lemma strict_of_known {α : Type} {known : List String} {r : Fields → Checked α} {fs : Fields} {a : α}
    (hknown : ∀ f ∈ fs, f.1 ∈ known) (h : r fs = ok a) : strict known r (.object fs) = ok a := by
  have hextra : (fs.map fun f => ((.text f.1, f.2) : Value × Value)).filterMap
      (fun e => unknownKey? known e.1) = [] := by
    rw [List.filterMap_eq_nil_iff, List.forall_mem_map]
    intro f hf
    simp [unknownKey?, hknown f hf]
  show (fun a _ => a) <$> r (fieldsIn (fs.map fun f => (.text f.1, f.2))) <*> _ = ok a
  rw [hextra, fieldsIn_object, h]
  rfl

end Reader

namespace NodeEntry

open Reader

/-- What the schema asks of an entry beyond its form, and that its fields are written as they are. -/
structure Sound (n : NodeEntry) : Prop where
  nonempty : n.id.isEmpty = false
  whole : Text.Half.isIn n.id = false
  keys : n.badKeys = []
  data : (Value.object n.data).IsPlain

lemma kindReader_name (k : Kind) : kindReader (.text k.name) = ok k := by
  cases k <;> rfl

/-- A sound entry is read from what is written of it. -/
lemma read_nodeValue {n : NodeEntry} (h : n.Sound) :
    ∃ v, Document.nodeValue n = .ok v ∧ read v = ok n := by
  obtain ⟨id, kind, label, x, y, data, badKeys⟩ := n
  obtain rfl : badKeys = [] := h.keys
  have hdata : dataReader (.object data) = ok (data, []) := by
    have hkeys : ((data.map fun f => ((.text f.1, f.2) : Value × Value)).map (·.1)).filter
        (·.text?.isNone) = [] := by
      rw [List.filter_eq_nil_iff, List.map_map, List.forall_mem_map]
      intro f _
      simp [Value.text?]
    show Except.ok (fieldsIn (data.map fun f => (.text f.1, f.2)), _) = _
    rw [fieldsIn_object, hkeys]
    rfl
  refine ⟨_, by rw [Document.nodeValue, Document.plain_eq h.data]; rfl, ?_⟩
  refine strict_of_known ?_ ?_
  · cases label <;> simp [Document.textField, fieldNames]
  · -- Fields behind the label are found at a place that depends on whether there is a label.
    dsimp only
    generalize hfs : ([("id", Value.text id), ("kind", .text kind.name)] ++
      Document.textField "label" label ++
        [("position", .list [.float x, .float y]), ("data", .object data)] : Fields) = fs
    have hid : required fs "id" "id" Reader.name = ok id := by
      rw [← hfs]
      exact under_eq_ok.mpr (name_text.mpr ⟨rfl, h.nonempty, h.whole⟩)
    have hkind : required fs "kind" "kind" kindReader = ok kind := by
      rw [← hfs]
      exact under_eq_ok.mpr (kindReader_name kind)
    have hlabel : Reader.optional fs "label" "label" none (nullable text) = ok label := by
      rw [← hfs]
      cases label with
      | none => rfl
      | some s => exact under_eq_ok.mpr (nullable_text_ofText? (some s))
    have hposition : Reader.optional fs "position" "position" (Double.zero, Double.zero)
        (pair double) = ok (x, y) := by
      rw [← hfs]
      cases label <;> rfl
    have hunder : (dataReader (.object data)).under (.field "data") = ok (data, []) :=
      under_eq_ok.mpr hdata
    have hfields : Reader.optional fs "data" "data" ([], []) dataReader = ok (data, []) := by
      rw [← hfs]
      cases label <;> exact hunder
    rw [hid, hkind, hlabel, hposition, hfields]
    rfl

end NodeEntry

namespace EdgeEntry

open Reader

/-- An edge is read from what is written of it. -/
lemma read_edgeValue (e : EdgeEntry) : read (Document.edgeValue e) = ok e := by
  obtain ⟨id, source, target⟩ := e
  refine strict_of_known ?_ ?_
  · cases id <;> simp [Document.textField, fieldNames]
  · dsimp only
    generalize hfs : (Document.textField "id" id ++
      [("source", .text source), ("target", .text target)] : Fields) = fs
    have hid : Reader.optional fs "id" "id" none (nullable text) = ok id := by
      rw [← hfs]
      cases id with
      | none => rfl
      | some s => exact under_eq_ok.mpr (nullable_text_ofText? (some s))
    have hsource : required fs "source" "source" text = ok source := by
      rw [← hfs]
      cases id <;> exact under_eq_ok.mpr (text_text source)
    have htarget : required fs "target" "target" text = ok target := by
      rw [← hfs]
      cases id <;> exact under_eq_ok.mpr (text_text target)
    rw [hid, hsource, htarget]
    rfl

end EdgeEntry

namespace Document

open Reader

/-- All that a document is checked for, and that its fields are written as they are. -/
structure Sound (d : Document) : Prop where
  nodes : ∀ n ∈ d.nodes, n.Sound
  ids : (d.nodes.map (·.id)).Nodup
  ends : ∀ e ∈ d.edges, d.danglingEnd? e = none

/-- A sound document is read from what is written of it. -/
theorem read_toValue {d : Document} (h : d.Sound) : ∃ v, d.toValue = .ok v ∧ read v = ok d := by
  obtain ⟨name, nodes, edges⟩ := d
  obtain ⟨vs, hvs⟩ := exists_forall₂ fun n hn => NodeEntry.read_nodeValue (h.nodes n hn)
  have hwritten : nodes.mapM nodeValue = .ok vs := Except.mapM_eq_ok.mpr (hvs.imp fun _ _ h => h.1)
  have hnodes : Reader.list NodeEntry.read (.list vs) = ok nodes :=
    list_eq_ok.mpr ⟨vs, rfl, (hvs.imp fun _ _ h => h.2).flip⟩
  have hedges : Reader.list EdgeEntry.read (.list (edges.map edgeValue)) = ok edges :=
    list_map fun e _ => EdgeEntry.read_edgeValue e
  refine ⟨_, by rw [toValue, hwritten]; rfl, ?_⟩
  have hread : strict fieldNames (fun fs =>
      Document.mk <$> Reader.optional fs "name" "name" none (nullable text)
        <*> Reader.optional fs "nodes" "nodes" [] (Reader.list NodeEntry.read)
        <*> Reader.optional fs "edges" "edges" [] (Reader.list EdgeEntry.read))
      (.object (textField "name" name ++
        [("nodes", .list vs), ("edges", .list (edges.map edgeValue))])) = ok ⟨name, nodes, edges⟩ := by
    refine strict_of_known ?_ ?_
    · cases name <;> simp [textField, fieldNames]
    · generalize hfs : (textField "name" name ++
        [("nodes", .list vs), ("edges", .list (edges.map edgeValue))] : Fields) = fs
      have hname : Reader.optional fs "name" "name" none (nullable text) = ok name := by
        rw [← hfs]
        cases name with
        | none => rfl
        | some s => exact under_eq_ok.mpr (nullable_text_ofText? (some s))
      have hnodes' : Reader.optional fs "nodes" "nodes" [] (Reader.list NodeEntry.read) = ok nodes := by
        rw [← hfs]
        cases name <;> exact under_eq_ok.mpr hnodes
      have hedges' : Reader.optional fs "edges" "edges" [] (Reader.list EdgeEntry.read) = ok edges := by
        rw [← hfs]
        cases name <;> exact under_eq_ok.mpr hedges
      rw [hname, hnodes', hedges']
      rfl
  rw [read]
  show (strict fieldNames _ _).andThen checkReferences = _
  rw [hread, ok_andThen]
  exact checkReferences_eq_ok.mpr ⟨h.ids, h.ends, rfl⟩

end Document
end DetectionFlow
