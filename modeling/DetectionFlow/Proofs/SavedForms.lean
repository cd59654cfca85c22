import DetectionFlow.Proofs.RecordForests
import DetectionFlow.Proofs.RestoredOutcome

/-!
# The forms of saved records

Records can be restored from raw objects, from records that were read, from settings that carry them, and
from what is written of them (`Saved.IsForm`). Where each object has its identifier and its type under the
names of the wire, all forms are restored alike (`Saved.restore_forms`).

Two things make them so. An entry counts for the record it is judged to be and for the identifier it
states, and nothing else (`Saved.Reads`), so with the same source of identifiers the outcomes are equal.
With another source only the identifiers of edges differ (`Saved.restore_alike`), since no step of the
restoration looks at them: a run over two graphs of one shape keeps them of one shape and says the same.
-/

namespace DetectionFlow

open Checked

/-! ## Graphs of one shape -/

/-- Two graphs that differ in the identifiers of their edges at most. -/
structure Graph.SameShape (g h : Graph) : Prop where
  nodes : g.nodes = h.nodes
  ends : g.edges.map (fun e => (e.source, e.target)) = h.edges.map fun e => (e.source, e.target)

namespace Graph.SameShape

variable {g h : Graph}

/-- Edges of the same ends leave graphs of one shape. -/
lemma insertEdge (hshape : g.SameShape h) (id id' source target : String) :
    (g.insertEdge ⟨id, source, target⟩).SameShape (h.insertEdge ⟨id', source, target⟩) := by
  refine ⟨hshape.nodes, ?_⟩
  have hkept : ∀ es : List Edge,
      (es.eraseP (·.source = source)).map (fun e => (e.source, e.target)) =
        (es.map fun e => (e.source, e.target)).eraseP (·.1 = source) := by
    intro es
    rw [List.eraseP_map]
    rfl
  simp only [Graph.insertEdge, List.map_append, hkept, hshape.ends, List.map_cons, List.map_nil]

/-- A node has an outgoing edge in both or in neither. -/
lemma outgoing? (hshape : g.SameShape h) (id : String) :
    (g.outgoing? id).isSome = (h.outgoing? id).isSome := by
  have hends : ∀ k : Graph, (k.outgoing? id).isSome =
      (k.edges.map fun e => (e.source, e.target)).any (·.1 = id) := by
    intro k
    rw [Graph.outgoing?, Bool.eq_iff_iff, List.find?_isSome, List.any_map, List.any_eq_true]
    rfl
  rw [hends, hends, hshape.ends]

end Graph.SameShape

namespace Saved

open Placed

/-! ## Other identifiers for the edges -/

/-- Two restored graphs that differ in the identifiers of their edges at most, with the same reports. -/
structure Alike (a b : Restored) : Prop where
  graph : a.graph.SameShape b.graph
  dropped : a.dropped = b.dropped
  unplaced : a.unplaced = b.unplaced
  warnings : a.warnings = b.warnings

/-- Restorations that fail for the same reason, or yield graphs that are alike. -/
inductive SameOutcome :
    Except Failure (Restored × IdSource) → Except Failure (Restored × IdSource) → Prop
  | failed (f : Failure) : SameOutcome (.error f) (.error f)
  | restored {a b : Restored} {ids ids' : IdSource} (h : Alike a b) :
    SameOutcome (.ok (a, ids)) (.ok (b, ids'))

/-- What is said about a connection does not depend on the identifiers of edges. -/
lemma connectOne_notices {draft other : Draft} (hshape : draft.graph.SameShape other.graph)
    (t : Placed) : (connectOne draft t).notices = (connectOne other t).notices := by
  unfold connectOne
  cases t.record.parent with
  | none => rfl
  | some parent =>
    simp only [hshape.outgoing? parent]
    split <;> rfl

/-- Connections that succeed in graphs of one shape leave graphs of one shape, with the same notices. -/
lemma foldlM_connectOne_sameShape {placed : List Placed} {draft draft' other other' : Draft}
    (hnodes : (draft.graph.nodes.map (·.id)).Nodup) (hshape : draft.graph.SameShape other.graph)
    (h : (placed.foldlM connectOne draft).result = .ok draft')
    (h' : (placed.foldlM connectOne other).result = .ok other') :
    (placed.foldlM connectOne draft).notices = (placed.foldlM connectOne other).notices ∧
      draft'.graph.SameShape other'.graph := by
  induction placed generalizing draft other with
  | nil =>
    obtain rfl := Except.ok.inj h
    obtain rfl := Except.ok.inj h'
    exact ⟨rfl, hshape⟩
  | cons t rest ih =>
    rw [List.foldlM_cons] at h h' ⊢
    rw [List.foldlM_cons]
    obtain ⟨next, hnext, hrest⟩ := Noted.bind_result_eq_ok.mp h
    obtain ⟨next', hnext', hrest'⟩ := Noted.bind_result_eq_ok.mp h'
    -- A record without a link leaves both graphs as they are; a link makes one edge in each.
    have hnodes' : (other.graph.nodes.map (·.id)).Nodup := hshape.nodes ▸ hnodes
    rw [Noted.bind_of_ok hnext, Noted.bind_of_ok hnext', connectOne_notices hshape t]
    have hnextShape : (next.graph.nodes.map (·.id)).Nodup ∧ next.graph.SameShape next'.graph := by
      cases hlink : t.link? with
      | none =>
        rw [connectOne_of_no_link hlink] at hnext hnext'
        obtain rfl := Except.ok.inj hnext
        obtain rfl := Except.ok.inj hnext'
        exact ⟨hnodes, hshape⟩
      | some l =>
        obtain rfl := connectOne_ok hnodes hlink hnext
        obtain rfl := connectOne_ok hnodes' hlink hnext'
        exact ⟨hnodes, hshape.insertEdge _ _ _ _⟩
    obtain ⟨hnotices, hshapes⟩ := ih hnextShape.1 hnextShape.2 hrest hrest'
    exact ⟨by rw [hnotices], hshapes⟩

variable {entries : List Saved} {rs : List Record}

/-- The outcome once the nodes are made and connected. -/
lemma restoreNoted_connected (hkeys : ∀ s ∈ entries, s.typeIsNoKey = false) {ids : IdSource}
    {nodes : List Node} {draft : Draft}
    (hnodes : ((placing entries).placed.mapM nodeOf).result = .ok nodes)
    (hdraft : ((placing entries).placed.foldlM connectOne ⟨⟨nodes, []⟩, ids⟩).result = .ok draft) :
    restoreNoted entries ids =
      ⟨(sift entries).notices ++ shapeNotices entries ++
          (((placing entries).placed.mapM nodeOf).notices ++
            (((placing entries).placed.foldlM connectOne ⟨⟨nodes, []⟩, ids⟩).notices ++
              targetNotices (kept entries))),
        .ok (draft.graph, (sifted entries).dropped, (placing entries).waiting.map (·.id),
          draft.ids)⟩ := by
  rw [restoreNoted_start hkeys, Noted.tellAll_bind, Noted.bind_of_ok hnodes,
    Noted.bind_of_ok hdraft, Noted.tellAll_bind, Noted.pure_eq, List.append_nil]

/-- The source of identifiers decides about the identifiers of edges only. -/
theorem restore_alike (hkeys : ∀ s ∈ entries, s.typeIsNoKey = false) {ids ids' : IdSource}
    (hfresh : ids.Fresh entries.length) (hfresh' : ids'.Fresh entries.length) :
    SameOutcome (restore entries ids).result (restore entries ids').result := by
  cases hnodes : ((placing entries).placed.mapM nodeOf).result with
  | error f =>
    have hfailed : ∀ ids, (restore entries ids).result = .error f := by
      intro ids
      rw [restore_fails, restoreNoted_start hkeys, Noted.tellAll_bind, Noted.bind_of_error hnodes]
    rw [hfailed, hfailed]
    exact .failed f
  | ok nodes =>
    have hmade := Noted.mapM_eq_ok.mp hnodes
    have hconnects : ∀ ids : IdSource, ids.Fresh entries.length → ∃ draft,
        ((placing entries).placed.foldlM connectOne ⟨⟨nodes, []⟩, ids⟩).result = .ok draft := by
      intro ids hfresh
      have hids : (ids.next (links (placing entries).placed).length).Nodup :=
        hfresh.mono ((links_length_le _).trans placed_length_le)
      obtain ⟨notices, hdone, -⟩ :=
        foldlM_connectOne (placing entries).placed ⟨⟨nodes, []⟩, ids⟩ (nodeIds_nodup hmade)
          (joins_of_placed hmade) (by simpa using hids)
      exact ⟨_, congrArg Noted.result hdone⟩
    obtain ⟨draft, hdraft⟩ := hconnects ids hfresh
    obtain ⟨draft', hdraft'⟩ := hconnects ids' hfresh'
    obtain ⟨hnotices, hshape⟩ := @foldlM_connectOne_sameShape _ ⟨⟨nodes, []⟩, ids⟩ _
      ⟨⟨nodes, []⟩, ids'⟩ _ (nodeIds_nodup hmade) ⟨rfl, rfl⟩ hdraft hdraft'
    rw [restore, restore, restoreNoted_connected hkeys hnodes hdraft,
      restoreNoted_connected hkeys hnodes hdraft', hnotices]
    exact .restored ⟨hshape, rfl, rfl, rfl⟩

/-! ## Entries that count for records -/

lemma reads_record (r : Record) : (record r).Reads r := ⟨rfl, rfl⟩

lemma Reads.siftOne {s : Saved} {r : Record} (h : s.Reads r) (acc : Sifted) :
    siftOne acc s = siftOne acc (record r) := by
  rw [Saved.siftOne, Saved.siftOne, h.judged, (reads_record r).judged]

lemma reads_records (rs : List Record) : List.Forall₂ Reads (rs.map record) rs := by
  rw [List.forall₂_map_left_iff, List.forall₂_same]
  exact fun r _ => reads_record r

lemma sift_of_reads (h : List.Forall₂ Reads entries rs) : sift entries = sift (rs.map record) := by
  have hfold : ∀ acc, entries.foldlM siftOne acc = (rs.map record).foldlM siftOne acc := by
    induction h with
    | nil => exact fun _ => rfl
    | cons hreads _ ih =>
      intro acc
      simp only [List.map_cons, List.foldlM_cons, hreads.siftOne acc, ih]
  exact hfold _

/-- Entries are restored as the records that they read as. -/
theorem restore_of_reads (h : List.Forall₂ Reads entries rs) (ids : IdSource) :
    restore entries ids = restore (rs.map record) ids := by
  rw [restore, restore, restoreNoted, restoreNoted, sift_of_reads h, present_of_reads h,
    present_of_reads (reads_records rs)]

/-! ## Accepted objects -/

/-- The object has its identifier and its type under the names of the wire. -/
def IsKeyed (v : Value) : Prop :=
  (v.get? "eventSettingId").isSome = true ∧ (v.get? "eventType").isSome = true

lemma literal_eq_ok {expected : String} {v : Value} :
    Reader.literal expected v = ok () ↔ v = .text expected := by
  cases v with
  | text s => by_cases hs : s = expected <;> simp [Reader.literal, hs]
  | _ => simp [Reader.literal]

/-- The type that an accepted record states under the name of the wire is one that is known. -/
lemma typeOf_of_read {fs : Fields} {r : Record} (hkeyed : IsKeyed (.object fs))
    (h : Record.read (.object fs) = ok r) : ∃ v type, typeOf fs = .ok (v, some type) := by
  obtain ⟨v, hv⟩ := Option.isSome_iff_exists.mp hkeyed.2
  replace hv : Fields.get? fs "eventType" = some v := hv
  have hlookup : Reader.lookup fs "eventType" "event_type" = some ("eventType", v) := by
    rw [Reader.lookup, hv]
  obtain ⟨⟨tag, shape⟩, -, hread⟩ := andThen_eq_ok.mp h
  obtain ⟨-, -, -, htype, hbody⟩ := Record.checkFields_eq_ok.mp (under_eq_ok.mp hread)
  obtain rfl := Record.kind_bodyOf hbody
  have hknown : ∃ s type, v = .text s ∧ RecordType.ofName? s = some type := by
    rw [Record.typeField, Reader.optional, hlookup] at htype
    replace htype := under_eq_ok.mp htype
    split at htype
    next hold =>
      obtain rfl : v = .text RecordType.olderRoi := by
        cases v with
        | text s => exact congrArg _ (Option.some.inj hold.2)
        | _ => exact absurd hold.2 (by simp [Value.text?])
      exact ⟨_, .roi, rfl, rfl⟩
    next =>
      rw [Body.recordType?_kind] at htype
      exact ⟨_, _, literal_eq_ok.mp htype, RecordType.ofName?_name _⟩
  obtain ⟨s, type, rfl, hname⟩ := hknown
  refine ⟨.text s, type, ?_⟩
  simp [typeOf, hv, Value.isKey, Value.text?, hname]

/-- An accepted object reads as its record. -/
lemma reads_raw {v : Value} {r : Record} (hjson : v.IsJson) (hkeyed : IsKeyed v)
    (h : Record.read v = ok r) : (raw v).Reads r := by
  cases hjson with
  | @object fs hfields =>
    constructor
    · obtain ⟨v, type, htype⟩ := typeOf_of_read hkeyed h
      show judgeFields _ fs = _
      rw [judgeFields, htype]
      simp only [bind, Except.bind, h]
      rfl
    · obtain ⟨v, hv⟩ := Option.isSome_iff_exists.mp hkeyed.1
      replace hv : Fields.get? fs "eventSettingId" = some v := hv
      obtain ⟨⟨tag, shape⟩, -, hread⟩ := andThen_eq_ok.mp h
      obtain ⟨hid, -⟩ := Record.checkFields_eq_ok.mp (under_eq_ok.mp hread)
      rw [Reader.required, Reader.lookup, hv] at hid
      obtain ⟨rfl, -⟩ := Reader.name_of_isJson (hfields _ (Fields.get?_eq_some hv)) (under_eq_ok.mp hid)
      show (Fields.get? fs "eventSettingId").bind Value.text? = _
      rw [hv]
      rfl
  | _ => exact absurd h broken_ne_ok

/-! ## Forms -/

/-- The forms in which a list of objects can be restored. -/
inductive IsForm (values : List Value) : List Saved → Prop
  /-- The objects themselves. -/
  | raw : IsForm values (values.map .raw)
  /-- The records that they are read as. -/
  | records {rs : List Record} (h : List.Forall₂ (fun v r => Record.read v = ok r) values rs) :
    IsForm values (rs.map .record)
  /-- The records of the settings that carry them. -/
  | settings {s : EventSettings} (h : EventSettings.readFields [("configs", .list values)] = ok s) :
    IsForm values (s.records.map .record)
  /-- What is written of the records that they are read as. -/
  | written {rs : List Record} (h : List.Forall₂ (fun v r => Record.read v = ok r) values rs) :
    IsForm values ((rs.map Record.toValue).map .raw)

/-- Settings of the current version carry the records that their objects are read as. -/
lemma readFields_configs {values : List Value} {s : EventSettings} :
    EventSettings.readFields [("configs", .list values)] = ok s ↔
      s.version = schemaVersion ∧
        List.Forall₂ (fun v r => Record.read v = ok r) values s.records := by
  have hfields : EventSettings.readFields [("configs", .list values)] =
      EventSettings.mk <$> ok schemaVersion <*>
        (Reader.list Record.read (.list values)).under (.field "configs") := rfl
  have hlist : ∀ rs, Reader.list Record.read (.list values) = ok rs ↔
      List.Forall₂ (fun v r => Record.read v = ok r) values rs := by
    intro rs
    rw [Reader.list_eq_ok]
    exact ⟨fun ⟨items, hitems, hread⟩ => (Option.some.inj hitems).symm ▸ hread,
      fun hread => ⟨values, rfl, hread⟩⟩
  rw [hfields, seq_eq_ok]
  constructor
  · rintro ⟨make, rs, hmake, hrs, rfl⟩
    obtain ⟨version, hversion, rfl⟩ := map_eq_ok.mp hmake
    exact ⟨(ok_inj.mp hversion).symm, (hlist rs).mp (under_eq_ok.mp hrs)⟩
  · rintro ⟨hversion, hrs⟩
    refine ⟨_, s.records, map_eq_ok.mpr ⟨_, rfl, rfl⟩, under_eq_ok.mpr ((hlist _).mpr hrs), ?_⟩
    rw [← hversion]

/-- An object is read as one record at most. -/
lemma read_unique {values : List Value} {rs rs' : List Record}
    (h : List.Forall₂ (fun v r => Record.read v = ok r) values rs)
    (h' : List.Forall₂ (fun v r => Record.read v = ok r) values rs') : rs = rs' := by
  have hunique : Relator.RightUnique fun v r => Record.read v = ok r :=
    fun _ _ _ hr hr' => ok_inj.mp (hr.symm.trans hr')
  exact Relator.RightUnique.forall₂ hunique h h'

/-- The entries of every form read as the records of the objects. -/
lemma IsForm.reads {values : List Value} {entries : List Saved} {rs : List Record}
    (hform : IsForm values entries) (hjson : ∀ v ∈ values, v.IsJson)
    (hkeyed : ∀ v ∈ values, IsKeyed v)
    (hread : List.Forall₂ (fun v r => Record.read v = ok r) values rs) :
    List.Forall₂ Reads entries rs := by
  cases hform with
  | raw =>
    rw [List.forall₂_map_left_iff]
    refine ((List.forall₂_and_left _ _).mpr ⟨fun _ hv => hv, hread⟩).imp ?_
    exact fun v r h => reads_raw (hjson v h.1) (hkeyed v h.1) h.2
  | records h =>
    obtain rfl := read_unique h hread
    exact reads_records _
  | settings h =>
    obtain rfl := read_unique (readFields_configs.mp h).2 hread
    exact reads_records _
  | written h =>
    obtain rfl := read_unique h hread
    rw [List.map_map, List.forall₂_map_left_iff, List.forall₂_same]
    intro r hr
    obtain ⟨v, hv, hvr⟩ := exists_of_forall₂ h.flip hr
    exact Holds.reads (.inr rfl) (Record.sound_of_read (hjson v hv) hvr)

/-- A list of accepted objects that have their identifiers and types under the names of the wire is
restored alike in all its forms. Settings accept it, and none of its objects is dropped for its type. -/
theorem restore_forms {values : List Value} {rs : List Record} (hjson : ∀ v ∈ values, v.IsJson)
    (hkeyed : ∀ v ∈ values, IsKeyed v)
    (hread : List.Forall₂ (fun v r => Record.read v = ok r) values rs) :
    EventSettings.readFields [("configs", .list values)] = ok ⟨schemaVersion, rs⟩ ∧
      (∀ fs, .object fs ∈ values → ∃ v type, typeOf fs = .ok (v, some type)) ∧
      ∀ entries entries', IsForm values entries → IsForm values entries' →
        (∀ ids, restore entries ids = restore entries' ids) ∧
          ∀ ids ids', ids.Fresh values.length → ids'.Fresh values.length →
            SameOutcome (restore entries ids).result (restore entries' ids').result := by
  refine ⟨readFields_configs.mpr ⟨rfl, hread⟩, ?_, ?_⟩
  · intro fs hfs
    obtain ⟨r, -, hr⟩ := exists_of_forall₂ hread hfs
    exact typeOf_of_read (hkeyed _ hfs) hr
  · intro entries entries' hform hform'
    have hreads := hform.reads hjson hkeyed hread
    have hreads' := hform'.reads hjson hkeyed hread
    have hequal : ∀ ids, restore entries ids = restore entries' ids := by
      intro ids
      rw [restore_of_reads hreads, restore_of_reads hreads']
    refine ⟨hequal, fun ids ids' hfresh hfresh' => ?_⟩
    have hlength : entries.length = values.length := by
      rw [hreads.length_eq, hread.length_eq]
    rw [← hlength] at hfresh hfresh'
    rw [← hequal ids']
    exact restore_alike (keys_of_reads hreads) hfresh hfresh'

/-- Three corners of the frame. -/
def frameCorners : List Point :=
  [⟨Double.zero, Double.zero⟩, ⟨Double.one, Double.zero⟩, ⟨Double.one, Double.one⟩]

/-- A zone in its older spelling with a field that is unknown. -/
def olderZone : Fields :=
  [("eventSettingId", .text "z"), ("eventType", .text "RoI"), ("colour", .null),
    ("points", Point.listToValue frameCorners)]

/-- An older zone, a speed below it under the own names of its fields, a merge that repeats the identifier
of the speed, a record below itself and one whose parent is gone. -/
def mixedValues : List Value :=
  [.object olderZone,
    .object [("eventSettingId", .text "s"), ("eventType", .text "Speed"), ("parent_id", .text "z"),
      ("turn", .text "3")],
    .object [("eventSettingId", .text "s"), ("eventType", .text "And")],
    .object [("eventSettingId", .text "l"), ("eventType", .text "Speed"), ("parentId", .text "l")],
    .object [("eventSettingId", .text "m"), ("eventType", .text "And"), ("parentId", .text "gone")]]

/-- The records that `mixedValues` are read as. -/
def mixedRecords : List Record :=
  [⟨"z", "", none, .zone frameCorners none none⟩,
    ⟨"s", "", some "z", .speed (some 3)⟩,
    ⟨"s", "", none, .merge none⟩,
    ⟨"l", "", some "l", .speed none⟩,
    ⟨"m", "", some "gone", .merge none⟩]

lemma read_olderZone :
    Record.read (.object olderZone) = ok ⟨"z", "", none, .zone frameCorners none none⟩ := by
  have hframe : ∀ p ∈ frameCorners, p.InFrame := by
    have hzero : Double.zero.le Double.zero = true := by decide +kernel
    have hunit : Double.zero.le Double.one = true := by decide +kernel
    have hone : Double.one.le Double.one = true := by decide +kernel
    simp only [frameCorners, List.mem_cons, List.not_mem_nil, or_false]
    rintro p (rfl | rfl | rfl)
    · exact ⟨hzero, hunit, hzero, hunit⟩
    · exact ⟨hunit, hone, hzero, hunit⟩
    · exact ⟨hunit, hone, hunit, hone⟩
  have hbody : Record.bodyOf .zone olderZone = ok (.zone frameCorners none none) :=
    Record.bodyOf_zone_eq_ok.mpr ⟨frameCorners, none, none,
      under_eq_ok.mpr (Record.corners_toValue (by decide) hframe), rfl, rfl, rfl⟩
  have hshape : Record.shapeOf olderZone = ok ("ROI", .zone) := rfl
  rw [Record.read, hshape, ok_andThen]
  exact under_eq_ok.mpr (Record.checkFields_eq_ok.mpr ⟨rfl, rfl, rfl, rfl, hbody⟩)

theorem mixedValues_forms :
    EventSettings.readFields [("configs", .list mixedValues)] = ok ⟨schemaVersion, mixedRecords⟩ ∧
      restore (mixedValues.map .raw) ⟨Nat.repr, 0⟩ = restore (mixedRecords.map .record) ⟨Nat.repr, 0⟩ ∧
      SameOutcome (restore (mixedValues.map .raw) ⟨Nat.repr, 0⟩).result
        (restore ((mixedRecords.map Record.toValue).map .raw) ⟨fun n => "edge" ++ n.repr, 7⟩).result := by
  have hjson : ∀ v ∈ mixedValues, v.IsJson := by
    simp [mixedValues, olderZone, frameCorners, Point.listToValue, Point.toValue, Value.isJson_object,
      Value.isJson_list, Value.IsJson.float, Value.IsJson.text, Value.IsJson.null]
  have hkeyed : ∀ v ∈ mixedValues, IsKeyed v := by
    simp [mixedValues, olderZone, IsKeyed, Value.get?, Value.fields?, Fields.get?]
  have hread : List.Forall₂ (fun v r => Record.read v = ok r) mixedValues mixedRecords :=
    .cons read_olderZone (.cons rfl (.cons rfl (.cons rfl (.cons rfl .nil))))
  obtain ⟨hsettings, -, hforms⟩ := restore_forms hjson hkeyed hread
  refine ⟨hsettings, (hforms _ _ .raw (.settings hsettings)).1 _, ?_⟩
  exact (hforms _ _ .raw (.written hread)).2 _ _ (by decide) (by decide)

end Saved
end DetectionFlow
