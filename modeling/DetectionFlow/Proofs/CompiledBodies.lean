import DetectionFlow.Proofs.CompiledTheorems
import DetectionFlow.Proofs.RecordReading

/-!
# What a payload compiles to

The compiler writes the fields of a payload and reads them back as the body of a record. Which body that is,
is said by one relation (`Payload.ReadAs`): points stay what they are and are within their limits, a target
has a name, and each other value is read as its field. A node compiles exactly if its identifier is a name
and its payload is read as some body (`Graph.compileNode_eq_ok_iff`).
-/

namespace DetectionFlow

open Checked

/-! ## What is written of a graph, and read again -/

namespace Record

open Reader

lemma coordinate_float_eq_ok {x y : Double} (h : coordinate (.float x) = ok y) : y = x := by
  rw [coordinate, doubleBetween, andThen_eq_ok] at h
  obtain ⟨z, hz, h⟩ := h
  obtain rfl : x = z := ok_inj.mp hz
  split at h
  · simp at h
  · split at h
    · simp at h
    · exact (ok_inj.mp h).symm

lemma point_toValue_eq_ok {p q : Point} (h : point p.toValue = ok q) : q = p := by
  obtain ⟨⟨x, y⟩, hpair, rfl⟩ := map_eq_ok.mp h
  have hpair' : Prod.mk <$> part coordinate 0 (some (.float p.x)) <*>
      part coordinate 1 (some (.float p.y)) = ok (x, y) := hpair
  obtain ⟨g, y', hg, hy, heq⟩ := seq_eq_ok.mp hpair'
  obtain ⟨x', hx, rfl⟩ := map_eq_ok.mp hg
  obtain ⟨rfl, rfl⟩ := Prod.mk.inj heq
  rw [coordinate_float_eq_ok (under_eq_ok.mp hx), coordinate_float_eq_ok (under_eq_ok.mp hy)]

lemma points_toValue_eq_ok {ps qs : List Point} :
    list point (Point.listToValue ps) = ok qs ↔ qs = ps ∧ ∀ p ∈ ps, p.InFrame := by
  constructor
  · intro h
    obtain ⟨items, hitems, hread⟩ := list_eq_ok.mp h
    obtain rfl : ps.map Point.toValue = items := Option.some.inj hitems
    rw [List.forall₂_map_left_iff] at hread
    obtain rfl : ps = qs :=
      List.forall₂_eq_eq_eq ▸ hread.imp fun p q hpq => (point_toValue_eq_ok hpq).symm
    exact ⟨rfl, points_inFrame h⟩
  · rintro ⟨rfl, hframe⟩
    exact points_toValue hframe

lemma corners_toValue_eq_ok {ps qs : List Point} :
    listMin 3 point (Point.listToValue ps) = ok qs ↔
      qs = ps ∧ 3 ≤ ps.length ∧ ∀ p ∈ ps, p.InFrame := by
  rw [listMin_eq_ok, points_toValue_eq_ok, and_assoc]
  refine and_congr_right ?_
  rintro rfl
  exact and_comm

lemma ends_toValue_eq_ok {ps qs : List Point} :
    listOf 2 point (Point.listToValue ps) = ok qs ↔
      qs = ps ∧ ps.length = 2 ∧ ∀ p ∈ ps, p.InFrame := by
  rw [listOf_eq_ok, points_toValue_eq_ok, and_assoc]
  refine and_congr_right ?_
  rintro rfl
  exact and_comm

/-- A target may have been made of a value that is no name; it is read only if it has one. -/
lemma target_targetValue_eq_ok {t u : Target} : target (targetValue t) = ok u ↔ u = t ∧ t.Sound := by
  constructor
  · intro h
    have hsound : t.Sound := by
      rw [targetValue, target, lenient_object] at h
      obtain ⟨_, _, hmade, -, -⟩ := seq_eq_ok.mp h
      obtain ⟨label, hlabel, -⟩ := map_eq_ok.mp hmade
      have hname : Reader.name (.text t.label) = ok label := under_eq_ok.mp hlabel
      obtain ⟨-, hnonempty, hwhole⟩ := name_text.mp hname
      exact ⟨hnonempty, hwhole⟩
    exact ⟨ok_inj.mp (h.symm.trans (target_targetValue hsound)), hsound⟩
  · rintro ⟨rfl, hsound⟩
    exact target_targetValue hsound

lemma nullable_targetField_eq_ok {t u : Option Target} :
    nullable target (Graph.targetField t) = ok u ↔ u = t ∧ ∀ t' ∈ t, t'.Sound := by
  cases t with
  | none =>
    have hread : nullable target (Graph.targetField none) = ok none := rfl
    rw [hread, ok_inj]
    simp [eq_comm]
  | some t =>
    have hread : nullable target (Graph.targetField (some t)) =
        some <$> target (targetValue t) := rfl
    rw [hread, map_eq_ok]
    simp only [target_targetValue_eq_ok, Option.mem_some_iff, forall_eq']
    constructor
    · rintro ⟨t', ⟨rfl, hsound⟩, rfl⟩
      exact ⟨rfl, hsound⟩
    · rintro ⟨rfl, hsound⟩
      exact ⟨t, ⟨rfl, hsound⟩, rfl⟩

end Record

/-! ## Bodies of payloads -/

/-- A payload is read as a body, where `found` is what is above its node. -/
inductive Payload.ReadAs (found : Checked (Option Target)) : Payload → Body → Prop
  | zone {points : List Point} {detectionPoint : Value} {target : Option Target} {point : Option String}
      (htarget : found = ok target) (hsound : ∀ t ∈ target, t.Sound) (hlength : 3 ≤ points.length)
      (hframe : ∀ p ∈ points, p.InFrame) (hpoint : Reader.nullable Reader.text detectionPoint = ok point) :
    ReadAs found (.zone points detectionPoint) (.zone points target point)
  | line {points : List Point} {detectionPoint : Value} {target : Option Target} {point : Option String}
      (direction : Direction) (htarget : found = ok target) (hsound : ∀ t ∈ target, t.Sound)
      (hlength : points.length = 2) (hframe : ∀ p ∈ points, p.InFrame)
      (hpoint : Reader.nullable Reader.text detectionPoint = ok point) :
    ReadAs found (.line points direction detectionPoint) (.line points direction target point)
  | count {v : Value} {condition : String} (h : Reader.text v = ok condition) :
    ReadAs found (.count v) (.count condition)
  | timeout {v : Value} {seconds : Number} (h : Reader.seconds v = ok seconds) :
    ReadAs found (.timeout v) (.timeout seconds)
  | speed {v : Value} {turn : Option Int} (h : Reader.nullable Reader.int v = ok turn) :
    ReadAs found (.speed v) (.speed turn)
  | merge {v : Value} {inOrder : Option Bool} (h : Reader.nullable Reader.bool v = ok inOrder) :
    ReadAs found (.merge v) (.merge inOrder)
  | alarm {bindings : List SensorBinding} {ext : String} (h : Alarm.encode bindings = .ok ext) :
    ReadAs found (.alarm bindings) (.alarm ext)

namespace Payload.ReadAs

variable {found : Checked (Option Target)} {p : Payload} {b : Body}

lemma kind (h : p.ReadAs found b) : b.kind = p.kind := by
  cases h <;> rfl

/-- Whatever a payload holds, only sound bodies are made of it. -/
lemma sound (h : p.ReadAs found b) : b.Sound := by
  cases h with
  | zone _ hsound hlength hframe => exact ⟨hlength, hframe, hsound⟩
  | line _ _ hsound hlength hframe => exact ⟨hlength, hframe, hsound⟩
  | timeout h => exact Reader.seconds_eq_ok h
  | _ => trivial

end Payload.ReadAs

namespace Graph

open Reader

variable {g : Graph} {n : Node} {fields : Fields} {b : Body} {r : Record}

/-- The body that is read of the fields of a payload is one that the payload is read as. -/
lemma readAs_of_payloadFields (hfields : g.payloadFields n = .ok fields)
    (hbody : Record.bodyOf n.kind fields = ok b) : n.payload.ReadAs (g.resolveTarget n.id) b := by
  obtain ⟨id, label, position, payload⟩ := n
  cases payload with
  | object => simp [payloadFields] at hfields
  | event => simp [payloadFields] at hfields
  | zone points detectionPoint =>
    -- The target that was found is written and read once more, and only then must it have a name.
    obtain ⟨target, htarget, hfields⟩ := Except.bind_eq_ok.mp hfields
    obtain rfl := Except.ok.inj hfields
    obtain ⟨_, _, point, hpoints, hread, hpoint, rfl⟩ := Record.bodyOf_zone_eq_ok.mp hbody
    obtain ⟨rfl, hlength, hframe⟩ := Record.corners_toValue_eq_ok.mp (under_eq_ok.mp hpoints)
    obtain ⟨rfl, hsound⟩ := Record.nullable_targetField_eq_ok.mp (under_eq_ok.mp hread)
    exact .zone (toFailure_eq_ok.mp htarget) hsound hlength hframe (under_eq_ok.mp hpoint)
  | line points direction detectionPoint =>
    obtain ⟨target, htarget, hfields⟩ := Except.bind_eq_ok.mp hfields
    obtain rfl := Except.ok.inj hfields
    obtain ⟨_, direction', _, point, hpoints, hdirection, hread, hpoint, rfl⟩ :=
      Record.bodyOf_line_eq_ok.mp hbody
    have hdirection' : oneOf Direction.ofName? (.text direction.name) = ok direction' :=
      under_eq_ok.mp hdirection
    obtain rfl := ok_inj.mp (hdirection'.symm.trans (Record.direction_name direction))
    obtain ⟨rfl, hlength, hframe⟩ := Record.ends_toValue_eq_ok.mp (under_eq_ok.mp hpoints)
    obtain ⟨rfl, hsound⟩ := Record.nullable_targetField_eq_ok.mp (under_eq_ok.mp hread)
    exact .line _ (toFailure_eq_ok.mp htarget) hsound hlength hframe (under_eq_ok.mp hpoint)
  | count condition =>
    obtain rfl := Except.ok.inj hfields
    obtain ⟨_, hread, rfl⟩ := map_eq_ok.mp hbody
    exact .count (under_eq_ok.mp hread)
  | timeout seconds =>
    obtain rfl := Except.ok.inj hfields
    obtain ⟨_, hread, rfl⟩ := map_eq_ok.mp hbody
    exact .timeout (under_eq_ok.mp hread)
  | speed turn =>
    obtain rfl := Except.ok.inj hfields
    obtain ⟨_, hread, rfl⟩ := map_eq_ok.mp hbody
    exact .speed (under_eq_ok.mp hread)
  | merge inOrder =>
    obtain rfl := Except.ok.inj hfields
    obtain ⟨_, hread, rfl⟩ := map_eq_ok.mp hbody
    exact .merge (under_eq_ok.mp hread)
  | alarm bindings =>
    cases hencode : Alarm.encode bindings with
    | error f => simp [payloadFields, hencode] at hfields
    | ok ext =>
      simp only [payloadFields, hencode] at hfields
      obtain rfl := Except.ok.inj hfields
      obtain ⟨ext', hext, rfl⟩ := map_eq_ok.mp hbody
      have hread : text (.text ext) = ok ext' := under_eq_ok.mp hext
      obtain rfl := ok_inj.mp (hread.symm.trans (text_text ext))
      exact .alarm hencode

/-- The fields of a payload that is read as a body are read as that body, and name no type of record. -/
lemma payloadFields_of_readAs (h : n.payload.ReadAs (g.resolveTarget n.id) b) :
    ∃ fields, g.payloadFields n = .ok fields ∧
      Record.typeField n.kind (g.headerFields n ++ fields) = ok () ∧
      Record.bodyOf n.kind fields = ok b := by
  obtain ⟨id, label, position, payload⟩ := n
  cases h with
  | zone htarget hsound hlength hframe hpoint =>
    refine ⟨_, Except.bind_eq_ok.mpr ⟨_, toFailure_eq_ok.mpr htarget, rfl⟩, rfl, ?_⟩
    exact Record.bodyOf_zone_eq_ok.mpr ⟨_, _, _,
      under_eq_ok.mpr (Record.corners_toValue hlength hframe),
      under_eq_ok.mpr (Record.nullable_targetField_eq_ok.mpr ⟨rfl, hsound⟩), under_eq_ok.mpr hpoint, rfl⟩
  | line direction htarget hsound hlength hframe hpoint =>
    refine ⟨_, Except.bind_eq_ok.mpr ⟨_, toFailure_eq_ok.mpr htarget, rfl⟩, rfl, ?_⟩
    exact Record.bodyOf_line_eq_ok.mpr ⟨_, _, _, _,
      under_eq_ok.mpr (Record.ends_toValue hlength hframe),
      under_eq_ok.mpr (Record.direction_name direction),
      under_eq_ok.mpr (Record.nullable_targetField_eq_ok.mpr ⟨rfl, hsound⟩), under_eq_ok.mpr hpoint, rfl⟩
  | count h => exact ⟨_, rfl, rfl, map_eq_ok.mpr ⟨_, under_eq_ok.mpr h, rfl⟩⟩
  | timeout h => exact ⟨_, rfl, rfl, map_eq_ok.mpr ⟨_, under_eq_ok.mpr h, rfl⟩⟩
  | speed h => exact ⟨_, rfl, rfl, map_eq_ok.mpr ⟨_, under_eq_ok.mpr h, rfl⟩⟩
  | merge h => exact ⟨_, rfl, rfl, map_eq_ok.mpr ⟨_, under_eq_ok.mpr h, rfl⟩⟩
  | @alarm bindings ext h =>
    refine ⟨[("ext", .text ext)], by simp only [payloadFields, h], rfl, ?_⟩
    exact map_eq_ok.mpr ⟨ext, under_eq_ok.mpr (text_text ext), rfl⟩

/-- A node compiles to a record exactly if the header of the record is that of the node, with a name for its
identifier, and the payload is read as the body of the record. -/
theorem compileNode_eq_ok_iff :
    g.compileNode n = .ok r ↔ g.Heads n r ∧ n.payload.ReadAs (g.resolveTarget n.id) r.body := by
  -- No field of a body has a name of the header, so the body is read of the payload alone.
  have hnames : ∀ f ∈ g.headerFields n, f.1 ∈ Record.headerNames := by
    simp [headerFields, Record.headerNames]
  constructor
  · intro h
    obtain ⟨fields, hfields, hread⟩ := compileNode_eq_ok.mp h
    obtain ⟨-, -, -, -, hbody⟩ := Record.checkFields_eq_ok.mp hread
    rw [Record.bodyOf_append hnames] at hbody
    exact ⟨heads_of_compileNode h, readAs_of_payloadFields hfields hbody⟩
  · rintro ⟨hheads, hread⟩
    obtain ⟨fields, hfields, htype, hbody⟩ := payloadFields_of_readAs hread
    refine compileNode_eq_ok.mpr ⟨fields, hfields, ?_⟩
    rw [Record.checkFields_eq_ok, Record.bodyOf_append hnames, hheads.id, hheads.name, hheads.parent]
    refine ⟨?_, ?_, ?_, htype, hbody⟩
    · exact under_eq_ok.mpr (name_text.mpr ⟨rfl, hheads.nonempty, hheads.whole⟩)
    · exact under_eq_ok.mpr (text_text n.label)
    · exact under_eq_ok.mpr (nullable_text_ofText? (g.parentId? n.id))

lemma readAs_of_compileNode (h : g.compileNode n = .ok r) :
    n.payload.ReadAs (g.resolveTarget n.id) r.body :=
  (compileNode_eq_ok_iff.mp h).2

lemma compileNode_of_readAs (hnonempty : n.id.isEmpty = false) (hwhole : Text.Half.isIn n.id = false)
    (h : n.payload.ReadAs (g.resolveTarget n.id) b) :
    g.compileNode n = .ok ⟨n.id, n.label, g.parentId? n.id, b⟩ :=
  compileNode_eq_ok_iff.mpr ⟨⟨rfl, rfl, rfl, h.kind, hnonempty, hwhole⟩, h⟩

/-- The record of a node is sound. -/
theorem sound_of_compileNode (h : g.compileNode n = .ok r) : r.Sound := by
  obtain ⟨hheads, hread⟩ := compileNode_eq_ok_iff.mp h
  exact ⟨hheads.id ▸ hheads.nonempty, hheads.id ▸ hheads.whole, hread.sound⟩

end Graph
end DetectionFlow
