import DetectionFlow.Proofs.CheckedTheorems
import DetectionFlow.Proofs.KeyedLists

/-!
# Written records are read back

A record that a reader accepted is sound (`Record.Sound`): its identifier is a name, and the parts of its
body are within their bounds. What is written of a sound record is read as that record
(`Record.read_toValue`), so that writing loses nothing of what reading accepts.
-/

namespace DetectionFlow

open Checked

/-! ## Values of documents in JSON -/

/-- The values that a JSON document can hold. -/
inductive Value.IsJson : Value → Prop
  | null : IsJson .null
  | bool (b : Bool) : IsJson (.bool b)
  | int (n : Int) : IsJson (.int n)
  | float (x : Double) : IsJson (.float x)
  | text (s : String) : IsJson (.text s)
  | list {items : List Value} (h : ∀ v ∈ items, IsJson v) : IsJson (.list items)
  | object {fields : Fields} (h : ∀ f ∈ fields, IsJson f.2) : IsJson (.object fields)

namespace Value

lemma isJson_list {items : List Value} : (list items).IsJson ↔ ∀ v ∈ items, v.IsJson := by
  constructor
  · rintro (_ | _ | _ | _ | _ | h | _)
    exact h
  · exact .list

lemma isJson_object {fields : Fields} : (object fields).IsJson ↔ ∀ f ∈ fields, f.2.IsJson := by
  constructor
  · rintro (_ | _ | _ | _ | _ | _ | h)
    exact h
  · exact .object

end Value

namespace Fields

lemma get?_eq_some {fs : Fields} {key : String} {v : Value} (h : fs.get? key = some v) :
    (key, v) ∈ fs := by
  obtain ⟨⟨name, w⟩, hfound, rfl⟩ := Option.map_eq_some_iff.mp h
  have hname : name = key := by simpa using List.find?_some hfound
  exact hname ▸ List.mem_of_find?_eq_some hfound

/-- Fields of other names in front do not matter. -/
lemma get?_append {head fs : Fields} {key : String} (h : key ∉ head.map (·.1)) :
    get? (head ++ fs) key = get? fs key := by
  have hnone : head.find? (·.1 = key) = none := by
    rw [List.find?_eq_none]
    intro f hf
    have hne : f.1 ≠ key := fun heq => h (heq ▸ List.mem_map_of_mem hf)
    simpa using hne
  rw [get?, List.find?_append, hnone, Option.none_or, ← get?]

end Fields

/-! ## Readers -/

namespace Reader

variable {α : Type} {r : Reader α}

/-- A name that is read from a JSON value is that text. -/
lemma name_of_isJson {v : Value} (hv : v.IsJson) {s : String} (h : name v = ok s) :
    v = .text s ∧ s.isEmpty = false ∧ Text.Half.isIn s = false := by
  cases hv with
  | text t =>
    obtain ⟨rfl, hempty, hwhole⟩ := name_text.mp h
    exact ⟨rfl, hempty, hwhole⟩
  | _ => exact absurd h broken_ne_ok

lemma sequence_itemsFrom {n : Nat} {items : List Value} {as : List α} :
    Checked.sequence (itemsFrom r n items) = ok as ↔ List.Forall₂ (fun v a => r v = ok a) items as := by
  rw [sequence_eq_ok]
  induction items generalizing n as with
  | nil => simp [itemsFrom]
  | cons v rest ih => cases as <;> simp [itemsFrom, ih]

lemma list_eq_ok {v : Value} {as : List α} :
    list r v = ok as ↔
      ∃ items, v.listed? = some items ∧ List.Forall₂ (fun v a => r v = ok a) items as := by
  unfold list
  cases v.listed? with
  | none => simp
  | some items => simp [sequence_itemsFrom]

lemma listMin_eq_ok {least : Nat} {v : Value} {as : List α} :
    listMin least r v = ok as ↔ list r v = ok as ∧ least ≤ as.length := by
  unfold listMin
  rw [andThen_eq_ok]
  constructor
  · rintro ⟨bs, hlist, h⟩
    split at h
    · simp at h
    next hlength =>
      obtain rfl := ok_inj.mp h
      exact ⟨hlist, Nat.le_of_not_lt hlength⟩
  · rintro ⟨hlist, hlength⟩
    exact ⟨as, hlist, if_neg (Nat.not_lt.mpr hlength)⟩

lemma listOf_eq_ok {count : Nat} {v : Value} {as : List α} :
    listOf count r v = ok as ↔ list r v = ok as ∧ as.length = count := by
  rw [list_eq_ok, listOf]
  cases v.listed? with
  | none => simp
  | some items =>
    simp only [Option.some.injEq, exists_eq_left']
    split
    next hlong =>
      simp only [wrong_ne_ok, false_iff, not_and]
      intro hitems hlength
      have := hitems.length_eq
      omega
    next hshort =>
      rw [andThen_eq_ok]
      constructor
      · rintro ⟨bs, hitems, h⟩
        rw [sequence_itemsFrom] at hitems
        split at h
        · simp at h
        next hleast =>
          obtain rfl := ok_inj.mp h
          have := hitems.length_eq
          exact ⟨hitems, by omega⟩
      · rintro ⟨hitems, hlength⟩
        exact ⟨as, sequence_itemsFrom.mpr hitems, if_neg (by omega)⟩

/-- A list is read item by item from what its items are written as. -/
lemma list_map {f : α → Value} {as : List α} (h : ∀ a ∈ as, r (f a) = ok a) :
    list r (.list (as.map f)) = ok as := by
  rw [list_eq_ok]
  refine ⟨_, rfl, ?_⟩
  rw [List.forall₂_map_left_iff, List.forall₂_same]
  exact h

lemma mem_of_lookup {fs : Fields} {wire own key : String} {v : Value}
    (h : lookup fs wire own = some (key, v)) : (key, v) ∈ fs := by
  unfold lookup at h
  split at h
  next heq =>
    obtain ⟨rfl, rfl⟩ := Prod.mk.inj (Option.some.inj h)
    exact Fields.get?_eq_some heq
  next =>
    obtain ⟨w, hw, heq⟩ := Option.map_eq_some_iff.mp h
    obtain ⟨rfl, rfl⟩ := Prod.mk.inj heq
    exact Fields.get?_eq_some hw

/-- What a field is read as comes from one of the fields. -/
lemma required_eq_ok {fs : Fields} {wire own : String} {a : α}
    (h : required fs wire own r = ok a) : ∃ key v, (key, v) ∈ fs ∧ r v = ok a := by
  unfold required at h
  split at h
  next key v hlookup => exact ⟨key, v, mem_of_lookup hlookup, under_eq_ok.mp h⟩
  next => exact absurd (under_eq_ok.mp h) wrong_ne_ok

lemma optional_eq_ok {fs : Fields} {wire own : String} {default a : α}
    (h : optional fs wire own default r = ok a) :
    a = default ∨ ∃ key v, (key, v) ∈ fs ∧ r v = ok a := by
  unfold optional at h
  split at h
  next key v hlookup => exact .inr ⟨key, v, mem_of_lookup hlookup, under_eq_ok.mp h⟩
  next => exact .inl (ok_inj.mp h).symm

lemma nullable_of_ne_null {v : Value} (h : v ≠ .null) : nullable r v = some <$> r v := by
  cases v <;> first | rfl | exact absurd rfl h

end Reader

/-! ## Points -/

/-- Both coordinates are from zero to one. -/
structure Point.InFrame (p : Point) : Prop where
  left : Double.zero.le p.x = true
  right : p.x.le Double.one = true
  top : Double.zero.le p.y = true
  bottom : p.y.le Double.one = true

namespace Record

open Reader

lemma coordinate_eq_ok {v : Value} {x : Double} (h : coordinate v = ok x) :
    Double.zero.le x = true ∧ x.le Double.one = true := by
  obtain ⟨y, -, h⟩ := andThen_eq_ok.mp h
  split at h
  · simp at h
  next hmost =>
    split at h
    · simp at h
    next hleast =>
      obtain rfl := ok_inj.mp h
      exact ⟨by simpa using hleast, by simpa using hmost⟩

lemma coordinate_float {x : Double} (hleast : Double.zero.le x = true)
    (hmost : x.le Double.one = true) : coordinate (.float x) = ok x := by
  have hread : double (.float x) = ok x := rfl
  rw [coordinate, doubleBetween, hread, ok_andThen, hmost, hleast]
  rfl

lemma point_eq_ok {v : Value} {p : Point} (h : point v = ok p) : p.InFrame := by
  obtain ⟨⟨x, y⟩, hpair, rfl⟩ := map_eq_ok.mp h
  unfold pair at hpair
  split at hpair
  next items hitems =>
    split at hpair
    · simp at hpair
    · obtain ⟨g, y', hg, hy, heq⟩ := seq_eq_ok.mp hpair
      obtain ⟨x', hx, rfl⟩ := map_eq_ok.mp hg
      obtain ⟨rfl, rfl⟩ := Prod.mk.inj heq
      have hpart : ∀ {n : Nat} {v : Option Value} {z : Double}, part coordinate n v = ok z →
          Double.zero.le z = true ∧ z.le Double.one = true := by
        intro n v z hz
        cases v with
        | none => exact absurd (under_eq_ok.mp hz) wrong_ne_ok
        | some v => exact coordinate_eq_ok (under_eq_ok.mp hz)
      exact ⟨(hpart hx).1, (hpart hx).2, (hpart hy).1, (hpart hy).2⟩
  · simp at hpair

lemma point_toValue {p : Point} (h : p.InFrame) : point p.toValue = ok p := by
  have hx : part coordinate 0 (some (.float p.x)) = ok p.x :=
    under_eq_ok.mpr (coordinate_float h.left h.right)
  have hy : part coordinate 1 (some (.float p.y)) = ok p.y :=
    under_eq_ok.mpr (coordinate_float h.top h.bottom)
  have hpair : pair coordinate p.toValue = ok (p.x, p.y) := by
    show Prod.mk <$> part coordinate 0 (some (.float p.x)) <*>
      part coordinate 1 (some (.float p.y)) = _
    rw [hx, hy]
    rfl
  rw [point, hpair]
  rfl

lemma points_inFrame {v : Value} {ps : List Point} (h : list point v = ok ps) :
    ∀ p ∈ ps, p.InFrame := by
  obtain ⟨items, -, hitems⟩ := list_eq_ok.mp h
  intro p hp
  obtain ⟨w, -, hw⟩ := exists_of_forall₂ hitems.flip hp
  exact point_eq_ok hw

lemma points_toValue {ps : List Point} (h : ∀ p ∈ ps, p.InFrame) :
    list point (Point.listToValue ps) = ok ps :=
  list_map fun p hp => point_toValue (h p hp)

/-- The corners of a zone are read from what is written of them. -/
lemma corners_toValue {ps : List Point} (hlength : 3 ≤ ps.length) (h : ∀ p ∈ ps, p.InFrame) :
    listMin 3 point (Point.listToValue ps) = ok ps :=
  listMin_eq_ok.mpr ⟨points_toValue h, hlength⟩

/-- The ends of a line are read from what is written of them. -/
lemma ends_toValue {ps : List Point} (hlength : ps.length = 2) (h : ∀ p ∈ ps, p.InFrame) :
    listOf 2 point (Point.listToValue ps) = ok ps :=
  listOf_eq_ok.mpr ⟨points_toValue h, hlength⟩

lemma direction_name (d : Direction) : oneOf Direction.ofName? (.text d.name) = ok d := by
  cases d <;> rfl

end Record

/-! ## Sound records -/

/-- The label of a target is a name. -/
structure Target.Sound (t : Target) : Prop where
  nonempty : t.label.isEmpty = false
  whole : Text.Half.isIn t.label = false

def Number.NonNegative : Number → Prop
  | .int n => 0 ≤ n
  | .float x => Double.zero.le x = true

/-- What of a body a reader looks at beyond its form. -/
def Body.Sound : Body → Prop
  | .zone points target _ =>
    3 ≤ points.length ∧ (∀ p ∈ points, p.InFrame) ∧ ∀ t ∈ target, t.Sound
  | .line points _ target _ =>
    points.length = 2 ∧ (∀ p ∈ points, p.InFrame) ∧ ∀ t ∈ target, t.Sound
  | .timeout seconds => seconds.NonNegative
  | _ => True

/-- A record that a reader accepts. -/
structure Record.Sound (r : Record) : Prop where
  nonempty : r.id.isEmpty = false
  whole : Text.Half.isIn r.id = false
  body : r.body.Sound

namespace Reader

lemma seconds_eq_ok {v : Value} {n : Number} (h : seconds v = ok n) : n.NonNegative := by
  have hint : ∀ {m : Int}, (nonNegativeInt v).under (.field "constrained-int") = ok m → 0 ≤ m := by
    intro m hm
    obtain ⟨k, -, hk⟩ := andThen_eq_ok.mp (under_eq_ok.mp hm)
    split at hk
    next hle => exact ok_inj.mp hk ▸ hle
    · simp at hk
  have hdouble : ∀ {x : Double}, (nonNegativeDouble v).under (.field "constrained-float") = ok x →
      Double.zero.le x = true := by
    intro x hx
    obtain ⟨y, -, hy⟩ := andThen_eq_ok.mp (under_eq_ok.mp hx)
    split at hy
    next hle => exact ok_inj.mp hy ▸ hle
    · simp at hy
  unfold seconds at h
  dsimp only at h
  split at h
  next heq =>
    obtain rfl := ok_inj.mp h
    exact hdouble heq
  next heq =>
    obtain rfl := ok_inj.mp h
    exact hdouble heq
  next heq _ _ =>
    obtain rfl := ok_inj.mp h
    exact hint heq
  next _ _ _ heq =>
    obtain rfl := ok_inj.mp h
    exact hdouble heq
  · simp at h

lemma seconds_toValue {n : Number} (h : n.NonNegative) : seconds n.toValue = ok n := by
  cases n with
  | int n =>
    have hint : nonNegativeInt (Number.int n).toValue = ok n := if_pos h
    unfold seconds
    rw [hint]
    rfl
  | float x =>
    have hdouble : nonNegativeDouble (Number.float x).toValue = ok x := if_pos h
    unfold seconds
    rw [hdouble]
    rfl

lemma fieldsIn_object (fs : Fields) :
    fieldsIn (fs.map fun f => (.text f.1, f.2)) = fs := by
  rw [fieldsIn, List.filterMap_map]
  exact List.filterMap_some

lemma lenient_object {α : Type} (r : Fields → Checked α) (fs : Fields) :
    lenient r (.object fs) = r fs := by
  show r (fieldsIn (fs.map fun f => (.text f.1, f.2))) = r fs
  rw [fieldsIn_object]

end Reader

namespace Record

open Reader

lemma target_of_isJson {v : Value} (hv : v.IsJson) {t : Target} (h : target v = ok t) :
    t.Sound := by
  cases hv with
  | object hfields =>
    rw [target, lenient_object] at h
    obtain ⟨_, _, hmade, -, rfl⟩ := seq_eq_ok.mp h
    obtain ⟨label, hlabel, rfl⟩ := map_eq_ok.mp hmade
    obtain ⟨key, w, hw, hname⟩ := required_eq_ok hlabel
    obtain ⟨-, hempty, hwhole⟩ := name_of_isJson (hfields _ hw) hname
    exact ⟨hempty, hwhole⟩
  | _ => exact absurd h broken_ne_ok

lemma target_targetValue {t : Target} (h : t.Sound) : target (targetValue t) = ok t := by
  obtain ⟨label, classifiers⟩ := t
  have hlabel : Reader.name (.text label) = ok label :=
    name_text.mpr ⟨rfl, h.nonempty, h.whole⟩
  rw [targetValue, target, lenient_object, seq_eq_ok]
  refine ⟨Target.mk label, classifiers, map_eq_ok.mpr ⟨label, under_eq_ok.mpr hlabel, rfl⟩, ?_, rfl⟩
  cases classifiers with
  | none => rfl
  | some ss =>
    have htexts : Reader.list text (Value.ofTexts ss) = ok ss := list_map fun s _ => text_text s
    refine under_eq_ok.mpr ?_
    show Checked.map some (Reader.list text (Value.ofTexts ss)) = _
    rw [htexts]
    rfl

/-- The fields of the header, which no body has. -/
def headerNames : List String :=
  ["eventSettingId", "eventSettingName", "parentId", "eventType"]

/-- A body is read past the header. -/
lemma bodyOf_append {head fs : Fields} (h : ∀ f ∈ head, f.1 ∈ headerNames) (shape : Kind) :
    bodyOf shape (head ++ fs) = bodyOf shape fs := by
  have hlookup : ∀ wire own : String, wire ∉ headerNames → own ∉ headerNames →
      lookup (head ++ fs) wire own = lookup fs wire own := by
    intro wire own hwire hown
    have hget : ∀ key : String, key ∉ headerNames →
        Fields.get? (head ++ fs) key = Fields.get? fs key := by
      intro key hkey
      apply Fields.get?_append
      intro hmem
      obtain ⟨f, hf, rfl⟩ := List.mem_map.mp hmem
      exact hkey (h f hf)
    rw [lookup, lookup, hget wire hwire, hget own hown]
  have hrequired : ∀ {α : Type} (wire own : String) (r : Reader α), wire ∉ headerNames →
      own ∉ headerNames → required (head ++ fs) wire own r = required fs wire own r := by
    intro α wire own r hwire hown
    rw [required, required, hlookup wire own hwire hown]
  have hoptional : ∀ {α : Type} (wire own : String) (default : α) (r : Reader α), wire ∉ headerNames →
      own ∉ headerNames → Reader.optional (head ++ fs) wire own default r =
        Reader.optional fs wire own default r := by
    intro α wire own default r hwire hown
    rw [Reader.optional, Reader.optional, hlookup wire own hwire hown]
  have htarget : targetField (head ++ fs) = targetField fs :=
    hoptional _ _ _ _ (by decide) (by decide)
  have hpoint : detectionPointField (head ++ fs) = detectionPointField fs :=
    hoptional _ _ _ _ (by decide) (by decide)
  cases shape with
  | zone => rw [bodyOf, bodyOf, hrequired _ _ _ (by decide) (by decide), htarget, hpoint]
  | line =>
    rw [bodyOf, bodyOf, hrequired _ _ _ (by decide) (by decide),
      hoptional _ _ _ _ (by decide) (by decide), htarget, hpoint]
  | count => rw [bodyOf, bodyOf, hrequired _ _ _ (by decide) (by decide)]
  | timeout => rw [bodyOf, bodyOf, hrequired _ _ _ (by decide) (by decide)]
  | speed => rw [bodyOf, bodyOf, hoptional _ _ _ _ (by decide) (by decide)]
  | merge => rw [bodyOf, bodyOf, hoptional _ _ _ _ (by decide) (by decide)]
  | alarm => rw [bodyOf, bodyOf, hoptional _ _ _ _ (by decide) (by decide)]
  | object => rfl
  | event => rfl

/-- What is read as a body is sound. -/
lemma sound_of_bodyOf {shape : Kind} {fs : Fields} {b : Body}
    (hjson : ∀ f ∈ fs, f.2.IsJson) (h : bodyOf shape fs = ok b) : b.Sound := by
  have htarget : ∀ {found : Option Target}, targetField fs = ok found → ∀ t ∈ found, t.Sound := by
    intro found hfound t ht
    obtain rfl := Option.mem_def.mp ht
    rcases optional_eq_ok hfound with hnone | ⟨key, v, hv, hread⟩
    · simp at hnone
    · have hnull : v ≠ .null := by
        rintro rfl
        exact absurd (ok_inj.mp hread) (by simp)
      rw [nullable_of_ne_null hnull] at hread
      obtain ⟨t', ht', heq⟩ := map_eq_ok.mp hread
      obtain rfl := Option.some.inj heq
      exact target_of_isJson (hjson _ hv) ht'
  cases shape with
  | zone =>
    obtain ⟨_, _, _, hpoints, ht, -, rfl⟩ := bodyOf_zone_eq_ok.mp h
    obtain ⟨key, v, -, hread⟩ := required_eq_ok hpoints
    obtain ⟨hlist, hlength⟩ := listMin_eq_ok.mp hread
    exact ⟨hlength, points_inFrame hlist, htarget ht⟩
  | line =>
    obtain ⟨_, _, _, _, hpoints, -, ht, -, rfl⟩ := bodyOf_line_eq_ok.mp h
    obtain ⟨key, v, -, hread⟩ := required_eq_ok hpoints
    obtain ⟨hlist, hlength⟩ := listOf_eq_ok.mp hread
    exact ⟨hlength, points_inFrame hlist, htarget ht⟩
  | timeout =>
    obtain ⟨n, hn, rfl⟩ := map_eq_ok.mp h
    obtain ⟨key, v, -, hread⟩ := required_eq_ok hn
    exact seconds_eq_ok hread
  | object => exact absurd h wrong_ne_ok
  | event => exact absurd h wrong_ne_ok
  | _ =>
    obtain ⟨_, -, rfl⟩ := map_eq_ok.mp h
    exact trivial

/-- A record that is read from JSON values is sound. -/
theorem sound_of_checkFields {shape : Kind} {fs : Fields} {r : Record}
    (hjson : ∀ f ∈ fs, f.2.IsJson) (h : checkFields shape fs = ok r) : r.Sound := by
  obtain ⟨hid, -, -, -, hbody⟩ := checkFields_eq_ok.mp h
  obtain ⟨key, v, hv, hname⟩ := required_eq_ok hid
  obtain ⟨-, hempty, hwhole⟩ := name_of_isJson (hjson _ hv) hname
  exact ⟨hempty, hwhole, sound_of_bodyOf hjson hbody⟩

theorem sound_of_read {v : Value} (hv : v.IsJson) {r : Record} (h : read v = ok r) : r.Sound := by
  cases hv with
  | object hfields =>
    obtain ⟨⟨tag, shape⟩, -, hread⟩ := andThen_eq_ok.mp h
    exact sound_of_checkFields hfields (under_eq_ok.mp hread)
  | _ => exact absurd h broken_ne_ok

/-! ## Reading what was written -/

lemma targetField_eq {fs : Fields} {t : Option Target} (ht : ∀ t' ∈ t, t'.Sound)
    (hlookup : lookup fs "target" "target" = t.map fun t => ("target", targetValue t)) :
    targetField fs = ok t := by
  rw [targetField, Reader.optional, hlookup]
  cases t with
  | none => rfl
  | some t =>
    refine under_eq_ok.mpr ?_
    show Checked.map some (target (targetValue t)) = _
    rw [target_targetValue (ht t rfl)]
    rfl

lemma detectionPointField_eq {fs : Fields} {s : Option String}
    (hlookup : lookup fs "detectionPoint" "detection_point" =
      s.map fun s => ("detectionPoint", .text s)) :
    detectionPointField fs = ok s := by
  rw [detectionPointField, Reader.optional, hlookup]
  cases s with
  | none => rfl
  | some s => exact under_eq_ok.mpr (nullable_text_ofText? (some s))

/-- A sound body is read from its fields. -/
lemma bodyOf_bodyFields {b : Body} (h : b.Sound) : bodyOf b.kind (bodyFields b) = ok b := by
  cases b with
  | zone points target point =>
    obtain ⟨hlength, hframe, htarget⟩ := h
    rw [Body.kind, bodyOf_zone_eq_ok]
    refine ⟨points, target, point, under_eq_ok.mpr (corners_toValue hlength hframe), ?_, ?_, rfl⟩
    · exact targetField_eq htarget (by cases target <;> cases point <;> rfl)
    · exact detectionPointField_eq (by cases target <;> cases point <;> rfl)
  | line points direction target point =>
    obtain ⟨hlength, hframe, htarget⟩ := h
    rw [Body.kind, bodyOf_line_eq_ok]
    refine ⟨points, direction, target, point, under_eq_ok.mpr (ends_toValue hlength hframe),
      under_eq_ok.mpr (direction_name direction), ?_, ?_, rfl⟩
    · exact targetField_eq htarget (by cases target <;> cases point <;> rfl)
    · exact detectionPointField_eq (by cases target <;> cases point <;> rfl)
  | count condition =>
    have hread : text (.text condition) = ok condition := text_text condition
    exact map_eq_ok.mpr ⟨condition, under_eq_ok.mpr hread, rfl⟩
  | timeout seconds =>
    exact map_eq_ok.mpr ⟨seconds, under_eq_ok.mpr (seconds_toValue h), rfl⟩
  | speed turn => cases turn <;> rfl
  | merge inOrder =>
    cases inOrder with
    | none => rfl
    | some b => cases b <;> rfl
  | alarm ext => exact map_eq_ok.mpr ⟨ext, under_eq_ok.mpr (text_text ext), rfl⟩

lemma lookup_parent (r : Record) :
    lookup r.fields "parentId" "parent_id" = r.parent.map fun p => ("parentId", .text p) := by
  obtain ⟨id, name, parent, body⟩ := r
  cases parent with
  | some p => rfl
  | none =>
    cases body with
    | zone points target dp => cases target <;> cases dp <;> rfl
    | line points direction target dp => cases target <;> cases dp <;> rfl
    | speed turn => cases turn <;> rfl
    | merge inOrder => cases inOrder <;> rfl
    | _ => rfl

lemma shapeOf_fields (r : Record) : ∃ tag, shapeOf r.fields = ok (tag, r.body.kind) := by
  obtain ⟨id, name, parent, body⟩ := r
  cases parent <;> cases body with
  | timeout seconds => cases seconds <;> exact ⟨_, rfl⟩
  | _ => exact ⟨_, rfl⟩

/-- The fields in front of the body. -/
def header (r : Record) : Fields :=
  ("eventSettingId", .text r.id) :: ("eventSettingName", .text r.name) ::
    present "parentId" (r.parent.map .text) ++ [("eventType", .text r.body.recordType.name)]

lemma fields_eq (r : Record) : r.fields = r.header ++ bodyFields r.body := by
  simp [fields, header]

lemma header_names {r : Record} : ∀ f ∈ r.header, f.1 ∈ headerNames := by
  have hsub : r.header.map (·.1) ⊆ headerNames := by
    unfold header
    cases r.parent <;> simp [present, headerNames]
  intro f hf
  exact hsub (List.mem_map_of_mem hf)

lemma checkFields_fields {r : Record} (h : r.Sound) : checkFields r.body.kind r.fields = ok r := by
  rw [checkFields_eq_ok]
  refine ⟨?_, ?_, ?_, ?_, ?_⟩
  · exact under_eq_ok.mpr (name_text.mpr ⟨rfl, h.nonempty, h.whole⟩)
  · exact under_eq_ok.mpr (text_text r.name)
  · rw [Reader.optional, lookup_parent]
    cases r.parent with
    | none => rfl
    | some p => exact under_eq_ok.mpr (nullable_text_ofText? (some p))
  · obtain ⟨id, name, parent, body⟩ := r
    cases parent <;> cases body <;> rfl
  · rw [fields_eq, bodyOf_append header_names]
    exact bodyOf_bodyFields h.body

/-- A sound record is read from what is written of it. -/
theorem read_toValue {r : Record} (h : r.Sound) : read r.toValue = ok r := by
  obtain ⟨tag, htag⟩ := shapeOf_fields r
  show (shapeOf r.fields).andThen _ = _
  rw [htag, ok_andThen]
  exact under_eq_ok.mpr (checkFields_fields h)

end Record
end DetectionFlow
