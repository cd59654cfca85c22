import DetectionFlow.Proofs.AdviceTheorems
import DetectionFlow.Proofs.CheckedGraphs
import DetectionFlow.Proofs.DeclaredPayloads

/-!
# Payloads of the right types

A payload is typed (`Payload.Typed`) if each of its fields holds a value of the type that the field is
declared with, of whatever size. What the record of a typed payload can still be refused for are the
limits of its schema (`Payload.WithinLimits`) and integers that are too long to be written
(`Payload.HoldsLong`): with neither, the payload is read as a body (`Payload.Typed.readAs_iff`).
-/

namespace DetectionFlow

open Checked Double

/-! ## Types -/

namespace Value

/-- An integer; truth values are among them. -/
def IsInteger (v : Value) : Prop := ∃ n, v.number? = some (.int n)

/-- A list of texts as the list of what they say. -/
lemma exists_texts {vs : List Value} (h : ∀ v ∈ vs, v.IsText) : ∃ ss : List String, ss.map text = vs := by
  have hrange : vs ∈ Set.range (List.map text) := by
    rw [Set.range_list_map]
    intro v hv
    obtain ⟨s, rfl⟩ := h v hv
    exact ⟨s, rfl⟩
  exact hrange

end Value

/-- All fields of a binding have their types. -/
structure SensorBinding.Typed (b : SensorBinding) : Prop where
  sensorId : b.sensorId.IsWholeText
  sensorTypeId : b.sensorTypeId.IsWholeText
  channel : b.channel.IsWholeText
  alarmValue : b.alarmValue.IsWholeText
  duration : b.duration.IsNumeric
  priority : b.priority = .null ∨ b.priority.IsInteger

/-- All fields of a payload have their types. -/
def Payload.Typed : Payload → Prop
  | .object classes classifiers =>
    (∀ v ∈ classes, v.IsWholeText) ∧ ∀ v ∈ classifiers, v.IsWholeText
  | .zone _ detectionPoint | .line _ _ detectionPoint =>
    detectionPoint = .null ∨ detectionPoint.IsWholeText
  | .event => True
  | .count condition => condition.IsWholeText
  | .timeout seconds => seconds.IsNumeric
  | .speed turn => turn = .null ∨ turn.IsInteger
  | .merge inOrder => inOrder = .null ∨ ∃ b, inOrder = .bool b
  | .alarm bindings => ∀ b ∈ bindings, b.Typed

/-- A typed Timeout has a number of seconds. -/
lemma Payload.Typed.timed {p : Payload} (h : p.Typed) : p.Timed := by
  cases p with
  | timeout seconds => exact h
  | _ => trivial

/-! ## Integers that are too long -/

/-- A number of the binding is an integer with too many digits. -/
def SensorBinding.HoldsLong (b : SensorBinding) : Prop :=
  ∃ n, (b.duration = .int n ∨ b.priority = .int n) ∧ Fault.isLong n = true

/-- A binding of the payload holds an integer with too many digits. -/
def Payload.HoldsLong : Payload → Prop
  | .alarm bindings => ∃ b ∈ bindings, b.HoldsLong
  | _ => False

namespace Alarm

open Json

/-- A number can be written unless it is an integer with too many digits. -/
lemma fault?_numeric {v : Value} (h : v.IsNumeric) :
    fault? v = none ↔ ∀ n, v = .int n → Fault.isLong n = false := by
  obtain ⟨x, hx⟩ := h
  cases v with
  | int n => simp [fault?]
  | bool b => simp [fault?]
  | float y => simp [fault?]
  | undefined => simp [fault?]
  | _ => cases hx

/-- The entry of a typed binding can be written unless the binding holds an integer with too many
digits. -/
lemma fault?_entry_iff {b : SensorBinding} (h : b.Typed) :
    fault? (.object (entryFields b)) = none ↔ ¬ b.HoldsLong := by
  have hpriority : (∀ f ∈ priorityField b.priority, fault? f.2 = none) ↔
      ∀ n, b.priority = .int n → Fault.isLong n = false := by
    rcases h.priority with hnull | ⟨n, hn⟩
    · simp [hnull, priorityField]
    · have hfield : priorityField b.priority = [("priority", b.priority)] := by
        cases hvalue : b.priority with
        | null => simp [hvalue, Value.number?] at hn
        | _ => rfl
      rw [hfield, ← fault?_numeric ⟨_, hn⟩]
      simp
  have htexts : ∀ {v : Value}, v.IsWholeText → (fault? v = none ↔ True) :=
    fun hv => iff_true_intro (fault?_text hv.isText)
  rw [fault?, faultInFields?_eq_none_iff, entryFields, List.forall_mem_append, hpriority]
  simp only [List.forall_mem_cons, htexts h.sensorId, htexts h.sensorTypeId, htexts h.channel,
    htexts h.alarmValue, fault?_numeric h.duration, true_and, List.not_mem_nil, false_implies,
    implies_true, and_true]
  constructor
  · rintro ⟨hduration, hprio⟩ ⟨n, hn | hn, hlong⟩
    · simp [hduration n hn] at hlong
    · simp [hprio n hn] at hlong
  · intro hshort
    refine ⟨fun n hn => ?_, fun n hn => ?_⟩
    · exact Bool.eq_false_iff.mpr fun hlong => hshort ⟨n, .inl hn, hlong⟩
    · exact Bool.eq_false_iff.mpr fun hlong => hshort ⟨n, .inr hn, hlong⟩

/-- Typed bindings can be written unless one of them holds an integer with too many digits. -/
lemma encode_ok_iff {bindings : List SensorBinding} (h : ∀ b ∈ bindings, b.Typed) :
    (∃ ext, encode bindings = .ok ext) ↔ ∀ b ∈ bindings, ¬ b.HoldsLong := by
  rw [exists_encode_iff]
  exact forall₂_congr fun b hb => fault?_entry_iff (h b hb)

end Alarm

lemma Payload.Typed.writable_iff {p : Payload} (h : p.Typed) : p.Writable ↔ ¬ p.HoldsLong := by
  cases p with
  | alarm bindings =>
    rw [Payload.Writable, Alarm.encode_ok_iff h, Payload.HoldsLong]
    simp
  | _ => simp [Payload.Writable, Payload.HoldsLong]

/-! ## Limits -/

/-- The seconds are a number that is not below zero. -/
def Value.IsNonNegative (v : Value) : Prop := ∃ x, v.number? = some x ∧ x.lt (.int 0) = false

/-- The limits that the schema of a record sets to a payload beyond its types. -/
def Payload.WithinLimits : Payload → Prop
  | .zone points _ => 3 ≤ points.length ∧ ∀ p ∈ points, p.InFrame
  | .line points _ _ => points.length = 2 ∧ ∀ p ∈ points, p.InFrame
  | .timeout seconds => seconds.IsNonNegative
  | _ => True

namespace Number

lemma lt_zero_int {n : Int} : (int n).lt (int 0) = false ↔ 0 ≤ n := by
  simp [lt, compare?, compare_lt_iff_lt]

/-- Of the doubles, only one that is no number is neither below zero nor above or at it. -/
lemma lt_zero_float {x : Double} (hx : x ≠ .nan) :
    (float x).lt (int 0) = false ↔ Double.zero.le x = true := by
  rw [Reader.zero_le_iff]
  cases x with
  | nan => exact absurd rfl hx
  | infinity negative =>
    have hlimit : limitUnits ≠ 0 := limitUnits_eq ▸ (Nat.two_pow_pos limitBits).ne'
    cases negative <;> simp [lt, compare?, compareInt?, place?, signed, hlimit]
  | finite negative units h => simp [lt, compare?, compareInt?, place?, compare_lt_iff_lt]

end Number

namespace Reader

/-- Seconds are read exactly if they are a number that is not below zero. -/
lemma seconds_ok_iff {v : Value} (hv : v.IsNumeric) (hnan : v.number? ≠ some (.float .nan)) :
    (∃ n, seconds v = ok n) ↔ v.IsNonNegative := by
  obtain ⟨x, hx⟩ := hv
  have hsign : v.IsNonNegative ↔ x.lt (.int 0) = false := by simp [Value.IsNonNegative, hx]
  rw [hsign]
  cases v with
  | bool b =>
    obtain rfl := Option.some.inj hx
    have hread : seconds (.bool b) = ok (.int (if b then 1 else 0)) := by cases b <;> rfl
    rw [Number.lt_zero_int]
    exact ⟨fun _ => by cases b <;> decide, fun _ => ⟨_, hread⟩⟩
  | int n =>
    obtain rfl := Option.some.inj hx
    rw [Number.lt_zero_int]
    refine ⟨?_, fun h => ⟨_, seconds_toValue (n := .int n) h⟩⟩
    rintro ⟨m, hm⟩
    have hsound := seconds_eq_ok hm
    rwa [seconds_int_eq_ok hm] at hsound
  | float y =>
    obtain rfl := Option.some.inj hx
    rw [Number.lt_zero_float fun heq => hnan (by rw [heq]; rfl)]
    refine ⟨?_, fun h => ⟨_, seconds_toValue (n := .float y) h⟩⟩
    rintro ⟨m, hm⟩
    have hsound := seconds_eq_ok hm
    rwa [seconds_float_eq_ok hm] at hsound
  | undefined => exact absurd rfl hnan
  | _ => cases hx

end Reader

/-! ## Targets -/

namespace Record

open Reader

/-- The target with a class and classifiers, which are absent if there are none. Only the class can be
refused. -/
lemma target_texts (label : String) (classifiers : List String) :
    target (.object [("label", .text label), ("classifiers",
      if (classifiers.map Value.text).isEmpty then .null else .list (classifiers.map .text))]) =
      ((Reader.name (.text label)).under (.field "label")).map
        (Target.mk · (if classifiers.isEmpty then none else some classifiers)) := by
  have hclassifiers : nullable (Reader.list text)
      (if (classifiers.map Value.text).isEmpty then .null else .list (classifiers.map .text)) =
        ok (if classifiers.isEmpty then none else some classifiers) := by
    cases classifiers with
    | nil => rfl
    | cons s rest =>
      have htexts : Reader.list text (.list ((s :: rest).map .text)) = ok (s :: rest) :=
        list_map fun s _ => text_text s
      show nullable (Reader.list text) (.list ((s :: rest).map .text)) = ok (some (s :: rest))
      rw [nullable_of_ne_null (by simp), htexts]
      rfl
  rw [target, lenient_object]
  show Target.mk <$> (Reader.name (.text label)).under (.field "label") <*>
    (nullable (Reader.list text) _).under (.field "classifiers") = _
  rw [hclassifiers]
  rcases (Reader.name (.text label)).ok_or_broken with ⟨s, h⟩ | ⟨vs, h⟩ <;> rw [h] <;> rfl

end Record

namespace Graph

variable {g : Graph}

/-- The classes of the Objects are texts that are not empty, and so their first ones can be targets. -/
def Labelled (g : Graph) : Prop :=
  ∀ n ∈ g.nodes, ∀ classes classifiers, n.payload = .object classes classifiers →
    ∀ v ∈ classes, v ≠ .text ""

/-- Every node of a graph of typed payloads has its target, or has none. -/
lemma resolveTarget_ok (htyped : ∀ n ∈ g.nodes, n.payload.Typed) (hlabelled : g.Labelled)
    (id : String) : ∃ t, g.resolveTarget id = ok t ∧ ∀ t' ∈ t, t'.Sound := by
  have hnone : ∀ t' ∈ (none : Option Target), t'.Sound := by simp
  unfold resolveTarget
  split
  next objectId label position classes classifiers hobject =>
    have hmem := (object_of_ascend hobject).1
    obtain ⟨hclasses, hclassifiers⟩ := htyped _ hmem
    cases classes with
    | nil => exact ⟨none, rfl, hnone⟩
    | cons v rest =>
      have hne := hlabelled _ hmem _ _ rfl v List.mem_cons_self
      obtain ⟨s, rfl, hwhole⟩ := hclasses v List.mem_cons_self
      have hnonempty : s.isEmpty = false := by simpa using hne
      obtain ⟨ss, rfl⟩ := Value.exists_texts fun w hw => (hclassifiers w hw).isText
      have hlabel : Reader.name (.text s) = ok s := Reader.name_text.mpr ⟨rfl, hnonempty, hwhole⟩
      dsimp only [targetFields]
      rw [Record.target_texts, hlabel]
      exact ⟨_, rfl, fun t ht => Option.some.inj ht ▸ ⟨hnonempty, hwhole⟩⟩
  next => exact ⟨none, rfl, hnone⟩

end Graph

/-! ## Bodies -/

namespace Payload

open Reader

/-- A typed payload is read exactly if it keeps the limits and can be written. -/
lemma Typed.readAs_iff {p : Payload} (h : p.Typed) (hemits : p.kind.emits = true)
    (hnan : ∀ v, p = .timeout v → v.number? ≠ some (.float .nan)) {target : Option Target}
    (hsound : ∀ t ∈ target, t.Sound) :
    (∃ b, p.ReadAs (ok target) b) ↔ p.WithinLimits ∧ ¬ p.HoldsLong := by
  cases p with
  | object => exact absurd hemits Bool.false_ne_true
  | event => exact absurd hemits Bool.false_ne_true
  | zone points detectionPoint =>
    constructor
    · rintro ⟨b, hread⟩
      cases hread with
      | zone _ _ hlength hframe => exact ⟨⟨hlength, hframe⟩, not_false⟩
    · rintro ⟨⟨hlength, hframe⟩, -⟩
      obtain ⟨s, hs⟩ := exists_nullable_text h
      exact ⟨_, .zone rfl hsound hlength hframe hs⟩
  | line points direction detectionPoint =>
    constructor
    · rintro ⟨b, hread⟩
      cases hread with
      | line _ _ _ hlength hframe => exact ⟨⟨hlength, hframe⟩, not_false⟩
    · rintro ⟨⟨hlength, hframe⟩, -⟩
      obtain ⟨s, hs⟩ := exists_nullable_text h
      exact ⟨_, .line direction rfl hsound hlength hframe hs⟩
  | count condition =>
    obtain ⟨s, rfl, -⟩ := h
    exact iff_of_true ⟨_, .count (text_text s)⟩ ⟨trivial, not_false⟩
  | timeout seconds =>
    rw [WithinLimits, ← seconds_ok_iff h (hnan seconds rfl)]
    constructor
    · rintro ⟨b, hread⟩
      cases hread with
      | timeout hn => exact ⟨⟨_, hn⟩, not_false⟩
    · rintro ⟨⟨n, hn⟩, -⟩
      exact ⟨_, .timeout hn⟩
  | speed turn =>
    have hread : ∃ k, nullable int turn = ok k := by
      rcases h with rfl | ⟨k, hk⟩
      · exact ⟨none, rfl⟩
      · cases turn <;> cases hk <;> exact ⟨_, rfl⟩
    obtain ⟨k, hk⟩ := hread
    exact iff_of_true ⟨_, .speed hk⟩ ⟨trivial, not_false⟩
  | merge inOrder =>
    have hread : ∃ k, nullable bool inOrder = ok k := by
      rcases h with rfl | ⟨k, rfl⟩
      · exact ⟨none, rfl⟩
      · cases k <;> exact ⟨_, rfl⟩
    obtain ⟨k, hk⟩ := hread
    exact iff_of_true ⟨_, .merge hk⟩ ⟨trivial, not_false⟩
  | alarm bindings =>
    rw [← h.writable_iff]
    constructor
    · rintro ⟨b, hread⟩
      cases hread with
      | alarm hext => exact ⟨trivial, _, hext⟩
    · rintro ⟨-, ext, hext⟩
      exact ⟨_, .alarm hext⟩

end Payload
end DetectionFlow
