import DetectionFlow.Alarm
import DetectionFlow.Proofs.JsonListTheorems
import DetectionFlow.Proofs.NotedTheorems

/-!
# Alarm texts

What the text of an alarm loses of its bindings. Bindings are read back as they were written
(`Alarm.decode_encode`) except in two ways, which `SensorBinding.settled` names: halves of characters are
joined, and a double that equals an integer comes back as that integer.
-/

namespace DetectionFlow

open Double

/-! ## Settled values -/

namespace Value

/-- The value after it was written and read: a text with its halves joined, and a double that equals an
integer as that integer. -/
def settled : Value → Value
  | text s => text (Text.rejoin s)
  | float x => (Number.ofDouble x).toValue
  | v => v

def IsText (v : Value) : Prop := ∃ s, v = text s

/-- An integer that a double equals, or a finite double. -/
def IsNumber (v : Value) : Prop := (∃ n, v = int n ∧ Exact n) ∨ ∃ x, v = float x ∧ x.isFinite = true

/-- No priority, or an integer that a double equals. -/
def IsPriority (v : Value) : Prop := v = null ∨ ∃ n, v = int n ∧ Exact n

end Value

/-- Doubles have fewer digits in front of the point than integers may have. -/
lemma isLong_of_exact {n : Int} (h : Exact n) : Fault.isLong n = false := by
  obtain ⟨k, hk, hbits⟩ := unit_eq_pow
  have hlt : n.natAbs * unit < 2 ^ limitBits := lt_of_representable h
  have hdigits : limitBits - k ≤ Fault.digitLimit := by
    have : 1024 ≤ Fault.digitLimit := by decide
    omega
  rw [hk, show limitBits = limitBits - k + k by omega, pow_add] at hlt
  have hsmall : n.natAbs < 2 ^ (limitBits - k) := Nat.lt_of_mul_lt_mul_right hlt
  have hlimit : 2 ^ (limitBits - k) ≤ 10 ^ Fault.digitLimit :=
    (Nat.pow_le_pow_right (by omega) hdigits).trans (Nat.pow_le_pow_left (by omega) _)
  rw [Fault.isLong, decide_eq_false_iff_not]
  omega

/-! ## Bindings -/

namespace SensorBinding

/-- A binding that can be written and read. -/
structure Written (b : SensorBinding) : Prop where
  sensorId : b.sensorId.IsText
  sensorTypeId : b.sensorTypeId.IsText
  channel : b.channel.IsText
  alarmValue : b.alarmValue.IsText
  duration : b.duration.IsNumber
  priority : b.priority.IsPriority

/-- The binding after it was written and read. -/
def settled (b : SensorBinding) : SensorBinding :=
  ⟨b.sensorId.settled, b.sensorTypeId.settled, b.channel.settled, b.alarmValue.settled,
    b.duration.settled, b.priority⟩

end SensorBinding

namespace Alarm

open Json Value

/-! ## Writing -/

/-- A value as it stands in the text, before numbers are looked at. -/
def scanned : Value → Value
  | .text s => .text (Text.rejoin s)
  | v => v

/-- The value has a written form, and this is read as one token. -/
structure Legible (v : Value) : Prop where
  fault : fault? v = none
  scans : Scans (compact v).toList (scanned v)

lemma fault?_text {v : Value} (h : v.IsText) : fault? v = none := by
  obtain ⟨s, rfl⟩ := h
  rw [fault?]

lemma legible_text {v : Value} (h : v.IsText) : Legible v := by
  refine ⟨fault?_text h, ?_⟩
  obtain ⟨s, rfl⟩ := h
  exact scans_text s

lemma legible_of_exact {n : Int} (h : Exact n) : Legible (.int n) := by
  refine ⟨?_, scans_int (isLong_of_exact h)⟩
  rw [fault?, isLong_of_exact h]
  rfl

lemma legible_number {v : Value} (h : v.IsNumber) : Legible v := by
  rcases h with ⟨n, rfl, hn⟩ | ⟨x, rfl, hx⟩
  · exact legible_of_exact hn
  · exact ⟨by rw [fault?], scans_float hx⟩

/-- The entry of a binding as it stands in the text. -/
def scannedFields (b : SensorBinding) : Fields :=
  (entryFields b).map fun f => (f.1, scanned f.2)

lemma rejoin_names : ∀ name ∈ ["id", "typeId", "alarmType", "alarmValue", "duration", "priority"],
    Text.rejoin name = name := by
  intro name h
  refine Text.rejoin_of_whole ?_
  have hall : ∀ name ∈ ["id", "typeId", "alarmType", "alarmValue", "duration", "priority"],
      Text.Half.isIn name = false := by decide
  exact hall name h

lemma entryFields_names (b : SensorBinding) :
    (entryFields b).map (·.1) = ["id", "typeId", "alarmType", "alarmValue", "duration"] ∨
      (entryFields b).map (·.1) =
        ["id", "typeId", "alarmType", "alarmValue", "duration", "priority"] := by
  unfold entryFields
  cases b.priority <;> simp [priorityField]

/-- The fields of a binding are legible if its duration is. -/
lemma legible_entry {b : SensorBinding} (hsensor : b.sensorId.IsText) (htype : b.sensorTypeId.IsText)
    (hchannel : b.channel.IsText) (hvalue : b.alarmValue.IsText) (hduration : Legible b.duration)
    (hpriority : b.priority.IsPriority) : ∀ f ∈ entryFields b, Legible f.2 := by
  intro f hf
  rcases List.mem_append.mp hf with hf | hf
  · fin_cases hf
    · exact legible_text hsensor
    · exact legible_text htype
    · exact legible_text hchannel
    · exact legible_text hvalue
    · exact hduration
  · rcases hpriority with hnull | ⟨n, hn, hexact⟩
    · rw [hnull] at hf
      simp [priorityField] at hf
    · rw [hn] at hf
      obtain rfl := List.mem_singleton.mp hf
      exact legible_of_exact hexact

lemma legible_of_written {b : SensorBinding} (h : b.Written) : ∀ f ∈ entryFields b, Legible f.2 :=
  legible_entry h.sensorId h.sensorTypeId h.channel h.alarmValue (legible_number h.duration) h.priority

lemma objectReads_entry {b : SensorBinding} (h : ∀ f ∈ entryFields b, Legible f.2) :
    ObjectReads (entryFields b) (scannedFields b) := by
  have hnames : (scannedFields b).map (·.1) = (entryFields b).map (·.1) := by
    rw [scannedFields, List.map_map]
    rfl
  constructor
  · rw [scannedFields, List.forall₂_map_right_iff, List.forall₂_same]
    intro f hf
    refine ⟨(rejoin_names f.1 ?_).symm, (h f hf).scans⟩
    have hmem := List.mem_map_of_mem (f := (·.1)) hf
    rcases entryFields_names b with heq | heq <;> rw [heq] at hmem
    · exact List.mem_append_left ["priority"] hmem
    · exact hmem
  · rw [hnames]
    rcases entryFields_names b with heq | heq <;> rw [heq] <;> decide

/-! ## Reading -/

/-- What the fields of an entry are read as. -/
structure EntryReads (fs : Fields) (b : SensorBinding) : Prop where
  sensorId : textField fs "id" = .ok b.sensorId
  sensorTypeId : textField fs "typeId" = .ok b.sensorTypeId
  channel : textField fs "alarmType" = .ok b.channel
  alarmValue : textField fs "alarmValue" = .ok b.alarmValue
  duration : ∃ n, numberOf ((fs.get? "duration").getD (.int 0)) = .ok n ∧ n.toValue = b.duration
  priority : priorityOf (fs.get? "priority") = .ok b.priority

lemma ofFields_eq_ok {fs : Fields} {b : SensorBinding} : ofFields fs = .ok b ↔ EntryReads fs b := by
  constructor
  · intro h
    unfold ofFields at h
    obtain ⟨sensorId, hid, h⟩ := Except.bind_eq_ok.mp h
    obtain ⟨sensorTypeId, htype, h⟩ := Except.bind_eq_ok.mp h
    obtain ⟨channel, hchannel, h⟩ := Except.bind_eq_ok.mp h
    obtain ⟨alarmValue, hvalue, h⟩ := Except.bind_eq_ok.mp h
    obtain ⟨duration, hduration, h⟩ := Except.bind_eq_ok.mp h
    obtain ⟨priority, hpriority, h⟩ := Except.bind_eq_ok.mp h
    obtain rfl := Except.ok.inj h
    exact ⟨hid, htype, hchannel, hvalue, ⟨duration, hduration, rfl⟩, hpriority⟩
  · intro h
    obtain ⟨n, hnumber, hduration⟩ := h.duration
    unfold ofFields
    rw [h.sensorId, h.sensorTypeId, h.channel, h.alarmValue, hnumber, h.priority]
    show Except.ok _ = _
    rw [hduration]

lemma toFinite_of_toDouble {v : Value} {x : Double} (hbool : ∀ b, v ≠ .bool b)
    (hdouble : v.toDouble = .ok x) (hx : x.isFinite = true) :
    v.toFinite = .ok (.ofDouble x) := by
  unfold toFinite
  split
  next b => exact absurd rfl (hbool b)
  · rw [hdouble]
    exact if_pos hx

lemma toFinite_int {n : Int} (h : Exact n) : (Value.int n).toFinite = .ok (.int n) := by
  have hrep : Representable (n.natAbs * unit) := h
  have hdouble : (Value.int n).toDouble = .ok (finite (decide (n < 0)) (n.natAbs * unit) hrep) := by
    have helim : (Value.int n).toDouble = (ofInt? n).elim (.error .tooLarge) .ok := rfl
    rw [helim, ofInt?_of_exact hrep]
    rfl
  rw [toFinite_of_toDouble (by simp) hdouble rfl, Number.ofDouble, toInt?_finite]

lemma toFinite_float {x : Double} (h : x.isFinite = true) :
    (Value.float x).toFinite = .ok (.ofDouble x) :=
  toFinite_of_toDouble (by simp) rfl h

/-- A number is read as its settled value. -/
lemma numberOf_scanned {v : Value} (h : v.IsNumber) :
    ∃ n, numberOf (scanned v) = .ok n ∧ n.toValue = v.settled := by
  rcases h with ⟨n, rfl, hn⟩ | ⟨x, rfl, hx⟩
  · refine ⟨.int n, ?_, rfl⟩
    rw [scanned, numberOf, toFinite_int hn]
    rintro s ⟨⟩
  · refine ⟨.ofDouble x, ?_, rfl⟩
    rw [scanned, numberOf, toFinite_float hx]
    rintro s ⟨⟩

lemma priorityOf_field {v : Value} (h : v.IsPriority) :
    priorityOf ((Fields.get? (priorityField v) "priority").map scanned) = .ok v := by
  rcases h with rfl | ⟨n, rfl, hn⟩
  · rfl
  · have hget : Fields.get? (priorityField (.int n)) "priority" = some (.int n) := rfl
    have hnumber : numberOf (.int n) = .ok (.int n) := by rw [numberOf, toFinite_int hn]
    rw [hget]
    show (numberOf (.int n)).map _ = _
    rw [hnumber]
    rfl

lemma shown_scanned {v : Value} (h : v.IsText) : Value.text (scanned v).shown = v.settled := by
  obtain ⟨s, rfl⟩ := h
  rfl

/-- The entry of a written binding is read as the settled binding. -/
lemma ofFields_scanned {b : SensorBinding} (h : b.Written) :
    ofFields (scannedFields b) = .ok b.settled := by
  have htext : ∀ {v : Value}, v.IsText → Except.ok (.text (scanned v).shown) =
      (Except.ok v.settled : Except BadEntry Value) := fun hv => congrArg Except.ok (shown_scanned hv)
  have hpriority : Fields.get? (scannedFields b) "priority" =
      (Fields.get? (priorityField b.priority) "priority").map scanned := by
    unfold scannedFields entryFields
    rcases h.priority with hnull | ⟨n, hn, -⟩
    · rw [hnull]
      rfl
    · rw [hn]
      rfl
  rw [ofFields_eq_ok]
  exact {
    sensorId := htext h.sensorId
    sensorTypeId := htext h.sensorTypeId
    channel := htext h.channel
    alarmValue := htext h.alarmValue
    duration := numberOf_scanned h.duration
    priority := hpriority ▸ priorityOf_field h.priority }

/-! ## Whole texts -/

lemma faultInFields?_eq_none_iff {fs : Fields} :
    faultInFields? fs = none ↔ ∀ f ∈ fs, fault? f.2 = none := by
  induction fs with
  | nil => simp [faultInFields?]
  | cons f rest ih =>
    rw [faultInFields?, List.forall_mem_cons, ← ih]
    cases fault? f.2 <;> simp

lemma faultInItems?_eq_none_iff {items : List Value} :
    faultInItems? items = none ↔ ∀ v ∈ items, fault? v = none := by
  induction items with
  | nil => simp [faultInItems?]
  | cons v rest ih =>
    rw [faultInItems?, List.forall_mem_cons, ← ih]
    cases fault? v <;> simp

/-- Nothing is wrong with bindings exactly if nothing is with the entry of any. -/
lemma fault?_entries_iff {bindings : List SensorBinding} :
    fault? (.list ((bindings.map entryFields).map .object)) = none ↔
      ∀ b ∈ bindings, fault? (.object (entryFields b)) = none := by
  rw [fault?, faultInItems?_eq_none_iff, List.forall_mem_map, List.forall_mem_map]

lemma exists_encode_iff {bindings : List SensorBinding} :
    (∃ ext, encode bindings = .ok ext) ↔ ∀ b ∈ bindings, fault? (.object (entryFields b)) = none := by
  rw [← fault?_entries_iff, encode]
  generalize fault? (.list ((bindings.map entryFields).map .object)) = found
  cases found <;> simp

lemma fault?_entry_of_legible {b : SensorBinding} (h : ∀ f ∈ entryFields b, Legible f.2) :
    fault? (.object (entryFields b)) = none := by
  rw [fault?, faultInFields?_eq_none_iff]
  exact fun f hf => (h f hf).fault

/-- Bindings with legible fields are written. -/
lemma encode_of_legible {bindings : List SensorBinding}
    (h : ∀ b ∈ bindings, ∀ f ∈ entryFields b, Legible f.2) :
    encode bindings =
      .ok (compact (.list ((bindings.map entryFields).map .object))) := by
  have hnone := fault?_entries_iff.mpr fun b hb => fault?_entry_of_legible (h b hb)
  rw [encode, hnone]

/-- Bindings that can be written are written. -/
lemma encode_of_written {bindings : List SensorBinding} (h : ∀ b ∈ bindings, b.Written) :
    encode bindings =
      .ok (compact (.list ((bindings.map entryFields).map .object))) :=
  encode_of_legible fun b hb => legible_of_written (h b hb)

lemma compact_list_ne_empty (items : List Value) : (compact (.list items)).isEmpty = false := by
  rw [compact, ← Bool.not_eq_true, String.isEmpty_iff]
  intro hempty
  have hlist := congrArg String.toList hempty
  simp [String.toList_append] at hlist

/-- What is written for bindings with legible fields is read entry by entry. -/
lemma decode_of_legible {bindings : List SensorBinding}
    (h : ∀ b ∈ bindings, ∀ f ∈ entryFields b, Legible f.2) :
    decode (compact (.list ((bindings.map entryFields).map .object))) =
      ofEntries ((bindings.map scannedFields).map .object) := by
  have hobjects : List.Forall₂ ObjectReads (bindings.map entryFields)
      (bindings.map scannedFields) := by
    rw [List.forall₂_map_left_iff, List.forall₂_map_right_iff, List.forall₂_same]
    intro b hb
    exact objectReads_entry (h b hb)
  rw [decode, compact_list_ne_empty, read_compact_objects hobjects]
  rfl

/-- What is written for bindings is read as the settled bindings. -/
theorem decode_encode {bindings : List SensorBinding} (h : ∀ b ∈ bindings, b.Written) :
    ∃ ext, encode bindings = .ok ext ∧ decode ext = .ok (bindings.map SensorBinding.settled) := by
  refine ⟨_, encode_of_written h, ?_⟩
  have hentries : ((bindings.map scannedFields).map Value.object).mapM ofEntry =
      .ok (bindings.map SensorBinding.settled) := by
    rw [Except.mapM_eq_ok, List.forall₂_map_left_iff, List.forall₂_map_left_iff,
      List.forall₂_map_right_iff, List.forall₂_same]
    intro b hb
    exact ofFields_scanned (h b hb)
  rw [decode_of_legible fun b hb => legible_of_written (h b hb), ofEntries, hentries]

end Alarm
end DetectionFlow
