import DetectionFlow.Proofs.ResavedGraphs

/-!
# Payloads of their declared types

A payload field may hold any value until its graph is compiled. Where it holds one of its type
(`Payload.Declared`), compiling and restoring bring the payload back (`Payload.Declared.same`): all
values are the same, but for durations of alarms, which come back as integers where they equal one.
-/

namespace DetectionFlow

open Checked Double

/-! ## Types -/

namespace Value

/-- A text of whole characters. -/
def IsWholeText (v : Value) : Prop := ∃ s, v = text s ∧ Text.Half.isIn s = false

/-- An integer of a size up to which every integer is a double, or a finite double. -/
def IsDuration (v : Value) : Prop :=
  (∃ n, v = int n ∧ n.natAbs ≤ 2 ^ 53) ∨ ∃ x, v = float x ∧ x.isFinite = true

end Value

/-- All fields of a binding have their types, and numbers are exact. -/
structure SensorBinding.Declared (b : SensorBinding) : Prop where
  sensorId : b.sensorId.IsWholeText
  sensorTypeId : b.sensorTypeId.IsWholeText
  channel : b.channel.IsWholeText
  alarmValue : b.alarmValue.IsWholeText
  duration : b.duration.IsDuration
  priority : b.priority = .null ∨ ∃ n, b.priority = .int n ∧ n.natAbs ≤ 2 ^ 53

/-- All fields that were not brought into their form at once have their types. -/
def Payload.Declared : Payload → Prop
  | .zone _ detectionPoint | .line _ _ detectionPoint =>
    detectionPoint = .null ∨ detectionPoint.IsWholeText
  | .count condition => condition.IsWholeText
  | .timeout seconds => (∃ n, seconds = .int n) ∨ ∃ x, seconds = .float x ∧ x.isFinite = true
  | .speed turn => turn = .null ∨ ∃ n, turn = .int n
  | .merge inOrder => inOrder = .null ∨ ∃ b, inOrder = .bool b
  | .alarm bindings => ∀ b ∈ bindings, b.Declared
  | .object .. | .event => True

/-! ## Numbers that are the same -/

/-- The binding with a duration that equals an integer as that integer. -/
def SensorBinding.rounded (b : SensorBinding) : SensorBinding :=
  { b with duration := b.duration.settled }

/-- Two bindings have the same fields, up to the form of the duration. -/
structure SensorBinding.Same (a b : SensorBinding) : Prop where
  sensorId : a.sensorId = b.sensorId
  sensorTypeId : a.sensorTypeId = b.sensorTypeId
  channel : a.channel = b.channel
  alarmValue : a.alarmValue = b.alarmValue
  duration : a.duration.same b.duration = true
  priority : a.priority = b.priority

/-- Two payloads are the same, up to the form of durations. -/
def Payload.Same : Payload → Payload → Prop
  | .alarm as, .alarm bs => List.Forall₂ SensorBinding.Same as bs
  | p, q => p = q

namespace Payload

lemma same_self {p : Payload} (h : p.kind ≠ .alarm) : p.Same p := by
  cases p with
  | alarm bindings => exact absurd rfl h
  | _ => rfl

end Payload

/-- The place of a double that equals an integer. -/
lemma Double.place?_of_toInt? {x : Double} {n : Int} (h : x.toInt? = some n) :
    x.place? = some (n * unit) := by
  cases x with
  | finite negative units hrep =>
    simp only [toInt?] at h
    split at h
    next hmod =>
      obtain rfl := Option.some.inj h
      have hunits : units / unit * unit = units := Nat.div_mul_cancel (Nat.dvd_of_mod_eq_zero hmod)
      rw [place?]
      conv_lhs => rw [← hunits]
      cases negative <;> simp [signed]
    next => simp at h
  | _ => simp [toInt?] at h

namespace Number

lemma same_self_int (n : Int) : (int n).same (int n) = true := by
  simp [same, compare?]

lemma same_self_float {x : Double} (hx : x.isFinite = true) : (float x).same (float x) = true := by
  cases x with
  | finite negative units h => simp [same, compare?, place?]
  | _ => simp [isFinite] at hx

/-- A double is the same number as the integer that it equals. -/
lemma same_ofDouble {x : Double} (hx : x.isFinite = true) : (float x).same (ofDouble x) = true := by
  unfold ofDouble
  cases hint : x.toInt? with
  | none => exact same_self_float hx
  | some n =>
    have hplace := place?_of_toInt? hint
    cases x with
    | finite negative units h =>
      simp [same, compare?, compareInt?, Option.some.inj hplace]
    | _ => simp [toInt?] at hint

end Number

namespace Value

lemma toValue_same (a b : Number) : a.toValue.same b.toValue = a.same b := by
  cases a <;> cases b <;> simp [Number.toValue, Value.same, number?]

lemma same_toValue {a b : Number} (h : a.same b = true) : a.toValue.same b.toValue = true :=
  (toValue_same a b).trans h

lemma same_settled {v : Value} (h : v.IsDuration) : v.same v.settled = true := by
  rcases h with ⟨n, rfl, -⟩ | ⟨x, rfl, hx⟩
  · exact same_toValue (Number.same_self_int n)
  · exact same_toValue (Number.same_ofDouble hx)

lemma IsWholeText.isText {v : Value} (h : v.IsWholeText) : v.IsText := by
  obtain ⟨s, rfl, -⟩ := h
  exact ⟨s, rfl⟩

lemma IsWholeText.settled {v : Value} (h : v.IsWholeText) : v.settled = v := by
  obtain ⟨s, rfl, hwhole⟩ := h
  exact congrArg text (Text.rejoin_of_whole hwhole)

end Value

namespace SensorBinding

lemma Declared.written {b : SensorBinding} (h : b.Declared) : b.Written where
  sensorId := h.sensorId.isText
  sensorTypeId := h.sensorTypeId.isText
  channel := h.channel.isText
  alarmValue := h.alarmValue.isText
  duration := by
    rcases h.duration with ⟨n, hn, hle⟩ | hx
    · exact .inl ⟨n, hn, exact_of_le hle⟩
    · exact .inr hx
  priority := by
    rcases h.priority with hnull | ⟨n, hn, hle⟩
    · exact .inl hnull
    · exact .inr ⟨n, hn, exact_of_le hle⟩

/-- What settles of a binding with whole texts is its duration. -/
lemma Declared.settled {b : SensorBinding} (h : b.Declared) : b.settled = b.rounded := by
  rw [SensorBinding.settled, rounded, h.sensorId.settled, h.sensorTypeId.settled, h.channel.settled,
    h.alarmValue.settled]

lemma Declared.same {b : SensorBinding} (h : b.Declared) : b.Same b.rounded :=
  ⟨rfl, rfl, rfl, rfl, Value.same_settled h.duration, rfl⟩

end SensorBinding

/-! ## What is read of a value of the right type -/

namespace Reader

lemma zero_le_iff {x : Double} : Double.zero.le x = true ↔ ∃ p, x.place? = some p ∧ 0 ≤ p := by
  have hzero : Double.zero.place? = some 0 := place?_ofUnits (representable_of_lt (by omega)) false
  rw [Double.le, hzero]
  cases x.place? <;> simp

lemma roundQuotient_pos {num den : Nat} (hden : 0 < den) (hle : den ≤ num) :
    0 < roundQuotient num den := by
  have hq : 0 < num / den := Nat.div_pos hle hden
  unfold roundQuotient
  dsimp only
  split
  · exact hq
  · split <;> omega

/-- A negative integer is not rounded up to zero. -/
lemma zero_le_of_ofInt? {n : Int} {x : Double} (h : ofInt? n = some x)
    (hx : Double.zero.le x = true) : 0 ≤ n := by
  by_contra hneg
  have hnum : n.natAbs * unit ≠ 0 := (Nat.mul_pos (by omega) unit_pos).ne'
  have hspacing : 2 ^ ((n.natAbs * unit).log2 - 52) ≤ n.natAbs * unit :=
    (Nat.pow_le_pow_right (by omega) (Nat.sub_le _ _)).trans (Nat.log2_self_le hnum)
  have hunits : 0 < roundQuotient (n.natAbs * unit) (2 ^ ((n.natAbs * unit).log2 - 52)) *
      2 ^ ((n.natAbs * unit).log2 - 52) :=
    Nat.mul_pos (roundQuotient_pos (Nat.two_pow_pos _) hspacing) (Nat.two_pow_pos _)
  rw [ofInt?, decide_eq_true (by omega : n < 0), nearest, Nat.div_one, Nat.one_mul] at h
  generalize roundQuotient (n.natAbs * unit) (2 ^ ((n.natAbs * unit).log2 - 52)) *
      2 ^ ((n.natAbs * unit).log2 - 52) = units at *
  unfold ofUnits at h
  split at h
  next hrep =>
    obtain rfl := Option.some.inj h
    obtain ⟨p, hp, hle⟩ := zero_le_iff.mp hx
    obtain rfl := Option.some.inj hp
    simp only [signed, if_true] at hle
    omega
  next => simp [bounded?] at h

/-- A double that is read as an integer that is not negative is not negative itself. -/
lemma zero_le_of_wholeOf {x : Double} {n : Int} (h : wholeOf x = ok n) (hn : 0 ≤ n) :
    Double.zero.le x = true := by
  unfold wholeOf at h
  split at h
  · simp at h
  · split at h
    · simp at h
    next m hint =>
      split at h
      next =>
        obtain rfl := ok_inj.mp h
        exact zero_le_iff.mpr
          ⟨_, place?_of_toInt? hint, Int.mul_nonneg hn (Int.natCast_nonneg _)⟩
      next => simp at h

lemma seconds_int_eq_ok {n : Int} {s : Number} (h : seconds (.int n) = ok s) : s = .int n := by
  by_cases hle : 0 ≤ n
  · exact ok_inj.mp (h.symm.trans (seconds_toValue (show (Number.int n).NonNegative from hle)))
  · have hint : nonNegativeInt (.int n) = wrong "greater_than_equal" := if_neg hle
    have hdouble : ∃ vs, nonNegativeDouble (.int n) = broken vs := by
      rcases (nonNegativeDouble (.int n)).ok_or_broken with ⟨x, hx⟩ | hbroken
      · rw [nonNegativeDouble, andThen_eq_ok] at hx
        obtain ⟨y, hread, hx⟩ := hx
        have hread' : (ofInt? n).elim (wrong "float_type") ok = ok y := hread
        cases hof : ofInt? n with
        | none => simp [hof] at hread'
        | some z =>
          rw [hof] at hread'
          obtain rfl : z = y := ok_inj.mp hread'
          split at hx
          next hzero => exact absurd (zero_le_of_ofInt? hof hzero) hle
          next => simp at hx
      · exact hbroken
    obtain ⟨vs, hvs⟩ := hdouble
    unfold seconds at h
    rw [hint, hvs] at h
    exact absurd h broken_ne_ok

lemma seconds_float_eq_ok {x : Double} {s : Number} (h : seconds (.float x) = ok s) :
    s = .float x := by
  by_cases hle : Double.zero.le x = true
  · exact ok_inj.mp (h.symm.trans (seconds_toValue (show (Number.float x).NonNegative from hle)))
  · have hdouble : nonNegativeDouble (.float x) = wrong "greater_than_equal" := if_neg hle
    have hint : ∃ vs, nonNegativeInt (.float x) = broken vs := by
      rcases (nonNegativeInt (.float x)).ok_or_broken with ⟨n, hn⟩ | hbroken
      · rw [nonNegativeInt, andThen_eq_ok] at hn
        obtain ⟨m, hread, hn⟩ := hn
        have hwhole : wholeOf x = ok m := hread
        split at hn
        next hm => exact absurd (zero_le_of_wholeOf hwhole hm) hle
        next => simp at hn
      · exact hbroken
    obtain ⟨vs, hvs⟩ := hint
    unfold seconds at h
    rw [hvs, hdouble] at h
    exact absurd h broken_ne_ok

lemma exists_nullable_text {v : Value} (h : v = .null ∨ v.IsWholeText) :
    ∃ s, nullable text v = ok s := by
  rcases h with rfl | ⟨s, rfl, -⟩
  · exact ⟨none, rfl⟩
  · exact ⟨some s, nullable_text_ofText? (some s)⟩

/-- A text field that holds nothing or a text is read as that. -/
lemma ofText?_of_nullable {v : Value} {s : Option String} (hv : v = .null ∨ v.IsWholeText)
    (h : nullable text v = ok s) : v = Value.ofText? s := by
  rcases hv with rfl | ⟨t, rfl, -⟩
  · obtain rfl := ok_inj.mp h
    rfl
  · have hsome : nullable text (.text t) = ok (some t) := nullable_text_ofText? (some t)
    obtain rfl := ok_inj.mp (hsome.symm.trans h)
    rfl

end Reader

/-! ## What is compiled of a declared payload -/

/-- What is saved of a body after its restoration: the target is gone, and durations in the text of an
alarm that equal an integer are written as that integer. -/
inductive Body.SavedAgain : Body → Body → Prop
  | zone (points : List Point) (target : Option Target) (detectionPoint : Option String) :
    SavedAgain (.zone points target detectionPoint) (.zone points none detectionPoint)
  | line (points : List Point) (direction : Direction) (target : Option Target)
      (detectionPoint : Option String) :
    SavedAgain (.line points direction target detectionPoint)
      (.line points direction none detectionPoint)
  | count (condition : String) : SavedAgain (.count condition) (.count condition)
  | timeout (seconds : Number) : SavedAgain (.timeout seconds) (.timeout seconds)
  | speed (turn : Option Int) : SavedAgain (.speed turn) (.speed turn)
  | merge (inOrder : Option Bool) : SavedAgain (.merge inOrder) (.merge inOrder)
  | alarm {bindings : List SensorBinding} {ext again : String}
      (hext : Alarm.encode bindings = .ok ext)
      (hagain : Alarm.encode (bindings.map SensorBinding.rounded) = .ok again) :
    SavedAgain (.alarm ext) (.alarm again)

namespace Payload

open Reader

variable {found : Checked (Option Target)} {p : Payload} {b : Body}

/-- Without an alarm, a declared payload is what its body is restored to. -/
lemma Declared.payload_eq (hdeclared : p.Declared) (halarm : p.kind ≠ .alarm) (h : p.ReadAs found b) :
    b.payload = p := by
  cases h with
  | alarm => exact absurd rfl halarm
  | zone _ _ _ _ hpoint => rw [Body.payload, ← ofText?_of_nullable hdeclared hpoint]
  | line _ _ _ _ _ hpoint => rw [Body.payload, ← ofText?_of_nullable hdeclared hpoint]
  | count h =>
    obtain ⟨t, rfl, -⟩ := hdeclared
    rw [Body.payload, ok_inj.mp (h.symm.trans (text_text t))]
  | timeout h =>
    rcases hdeclared with ⟨n, rfl⟩ | ⟨x, rfl, -⟩
    · obtain rfl := seconds_int_eq_ok h
      rfl
    · obtain rfl := seconds_float_eq_ok h
      rfl
  | speed h =>
    rcases hdeclared with rfl | ⟨n, rfl⟩ <;> obtain rfl := ok_inj.mp h <;> rfl
  | merge h =>
    rcases hdeclared with rfl | ⟨ordered, rfl⟩
    · obtain rfl := ok_inj.mp h
      rfl
    · cases ordered <;> obtain rfl := ok_inj.mp h <;> rfl

/-- The text of declared bindings is read as these, with durations that equal an integer as that
integer. -/
lemma Declared.decode {bindings : List SensorBinding} (h : (alarm bindings).Declared) {ext : String}
    (hencode : Alarm.encode bindings = .ok ext) :
    Alarm.decode ext = .ok (bindings.map SensorBinding.rounded) := by
  obtain ⟨ext', hencode', hdecode⟩ := Alarm.decode_encode fun b hb => (h b hb).written
  obtain rfl := Except.ok.inj (hencode.symm.trans hencode')
  rwa [List.map_congr_left fun b hb => (h b hb).settled] at hdecode

section Restoration

variable (hdeclared : p.Declared) (h : p.ReadAs found b)

include hdeclared h

/-- A payload is restored from its body. -/
theorem Declared.same : p.Same b.payload := by
  by_cases halarm : p.kind = .alarm
  · cases h with
    | alarm hencode =>
      rw [Body.payload, Alarm.restored_of_decode (hdeclared.decode hencode), Payload.Same,
        List.forall₂_map_right_iff, List.forall₂_same]
      exact fun b hb => (hdeclared b hb).same
    | _ => cases halarm
  · rw [hdeclared.payload_eq halarm h]
    exact same_self halarm

/-- The text of an alarm can be read again. -/
theorem Declared.readable {ext : String} (hext : b = .alarm ext) :
    ∃ bindings, Alarm.decode ext = .ok bindings := by
  subst hext
  cases h with
  | alarm hencode => exact ⟨_, hdeclared.decode hencode⟩

/-- Next to the first save of a payload, the second one lost only its target. -/
theorem Declared.savedAgain : b.SavedAgain b.resaved := by
  cases h with
  | @alarm bindings ext hencode =>
    have hagain := Alarm.encode_restored ext
    rw [Alarm.restored_of_decode (hdeclared.decode hencode)] at hagain
    exact .alarm hencode hagain
  | _ => constructor

end Restoration

end Payload
end DetectionFlow
