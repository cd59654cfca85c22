import DetectionFlow.Proofs.AlarmTheorems
import DetectionFlow.Proofs.KeyedLists

/-!
# Alarm texts that are written again

Whatever bindings are read from a text, they can be written (`Alarm.written_of_decode`). The text that is
then written, `Alarm.recoded`, is read as the same bindings up to halves of characters that stand side by
side, which are joined in reading but are written the same way joined or not. So a text that was written
again once stays as it is (`Alarm.recoded_recoded`).
-/

namespace DetectionFlow

open Double

/-! ## What is read of a number -/

namespace Number

/-- A finite double becomes a number that can be written, and that stays when it is settled. -/
lemma toValue_ofDouble {x : Double} (hx : x.isFinite = true) :
    (ofDouble x).toValue.IsNumber ∧ (ofDouble x).toValue.settled = (ofDouble x).toValue := by
  unfold ofDouble
  cases hint : x.toInt? with
  | some n => exact ⟨.inl ⟨n, rfl, exact_of_toInt? hint⟩, rfl⟩
  | none =>
    refine ⟨.inr ⟨x, rfl, hx⟩, ?_⟩
    show (ofDouble x).toValue = _
    rw [ofDouble, hint]

lemma exact_truncate {x : Double} : Exact (ofDouble x).truncate := by
  unfold ofDouble
  cases hint : x.toInt? with
  | some n => exact exact_of_toInt? hint
  | none =>
    cases x with
    | finite negative units hrep =>
      show Representable ((signed negative (units / unit)).natAbs * unit)
      rw [natAbs_signed]
      exact representable_truncate hrep
    | _ => exact exact_of_le (Nat.zero_le _)

end Number

namespace Alarm

open Json Value

/-- A number that is read is that of a finite double. -/
lemma numberOf_eq_ok {v : Value} {n : Number} (h : numberOf v = .ok n) :
    ∃ x : Double, x.isFinite = true ∧ n = .ofDouble x := by
  have hfinite : v.toFinite = .ok n := by
    unfold numberOf at h
    split at h
    next heq => rw [heq, Except.ok.inj h]
    next => simp at h
  unfold toFinite at hfinite
  split at hfinite
  · simp at hfinite
  · obtain ⟨x, -, hx⟩ := Except.bind_eq_ok.mp hfinite
    split at hx
    next hisFinite => exact ⟨x, hisFinite, (Except.ok.inj hx).symm⟩
    next => simp at hx

/-- A priority that is read is none, or an integer that a double equals. -/
lemma priorityOf_eq_ok {v : Option Value} {w : Value} (h : priorityOf v = .ok w) :
    w.IsPriority := by
  unfold priorityOf at h
  split at h
  · exact .inl (Except.ok.inj h).symm
  · exact .inl (Except.ok.inj h).symm
  next v _ =>
    cases hnumber : numberOf v with
    | error bad => simp [hnumber, Except.map] at h
    | ok n =>
      obtain ⟨x, -, rfl⟩ := numberOf_eq_ok hnumber
      rw [hnumber] at h
      obtain rfl := Except.ok.inj h
      exact .inr ⟨_, rfl, Number.exact_truncate⟩

lemma textField_eq_ok {fs : Fields} {key : String} {v : Value} (h : textField fs key = .ok v) :
    v.IsText := by
  unfold textField at h
  split at h
  · exact ⟨_, (Except.ok.inj h).symm⟩
  · simp at h

/-- A binding that is read can be written, and its duration stays when it is settled. -/
lemma EntryReads.written {fs : Fields} {b : SensorBinding} (h : EntryReads fs b) :
    b.Written ∧ b.duration.settled = b.duration := by
  obtain ⟨n, hn, hduration⟩ := h.duration
  obtain ⟨x, hx, rfl⟩ := numberOf_eq_ok hn
  obtain ⟨hnumber, hsettled⟩ := Number.toValue_ofDouble hx
  rw [hduration] at hnumber hsettled
  exact ⟨⟨textField_eq_ok h.sensorId, textField_eq_ok h.sensorTypeId, textField_eq_ok h.channel,
    textField_eq_ok h.alarmValue, hnumber, priorityOf_eq_ok h.priority⟩, hsettled⟩

/-- Each binding of a text is read from the fields of an object in the list that the text is. -/
theorem exists_entry {ext : String} {bindings : List SensorBinding} (h : decode ext = .ok bindings)
    {b : SensorBinding} (hb : b ∈ bindings) :
    ∃ items fs, read ext = .ok (.list items) ∧ .object fs ∈ items ∧ EntryReads fs b := by
  unfold decode at h
  split at h
  · obtain rfl := Except.ok.inj h
    simp at hb
  · split at h
    · simp at h
    next items hread =>
      unfold ofEntries at h
      split at h
      next hentries =>
        obtain rfl := Except.ok.inj h
        obtain ⟨v, hv, hentry⟩ := exists_of_forall₂ (Except.mapM_eq_ok.mp hentries).flip hb
        unfold ofEntry at hentry
        split at hentry
        next fs => exact ⟨items, fs, hread, hv, ofFields_eq_ok.mp hentry⟩
        next => simp at hentry
      next => simp at h
    · simp at h

/-- Bindings that are read from a text can be written. -/
theorem written_of_decode {ext : String} {bindings : List SensorBinding}
    (h : decode ext = .ok bindings) :
    ∀ b ∈ bindings, b.Written ∧ b.duration.settled = b.duration := by
  intro b hb
  obtain ⟨_, _, _, _, hreads⟩ := exists_entry h hb
  exact hreads.written

/-! ## What is written of a settled binding -/

lemma compact_settled_text {v : Value} (h : v.IsText) : compact v.settled = compact v := by
  obtain ⟨s, rfl⟩ := h
  show textToken (Text.rejoin s) = textToken s
  exact textToken_rejoin s

/-- A settled binding is written like the binding itself, up to the number of its duration. -/
lemma compact_entry_settled {b : SensorBinding} (h : b.Written)
    (hduration : b.duration.settled = b.duration) :
    compact (.object (entryFields b.settled)) = compact (.object (entryFields b)) := by
  have hfields : compactFields (entryFields b.settled) = compactFields (entryFields b) := by
    show compactFields ([_, _, _, _, _] ++ priorityField b.priority) =
      compactFields ([_, _, _, _, _] ++ priorityField b.priority)
    simp only [SensorBinding.settled, List.cons_append, List.nil_append, compactFields,
      compact_settled_text h.sensorId, compact_settled_text h.sensorTypeId,
      compact_settled_text h.channel, compact_settled_text h.alarmValue, hduration]
  rw [compact, compact, hfields]

lemma isText_settled {v : Value} (h : v.IsText) : v.settled.IsText := by
  obtain ⟨s, rfl⟩ := h
  exact ⟨Text.rejoin s, rfl⟩

lemma isNumber_settled {v : Value} (h : v.IsNumber) : v.settled.IsNumber := by
  rcases h with ⟨n, rfl, hn⟩ | ⟨x, rfl, hx⟩
  · exact .inl ⟨n, rfl, hn⟩
  · exact (Number.toValue_ofDouble hx).1

lemma written_settled {b : SensorBinding} (h : b.Written) : b.settled.Written where
  sensorId := isText_settled h.sensorId
  sensorTypeId := isText_settled h.sensorTypeId
  channel := isText_settled h.channel
  alarmValue := isText_settled h.alarmValue
  duration := isNumber_settled h.duration
  priority := h.priority

lemma compactItems_congr {α : Type} {f g : α → Value} {as : List α}
    (h : ∀ a ∈ as, compact (f a) = compact (g a)) :
    compactItems (as.map f) = compactItems (as.map g) := by
  induction as with
  | nil => rfl
  | cons a rest ih =>
    rw [List.map_cons, List.map_cons, compactItems, compactItems, h a List.mem_cons_self,
      ih fun b hb => h b (List.mem_cons_of_mem _ hb)]

/-- Settled bindings are written like the bindings themselves, where the durations were settled
before. -/
theorem encode_settled {bindings : List SensorBinding}
    (h : ∀ b ∈ bindings, b.Written ∧ b.duration.settled = b.duration) :
    encode (bindings.map SensorBinding.settled) = encode bindings := by
  have hsettled : ∀ b ∈ bindings.map SensorBinding.settled, b.Written := by
    intro b hb
    obtain ⟨b', hb', rfl⟩ := List.mem_map.mp hb
    exact written_settled (h b' hb').1
  have hitems : compactItems (((bindings.map SensorBinding.settled).map entryFields).map .object) =
      compactItems ((bindings.map entryFields).map .object) := by
    simp only [List.map_map]
    apply compactItems_congr
    intro b hb
    exact compact_entry_settled (h b hb).1 (h b hb).2
  rw [encode_of_written hsettled, encode_of_written fun b hb => (h b hb).1, compact, compact, hitems]

/-! ## The text that is written again -/

/-- The bindings that an alarm is restored with. -/
def restored (ext : String) : List SensorBinding := (decode ext).toOption.getD []

/-- The text that is written of them. -/
def recoded (ext : String) : String := (encode (restored ext)).toOption.getD ""

lemma restored_of_decode {ext : String} {bindings : List SensorBinding}
    (h : decode ext = .ok bindings) : restored ext = bindings := by
  rw [restored, h]
  rfl

/-- The bindings that an alarm is restored with can be written. -/
lemma written_of_restored {ext : String} :
    ∀ b ∈ restored ext, b.Written ∧ b.duration.settled = b.duration := by
  cases hdecode : decode ext with
  | error f =>
    have hnone : restored ext = [] := by
      rw [restored, hdecode]
      rfl
    simp [hnone]
  | ok bindings =>
    rw [restored_of_decode hdecode]
    exact written_of_decode hdecode

lemma encode_restored (ext : String) : encode (restored ext) = .ok (recoded ext) := by
  have hwritten := encode_of_written fun b hb => (@written_of_restored ext b hb).1
  rw [recoded, hwritten]
  rfl

/-- A text that was written again is read as what it was written of, settled. -/
theorem decode_recoded (ext : String) :
    decode (recoded ext) = .ok ((restored ext).map SensorBinding.settled) := by
  obtain ⟨text, hencode, hdecode⟩ := decode_encode fun b hb => (@written_of_restored ext b hb).1
  rw [encode_restored] at hencode
  rw [Except.ok.inj hencode]
  exact hdecode

/-- A text that was written again once stays as it is. -/
theorem recoded_recoded (ext : String) : recoded (recoded ext) = recoded ext := by
  have hrestored := restored_of_decode (decode_recoded ext)
  have hencode := encode_settled (@written_of_restored ext)
  rw [← hrestored, encode_restored, encode_restored] at hencode
  exact Except.ok.inj hencode

end Alarm
end DetectionFlow
