import DetectionFlow.Dialog.Fields
import DetectionFlow.Proofs.BriefTexts
import DetectionFlow.Proofs.DialogTheorems
import DetectionFlow.Proofs.RecodedAlarms

/-!
# Bindings that an operator typed

The dialog about a sensor binding makes bindings of accepted answers, and of nothing else. A typed duration
is a number that is not below zero, and infinity is such a number for the dialog, but none for the reader of
alarm texts. So typed bindings are written, and are read back as they are exactly if all their durations are
finite; one infinite duration makes the whole text unreadable (`AskFields.typed_survive`).
-/

namespace DetectionFlow

/-! ## Trimmed texts -/

lemma Text.mem_of_mem_trim {cs : List Char} {c : Char} (h : c ∈ trim cs) : c ∈ cs := by
  have hright : c ∈ (trimLeft cs).reverse := by
    rw [trim, trimRight, List.mem_reverse] at h
    exact (List.dropWhile_sublist _).subset h
  exact (List.dropWhile_sublist _).subset (List.mem_reverse.mp hright)

lemma Text.Half.isIn_trimText {s : String} (h : isIn s = false) : isIn (trimText s) = false := by
  rw [isIn_eq_false] at h ⊢
  intro c hc
  rw [trimText, String.toList_ofList] at hc
  exact h c (mem_of_mem_trim hc)

/-! ## Infinite durations in alarm texts -/

namespace Alarm

open Json Value

lemma scans_infinity : Scans "Infinity".toList (.float (.infinity false)) :=
  ⟨'I', "nfinity".toList, rfl, rfl, fun _ _ => rfl⟩

lemma legible_infinity : Legible (.float (.infinity false)) :=
  ⟨by rw [fault?], scans_infinity⟩

/-- A binding with an infinite duration is written, but its entry is no binding. -/
lemma ofFields_infinite {b : SensorBinding} (hduration : b.duration = .float (.infinity false)) :
    ofFields (scannedFields b) = .error (.fault (.expectedFinite (.float (.infinity false)))) := by
  unfold ofFields scannedFields entryFields
  rw [hduration]
  rfl

/-- If some entries are bindings with infinite durations, and all others can be read, the text cannot. -/
lemma ofEntries_infinite {bindings : List SensorBinding}
    (h : ∀ b ∈ bindings, b.Written ∨ b.duration = .float (.infinity false))
    (hsome : ∃ b ∈ bindings, b.duration = .float (.infinity false)) :
    ofEntries ((bindings.map scannedFields).map .object) =
      .error (.badBinding ": expected a finite number") := by
  have hmap : ((bindings.map scannedFields).map Value.object).mapM ofEntry =
      .error (.fault (.expectedFinite (.float (.infinity false)))) := by
    apply Except.mapM_eq_error_of_same
    · simp only [List.forall_mem_map]
      exact fun b hb => (h b hb).imp (fun hb => ⟨_, ofFields_scanned hb⟩) ofFields_infinite
    · obtain ⟨b, hb, hduration⟩ := hsome
      exact ⟨_, List.mem_map_of_mem (List.mem_map_of_mem hb), ofFields_infinite hduration⟩
  rw [ofEntries, hmap]
  rfl

end Alarm

namespace AskFields

open Dialog

/-- What an operator types and chooses for a binding. -/
structure TypedBinding where
  sensor : String
  sensorType : String
  channel : String
  value : String
  duration : String

namespace TypedBinding

/-- Each part is accepted where it is asked for. -/
structure Accepted (t : TypedBinding) : Prop where
  sensor : Typed.nameComplaint t.sensor = none
  sensorType : Typed.nameComplaint t.sensorType = none
  channel : t.channel ∈ channels
  value : Typed.nameComplaint t.value = none
  duration : Typed.secondsComplaint t.duration = none

/-- The names hold no halves of characters. -/
structure IsWhole (t : TypedBinding) : Prop where
  sensor : Text.Half.isIn t.sensor = false
  sensorType : Text.Half.isIn t.sensorType = false
  value : Text.Half.isIn t.value = false

/-- The answers in their order. -/
def answers (t : TypedBinding) : List Answer :=
  [t.sensor, t.sensorType, t.channel, t.value, t.duration].map fun s => .value (.text s)

/-- The number of seconds that was typed. -/
def seconds (t : TypedBinding) : Double := (Numeral.readTyped? t.duration).getD .nan

/-- The binding that is made of the answers. -/
def binding (t : TypedBinding) : SensorBinding :=
  ⟨nameValue t.sensor, nameValue t.sensorType, .text t.channel, nameValue t.value,
    (Number.ofDouble t.seconds).toValue, .null⟩

end TypedBinding

lemma secondsTyped_eq {s : String} {x : Double} (h : Numeral.readTyped? s = some x) :
    secondsTyped s = pure (Number.ofDouble x).toValue := by
  unfold secondsTyped
  rw [Value.toDouble_text h]
  rfl

/-- Accepted seconds have a value. -/
lemma promises_secondsTyped {F : Prop} {s : String} (h : Typed.secondsComplaint s = none) :
    Promises (secondsTyped s) F fun v => ∃ x, Numeral.readTyped? s = some x ∧ Double.zero.le x = true ∧
      v = (Number.ofDouble x).toValue := by
  obtain ⟨x, hx, hle⟩ := Typed.secondsComplaint_eq_none.mp h
  rw [secondsTyped_eq hx]
  exact promises_pure ⟨x, hx, hle, rfl⟩

lemma isMeantBy_channel {s : String} :
    (channels.map Choice.word).any (·.isMeantBy (.text s)) = true ↔ s ∈ channels := by
  rw [List.any_map, List.any_eq_true]
  simp only [Function.comp_apply, Choice.isMeantBy, decide_eq_true_eq, exists_eq_right]

variable {o o' : Operator} {b : SensorBinding}

/-- Accepted answers make a binding. -/
lemma TypedBinding.Accepted.yields {t : TypedBinding} (h : t.Accepted) (rest : List Answer)
    (said : List Utterance) :
    ∃ said', Yields AskFields.binding ⟨t.answers ++ rest, said⟩ (some t.binding) ⟨rest, said'⟩ := by
  obtain ⟨x, hx, -⟩ := Typed.secondsComplaint_eq_none.mp h.duration
  obtain ⟨_, hsensor⟩ := yields_askText h.sensor _ said
  obtain ⟨_, htype⟩ := yields_askText h.sensorType _ _
  obtain ⟨_, hchannel⟩ := yields_askOne (isMeantBy_channel.mpr h.channel) _ _
  obtain ⟨_, hvalue⟩ := yields_askText h.value _ _
  obtain ⟨said', hduration⟩ := yields_askText h.duration rest _
  refine ⟨said', ?_⟩
  refine yields_bind.mpr ⟨_, _, hsensor, yields_bind.mpr ⟨_, _, htype, yields_bind.mpr ⟨_, _, hchannel,
    yields_bind.mpr ⟨_, _, hvalue, yields_bind.mpr ⟨_, _, hduration, ?_⟩⟩⟩⟩⟩
  dsimp only
  rw [secondsTyped_eq hx, pure_bind, yields_pure, TypedBinding.binding, TypedBinding.seconds, hx]
  exact ⟨rfl, rfl⟩

/-- The dialog makes bindings of accepted answers only. It does not fail. -/
lemma promises_binding {F : Prop} : Promises AskFields.binding F
    fun given => ∀ b ∈ given, ∃ t : TypedBinding, t.Accepted ∧ b = t.binding := by
  refine promises_askText.andThen rfl fun sensor hsensor => ?_
  refine promises_askText.andThen rfl fun sensorType htype => ?_
  refine promises_askOne.andThen rfl fun channel hchannel => ?_
  refine promises_askText.andThen rfl fun value hvalue => ?_
  refine promises_askText.andThen rfl fun duration hduration => ?_
  refine (promises_secondsTyped hduration).map fun v ⟨x, hx, _, hv⟩ b hb => ?_
  refine ⟨⟨sensor, sensorType, channel, value, duration⟩, ?_, ?_⟩
  · exact {
      sensor := hsensor
      sensorType := htype
      channel := isMeantBy_channel.mp hchannel
      value := hvalue
      duration := hduration }
  · rw [← Option.some.inj hb, TypedBinding.binding, TypedBinding.seconds, hx, hv]
    rfl

lemma exists_typed_of_binding (h : Yields binding o (some b) o') :
    ∃ t : TypedBinding, t.Accepted ∧ b = t.binding :=
  (promises_binding (F := False)).yields h b rfl

/-! ## Reading typed bindings back -/

namespace TypedBinding

variable {t : TypedBinding}

/-- A number that is not below zero is finite or infinity. -/
lemma seconds_eq_infinity (h : t.Accepted) (hfinite : t.seconds.isFinite = false) :
    t.seconds = .infinity false := by
  obtain ⟨x, hx, hle⟩ := Typed.secondsComplaint_eq_none.mp h.duration
  have hseconds : t.seconds = x := by rw [seconds, hx, Option.getD_some]
  rw [hseconds] at hfinite ⊢
  cases x with
  | nan => exact absurd hle (by decide +kernel)
  | infinity negative =>
    cases negative with
    | true => exact absurd hle (by decide +kernel)
    | false => rfl
  | finite => cases hfinite

lemma written (hfinite : t.seconds.isFinite = true) : t.binding.Written where
  sensorId := ⟨_, rfl⟩
  sensorTypeId := ⟨_, rfl⟩
  channel := ⟨_, rfl⟩
  alarmValue := ⟨_, rfl⟩
  duration := (Number.toValue_ofDouble hfinite).1
  priority := .inl rfl

lemma duration_infinite (h : t.Accepted) (hfinite : t.seconds.isFinite = false) :
    t.binding.duration = .float (.infinity false) := by
  rw [binding, seconds_eq_infinity h hfinite]
  rfl

lemma legible (h : t.Accepted) : ∀ f ∈ Alarm.entryFields t.binding, Alarm.Legible f.2 := by
  refine Alarm.legible_entry ⟨_, rfl⟩ ⟨_, rfl⟩ ⟨_, rfl⟩ ⟨_, rfl⟩ ?_ (.inl rfl)
  cases hfinite : t.seconds.isFinite with
  | true => exact Alarm.legible_number (written hfinite).duration
  | false => exact duration_infinite h hfinite ▸ Alarm.legible_infinity

lemma settled_nameValue {s : String} (h : Text.Half.isIn s = false) :
    (nameValue s).settled = nameValue s :=
  congrArg Value.text (Text.rejoin_of_whole (Text.Half.isIn_trimText h))

/-- Writing and reading changes nothing in a typed binding whose duration is finite. -/
lemma settled (h : t.Accepted) (hwhole : t.IsWhole) (hfinite : t.seconds.isFinite = true) :
    t.binding.settled = t.binding := by
  have hchannel : Text.rejoin t.channel = t.channel := by
    apply Text.rejoin_of_whole
    have hall : ∀ s ∈ channels, Text.Half.isIn s = false := by decide
    exact hall _ h.channel
  have hduration := (Number.toValue_ofDouble hfinite).2
  simp only [SensorBinding.settled, binding, settled_nameValue hwhole.sensor,
    settled_nameValue hwhole.sensorType, settled_nameValue hwhole.value, hduration]
  rw [Value.settled, hchannel]

end TypedBinding

/-- A binding is one that the dialog makes exactly if it is that of accepted answers. Such bindings can be
written, and are read back exactly if all durations are finite. A text with an infinite duration cannot be
read at all. -/
theorem typed_survive (b : SensorBinding) (ts : List TypedBinding) (h : ∀ t ∈ ts, t.Accepted ∧ t.IsWhole) :
    ((∃ o o', Yields binding o (some b) o') ↔ ∃ t : TypedBinding, t.Accepted ∧ b = t.binding) ∧
    ∃ ext, Alarm.encode (ts.map TypedBinding.binding) = .ok ext ∧
      (Alarm.decode ext = .ok (ts.map TypedBinding.binding) ↔ ∀ t ∈ ts, t.seconds.isFinite = true) ∧
      ((∃ t ∈ ts, t.seconds.isFinite = false) →
        Alarm.decode ext = .error (.badBinding ": expected a finite number")) := by
  refine ⟨⟨fun ⟨o, o', h⟩ => exists_typed_of_binding h, ?_⟩, ?_⟩
  · rintro ⟨t, ht, rfl⟩
    obtain ⟨said', hyields⟩ := ht.yields [] []
    exact ⟨_, _, hyields⟩
  have hlegible : ∀ b ∈ ts.map TypedBinding.binding, ∀ f ∈ Alarm.entryFields b, Alarm.Legible f.2 :=
    List.forall_mem_map.mpr fun t ht => TypedBinding.legible (h t ht).1
  have hfails : (∃ t ∈ ts, t.seconds.isFinite = false) →
      Alarm.decode (Json.compact (.list (((ts.map TypedBinding.binding).map
        Alarm.entryFields).map .object))) = .error (.badBinding ": expected a finite number") := by
    rintro ⟨t, ht, hinfinite⟩
    rw [Alarm.decode_of_legible hlegible]
    apply Alarm.ofEntries_infinite
    · refine List.forall_mem_map.mpr fun u hu => ?_
      cases hu' : u.seconds.isFinite with
      | true => exact .inl (TypedBinding.written hu')
      | false => exact .inr (TypedBinding.duration_infinite (h u hu).1 hu')
    · exact ⟨_, List.mem_map_of_mem ht, TypedBinding.duration_infinite (h t ht).1 hinfinite⟩
  refine ⟨_, Alarm.encode_of_legible hlegible, ⟨fun hsame t ht => ?_, fun hfinite => ?_⟩, hfails⟩
  · -- One infinite duration is enough for the whole text not to be read.
    by_contra hinfinite
    cases hsame.symm.trans (hfails ⟨t, ht, Bool.eq_false_iff.mpr hinfinite⟩)
  · have hwritten : ∀ b ∈ ts.map TypedBinding.binding, b.Written :=
      List.forall_mem_map.mpr fun t ht => TypedBinding.written (hfinite t ht)
    obtain ⟨ext, hencode, hdecode⟩ := Alarm.decode_encode hwritten
    obtain rfl := Except.ok.inj ((Alarm.encode_of_legible hlegible).symm.trans hencode)
    rw [hdecode, List.map_map]
    refine congrArg Except.ok (List.map_congr_left fun t ht => ?_)
    exact TypedBinding.settled (h t ht).1 (h t ht).2 (hfinite t ht)

/-- A lamp that is on for a while. -/
def shortLamp : TypedBinding := ⟨"7", " lamp ", "LED", "RED", "1_0.5"⟩

/-- A lamp that is on for a number of seconds beyond all doubles. -/
def endlessLamp : TypedBinding := { shortLamp with duration := "1e999" }

/-- Both lamps are accepted. The short one is read back, and the endless one makes the text unreadable. -/
theorem lamps_survive :
    (∀ t ∈ [shortLamp, endlessLamp], t.Accepted ∧ t.IsWhole) ∧
      (∃ ext, Alarm.encode [shortLamp.binding] = .ok ext ∧ Alarm.decode ext = .ok [shortLamp.binding]) ∧
      ∃ ext, Alarm.encode [shortLamp.binding, endlessLamp.binding] = .ok ext ∧
        Alarm.decode ext = .error (.badBinding ": expected a finite number") := by
  have hnames : Typed.nameComplaint "7" = none ∧ Typed.nameComplaint " lamp " = none ∧
      Typed.nameComplaint "RED" = none := by decide
  have hwhole : Text.Half.isIn "7" = false ∧ Text.Half.isIn " lamp " = false ∧
      Text.Half.isIn "RED" = false := by decide
  have hshort : shortLamp.Accepted ∧ shortLamp.IsWhole :=
    ⟨⟨hnames.1, hnames.2.1, by decide, hnames.2.2, by decide +kernel⟩,
      ⟨hwhole.1, hwhole.2.1, hwhole.2.2⟩⟩
  have hendless : endlessLamp.Accepted ∧ endlessLamp.IsWhole :=
    ⟨⟨hnames.1, hnames.2.1, by decide, hnames.2.2, by decide +kernel⟩,
      ⟨hwhole.1, hwhole.2.1, hwhole.2.2⟩⟩
  have hboth : ∀ t ∈ [shortLamp, endlessLamp], t.Accepted ∧ t.IsWhole := by
    simp [hshort, hendless]
  obtain ⟨-, ext, hencode, hkept, -⟩ :=
    typed_survive shortLamp.binding _ (List.forall_mem_singleton.mpr hshort)
  obtain ⟨-, ext', hencode', -, hfails⟩ := typed_survive endlessLamp.binding _ hboth
  refine ⟨hboth, ⟨ext, hencode, hkept.mpr (List.forall_mem_singleton.mpr (by decide +kernel))⟩, ext',
    hencode', hfails ⟨endlessLamp, by simp, by decide +kernel⟩⟩

end AskFields
end DetectionFlow
