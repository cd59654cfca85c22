import DetectionFlow.Proofs.DeclaredPayloads
import DetectionFlow.Proofs.RecodedAlarms
import DetectionFlow.Proofs.ScannedTexts
import DetectionFlow.Proofs.ShownTexts

/-!
# Writing and reading bindings

`Alarm.rewrites` says what `Alarm.encode` and `Alarm.decode` are to each other. Declared bindings that are
written are read as the same bindings, numbers compared by their values. Bindings that are read from any
text, whatever was made of its fields, are written to a text that is read as exactly these bindings, so
that writing them once more changes nothing.

The text must hold no halves of characters. Then no two halves are left in the bindings that would be
joined on the way: texts are taken as they were read (`Json.isJoined_of_read`), and other values are shown
without halves (`Value.isIn_shown`).
-/

namespace DetectionFlow

/-- A value of a text without halves is shown as a text with no halves to join. -/
lemma Value.IsJoined.rejoin_shown {v : Value} (h : v.IsJoined) : Text.rejoin v.shown = v.shown := by
  by_cases htext : ∃ s, v = .text s
  · obtain ⟨s, rfl⟩ := htext
    cases h with
    | text hs => exact hs
  · exact Text.rejoin_of_whole (isIn_shown h.isJson fun s hs => htext ⟨s, hs⟩)

/-- The parts of a joined value are joined. -/
lemma Value.IsJoined.fields_of_items {items : List Value} {fs : Fields}
    (h : (Value.list items).IsJoined) (hfs : .object fs ∈ items) : ∀ f ∈ fs, f.2.IsJoined := by
  cases h with
  | list hitems =>
    cases hitems _ hfs with
    | object hfields => exact hfields

namespace Alarm

open Json Value

/-- A text that is taken from the fields of an entry stays when it is settled. -/
lemma settled_of_textField {fs : Fields} (hfs : ∀ f ∈ fs, f.2.IsJoined) {key : String} {v : Value}
    (h : textField fs key = .ok v) : v.settled = v := by
  unfold textField at h
  split at h
  next w hget =>
    obtain rfl := Except.ok.inj h
    exact congrArg Value.text (hfs _ (Fields.get?_eq_some hget)).rejoin_shown
  next => simp at h

/-- Bindings that are read from a text without halves stay when they are settled. -/
lemma settled_of_decode {ext : String} {bindings : List SensorBinding}
    (hext : Text.Half.isIn ext = false) (h : decode ext = .ok bindings) :
    ∀ b ∈ bindings, b.settled = b := by
  intro b hb
  obtain ⟨items, fs, hread, hmem, hentry⟩ := exists_entry h hb
  have hfields := (isJoined_of_read hext hread).fields_of_items hmem
  rw [SensorBinding.settled, settled_of_textField hfields hentry.sensorId,
    settled_of_textField hfields hentry.sensorTypeId, settled_of_textField hfields hentry.channel,
    settled_of_textField hfields hentry.alarmValue, hentry.written.2]

/-- What was written of declared bindings is read as the same bindings. -/
lemma same_of_declared {bindings : List SensorBinding} (h : ∀ b ∈ bindings, b.Declared) :
    ∃ ext again, encode bindings = .ok ext ∧ decode ext = .ok again ∧
      List.Forall₂ SensorBinding.Same bindings again := by
  obtain ⟨ext, hencode, hdecode⟩ := decode_encode fun b hb => (h b hb).written
  refine ⟨ext, _, hencode, hdecode, ?_⟩
  rw [List.forall₂_map_right_iff, List.forall₂_same]
  intro b hb
  rw [(h b hb).settled]
  exact (h b hb).same

/-- Bindings that were read come back from what is written of them. -/
lemma exists_ext_of_decode {ext : String} {bindings : List SensorBinding}
    (hext : Text.Half.isIn ext = false) (h : decode ext = .ok bindings) :
    ∃ ext', encode bindings = .ok ext' ∧ decode ext' = .ok bindings := by
  obtain ⟨ext', hencode, hdecode⟩ := decode_encode fun b hb => (written_of_decode h b hb).1
  refine ⟨ext', hencode, ?_⟩
  rw [hdecode, List.map_congr_left (settled_of_decode hext h), List.map_id']

/-- Declared bindings come back from what is written of them, each with the same fields. Bindings that
were read from a text come back exactly, and the text that is written of them stays as it is when it is
written again. -/
theorem rewrites :
    (∀ bindings : List SensorBinding, (∀ b ∈ bindings, b.Declared) →
      ∃ ext again, encode bindings = .ok ext ∧ decode ext = .ok again ∧
        List.Forall₂ SensorBinding.Same bindings again) ∧
    ∀ (ext : String) (bindings : List SensorBinding), Text.Half.isIn ext = false →
      decode ext = .ok bindings →
      ∃ ext', encode bindings = .ok ext' ∧ decode ext' = .ok bindings ∧
        recode (.text ext) = .ok ext' ∧ recode (.text ext') = .ok ext' := by
  refine ⟨fun bindings h => same_of_declared h, fun ext bindings hext h => ?_⟩
  obtain ⟨ext', hencode, hdecode⟩ := exists_ext_of_decode hext h
  have hrecode : ∀ {s : String}, decode s = .ok bindings → recode (.text s) = .ok ext' := by
    intro s hs
    exact Except.bind_eq_ok.mpr ⟨bindings, hs, hencode⟩
  exact ⟨ext', hencode, hdecode, hrecode h, hrecode hdecode⟩

/-- A lamp that is on for two seconds, without a priority. The time is a double. -/
def brightLamp : SensorBinding :=
  ⟨.text "7", .text "lamp", .text "red", .text "on", .float (Double.ofInt 2), .null⟩

/-- An entry with a number, a truth value and a list in place of texts, a numeral for the duration and a
priority with a fraction. -/
def looseEntry : String :=
  "[\x7b\"id\":7,\"typeId\":true,\"alarmType\":[null,\"red\"],\"alarmValue\":\"on\"," ++
    "\"duration\":\"5.0\",\"priority\":2.5\x7d]"

def looseFields : Fields :=
  [("id", .int 7), ("typeId", .bool true), ("alarmType", .list [.null, .text "red"]),
    ("alarmValue", .text "on"), ("duration", .text "5.0"),
    ("priority", .float (Double.ofDecimal false 25 (-1)))]

/-- The binding that `looseEntry` is read as. -/
def looseBinding : SensorBinding :=
  ⟨.text "7", .text "True", .text "[None, 'red']", .text "on", .int 5, .int 2⟩

lemma decode_looseEntry : decode looseEntry = .ok [looseBinding] := by
  have hduration : numberOf (.text "5.0") = .ok (.int 5) := Except.eq_ok_of_toOption (by decide +kernel)
  have hnumber : numberOf (.float (Double.ofDecimal false 25 (-1))) =
      .ok (.float (Double.ofDecimal false 25 (-1))) := Except.eq_ok_of_toOption (by decide +kernel)
  have htruncate : (Number.float (Double.ofDecimal false 25 (-1))).truncate = 2 := by decide +kernel
  have hpriority : priorityOf (some (.float (Double.ofDecimal false 25 (-1)))) = .ok (.int 2) := by
    rw [← htruncate]
    exact congrArg (Except.map fun n => Value.int n.truncate) hnumber
  have hread : Json.read looseEntry = .ok (.list [.object looseFields]) := rfl
  have hentry : ofFields looseFields = .ok looseBinding :=
    ofFields_eq_ok.mpr ⟨rfl, rfl, rfl, rfl, ⟨_, hduration, rfl⟩, hpriority⟩
  have hempty : looseEntry.isEmpty = false := by decide +kernel
  have hentries : [Value.object looseFields].mapM ofEntry = .ok [looseBinding] :=
    Except.mapM_eq_ok.mpr (.cons hentry .nil)
  rw [decode, hempty, hread]
  simp only [Bool.false_eq_true, if_false, ofEntries, hentries]

theorem looseEntry_rewrites :
    (∀ b ∈ [brightLamp], b.Declared) ∧ Text.Half.isIn looseEntry = false ∧
      decode looseEntry = .ok [looseBinding] ∧
      (∃ ext again, encode [brightLamp] = .ok ext ∧ decode ext = .ok again ∧
        List.Forall₂ SensorBinding.Same [brightLamp] again) ∧
      ∃ ext', encode [looseBinding] = .ok ext' ∧ decode ext' = .ok [looseBinding] ∧
        recode (.text looseEntry) = .ok ext' ∧ recode (.text ext') = .ok ext' := by
  have hdeclared : ∀ b ∈ [brightLamp], b.Declared := by
    refine List.forall_mem_singleton.mpr ⟨⟨"7", rfl, by decide⟩, ⟨"lamp", rfl, by decide⟩,
      ⟨"red", rfl, by decide⟩, ⟨"on", rfl, by decide⟩, .inr ⟨_, rfl, by decide +kernel⟩, .inl rfl⟩
  have hwhole : Text.Half.isIn looseEntry = false := by decide +kernel
  exact ⟨hdeclared, hwhole, decode_looseEntry, rewrites.1 _ hdeclared,
    rewrites.2 _ _ hwhole decode_looseEntry⟩

end Alarm
end DetectionFlow
