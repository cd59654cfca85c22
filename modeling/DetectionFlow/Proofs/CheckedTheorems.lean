import DetectionFlow.Record.Reader
import Mathlib

/-!
# What a reader accepts

Success of a `Checked` computation in terms of its parts, and from that what it means that a record was
read: each field of its header was read on its own, and so was its body (`Record.checkFields_eq_ok`).
-/

namespace DetectionFlow

/-! ## Checked computations -/

namespace Checked

variable {α β : Type}

lemma ok_or_broken (c : Checked α) : (∃ a, c = ok a) ∨ ∃ vs, c = broken vs := by
  cases c with
  | error vs => exact .inr ⟨vs, rfl⟩
  | ok a => exact .inl ⟨a, rfl⟩

@[simp] lemma ok_inj {a b : α} : (ok a : Checked α) = ok b ↔ a = b :=
  ⟨fun h => Except.ok.inj h, fun h => h ▸ rfl⟩

@[simp] lemma broken_ne_ok {vs : List Violation} {a : α} : (broken vs : Checked α) ≠ ok a := by
  rintro ⟨⟩

@[simp] lemma wrong_ne_ok {name : String} {a : α} : (wrong name : Checked α) ≠ ok a := broken_ne_ok

@[simp] lemma ok_ne_wrong {name : String} {a : α} : ok a ≠ (wrong name : Checked α) :=
  wrong_ne_ok.symm

lemma map_eq_ok {f : α → β} {c : Checked α} {b : β} :
    f <$> c = ok b ↔ ∃ a, c = ok a ∧ f a = b := by
  rcases c.ok_or_broken with ⟨a, rfl⟩ | ⟨vs, rfl⟩
  · have hmap : f <$> (ok a : Checked α) = ok (f a) := rfl
    simp [hmap]
  · have hmap : f <$> (broken vs : Checked α) = broken vs := rfl
    simp [hmap]

lemma seq_eq_ok {f : Checked (α → β)} {c : Checked α} {b : β} :
    f <*> c = ok b ↔ ∃ g a, f = ok g ∧ c = ok a ∧ g a = b := by
  rcases f.ok_or_broken with ⟨g, rfl⟩ | ⟨vs, rfl⟩ <;>
    rcases c.ok_or_broken with ⟨a, rfl⟩ | ⟨ws, rfl⟩
  · have hseq : (ok g : Checked (α → β)) <*> ok a = ok (g a) := rfl
    simp [hseq]
  · have hseq : (ok g : Checked (α → β)) <*> broken ws = broken ws := rfl
    simp [hseq]
  · have hseq : (broken vs : Checked (α → β)) <*> ok a = broken vs := rfl
    simp [hseq]
  · have hseq : (broken vs : Checked (α → β)) <*> broken ws = broken (vs ++ ws) := rfl
    simp [hseq]

@[simp] lemma ok_andThen (a : α) (f : α → Checked β) : (ok a).andThen f = f a := rfl

@[simp] lemma broken_andThen (vs : List Violation) (f : α → Checked β) :
    (broken vs).andThen f = broken vs := rfl

lemma andThen_eq_ok {c : Checked α} {f : α → Checked β} {b : β} :
    c.andThen f = ok b ↔ ∃ a, c = ok a ∧ f a = ok b := by
  rcases c.ok_or_broken with ⟨a, rfl⟩ | ⟨vs, rfl⟩ <;> simp

@[simp] lemma under_eq_ok {s : Step} {c : Checked α} {a : α} : c.under s = ok a ↔ c = ok a := by
  rcases c.ok_or_broken with ⟨b, rfl⟩ | ⟨vs, rfl⟩
  · rfl
  · have hunder : (broken vs : Checked α).under s =
        broken (vs.map fun v => { v with path := s :: v.path }) := rfl
    simp [hunder]

lemma toFailure_eq_ok {c : Checked α} {a : α} : c.toFailure = .ok a ↔ c = ok a := by
  rcases c.ok_or_broken with ⟨b, rfl⟩ | ⟨vs, rfl⟩
  · have hfailure : (ok b : Checked α).toFailure = .ok b := rfl
    simp [hfailure]
  · have hfailure : (broken vs : Checked α).toFailure = .error (.schema vs) := rfl
    simp [hfailure]

/-- All of a list of computations succeed exactly if each one does. -/
lemma sequence_eq_ok {cs : List (Checked α)} {as : List α} :
    sequence cs = ok as ↔ List.Forall₂ (fun c a => c = ok a) cs as := by
  induction cs generalizing as with
  | nil => simp [sequence, eq_comm]
  | cons c rest ih =>
    have hstep : sequence (c :: rest) = (List.cons <$> c) <*> sequence rest := rfl
    rw [hstep, seq_eq_ok]
    constructor
    · rintro ⟨g, as', hg, has', rfl⟩
      obtain ⟨a, rfl, rfl⟩ := map_eq_ok.mp hg
      exact .cons rfl (ih.mp has')
    · rintro (_ | ⟨rfl, hrest⟩)
      exact ⟨_, _, map_eq_ok.mpr ⟨_, rfl, rfl⟩, ih.mpr hrest, rfl⟩

end Checked

open Checked

/-! ## Texts -/

namespace Reader

lemma text_text (s : String) : text (.text s) = ok s := by
  unfold text Wording.of
  by_cases hhalf : Text.Half.isIn s <;> simp [hhalf]

/-- A name is a text that is not empty and has no half of a character in it. -/
lemma name_text {s t : String} :
    name (.text s) = ok t ↔ t = s ∧ s.isEmpty = false ∧ Text.Half.isIn s = false := by
  unfold name
  rw [text_text]
  by_cases hhalf : Text.Half.isIn s
  · simp [Wording.of, hhalf]
  · simp only [Wording.of, hhalf, Bool.false_eq_true, if_false, andThen_eq_ok, ok_inj,
      exists_eq_left', and_true]
    by_cases hempty : s.isEmpty <;> simp [hempty, eq_comm]

lemma name_half {s : String} (h : Text.Half.isIn s = true) :
    name (.text s) = wrong "string_unicode" := by
  simp [name, Wording.of, h]

lemma nullable_text_ofText? (s : Option String) :
    nullable text (Value.ofText? s) = ok s := by
  cases s with
  | none => rfl
  | some s =>
    show Checked.map some (text (.text s)) = ok (some s)
    rw [text_text]
    rfl

end Reader

/-! ## Records -/

namespace Record

open Reader

/-- A record is read field by field. -/
lemma checkFields_eq_ok {shape : Kind} {fs : Fields} {r : Record} :
    checkFields shape fs = ok r ↔
      required fs "eventSettingId" "event_setting_id" Reader.name = ok r.id ∧
      optional fs "eventSettingName" "event_setting_name" "" text = ok r.name ∧
      optional fs "parentId" "parent_id" none (nullable text) = ok r.parent ∧
      typeField shape fs = ok () ∧
      bodyOf shape fs = ok r.body := by
  unfold checkFields
  simp only [seq_eq_ok, map_eq_ok]
  constructor
  · rintro ⟨_, body, ⟨_, _, ⟨_, parent, ⟨_, label, ⟨id, hid, rfl⟩, hname, rfl⟩, hparent, rfl⟩, htype,
      rfl⟩, hbody, rfl⟩
    exact ⟨hid, hname, hparent, htype, hbody⟩
  · rintro ⟨hid, hname, hparent, htype, hbody⟩
    exact ⟨_, _, ⟨_, _, ⟨_, _, ⟨_, _, ⟨_, hid, rfl⟩, hname, rfl⟩, hparent, rfl⟩, htype, rfl⟩, hbody,
      rfl⟩

/-- A zone is read part by part. -/
lemma bodyOf_zone_eq_ok {fs : Fields} {b : Body} :
    bodyOf .zone fs = ok b ↔ ∃ points target detectionPoint,
      required fs "points" "points" (listMin 3 point) = ok points ∧ targetField fs = ok target ∧
      detectionPointField fs = ok detectionPoint ∧ .zone points target detectionPoint = b := by
  simp only [bodyOf, seq_eq_ok, map_eq_ok]
  constructor
  · rintro ⟨_, _, ⟨_, _, ⟨points, hpoints, rfl⟩, htarget, rfl⟩, hdetection, rfl⟩
    exact ⟨points, _, _, hpoints, htarget, hdetection, rfl⟩
  · rintro ⟨points, _, _, hpoints, htarget, hdetection, rfl⟩
    exact ⟨_, _, ⟨_, _, ⟨points, hpoints, rfl⟩, htarget, rfl⟩, hdetection, rfl⟩

/-- A line is read part by part. -/
lemma bodyOf_line_eq_ok {fs : Fields} {b : Body} :
    bodyOf .line fs = ok b ↔ ∃ points direction target detectionPoint,
      required fs "points" "points" (listOf 2 point) = ok points ∧
      optional fs "direction" "direction" .both (oneOf Direction.ofName?) = ok direction ∧
      targetField fs = ok target ∧ detectionPointField fs = ok detectionPoint ∧
      .line points direction target detectionPoint = b := by
  simp only [bodyOf, seq_eq_ok, map_eq_ok]
  constructor
  · rintro ⟨_, _, ⟨_, _, ⟨_, _, ⟨points, hpoints, rfl⟩, hdirection, rfl⟩, htarget, rfl⟩, hdetection, rfl⟩
    exact ⟨points, _, _, _, hpoints, hdirection, htarget, hdetection, rfl⟩
  · rintro ⟨points, _, _, _, hpoints, hdirection, htarget, hdetection, rfl⟩
    exact ⟨_, _, ⟨_, _, ⟨_, _, ⟨points, hpoints, rfl⟩, hdirection, rfl⟩, htarget, rfl⟩, hdetection, rfl⟩

/-- The body that is read for a shape is of that shape. -/
lemma kind_bodyOf {shape : Kind} {fs : Fields} {b : Body} (h : bodyOf shape fs = ok b) :
    b.kind = shape := by
  cases shape with
  | zone =>
    obtain ⟨_, _, _, -, -, -, rfl⟩ := bodyOf_zone_eq_ok.mp h
    rfl
  | line =>
    obtain ⟨_, _, _, _, -, -, -, -, rfl⟩ := bodyOf_line_eq_ok.mp h
    rfl
  | object => exact absurd h wrong_ne_ok
  | event => exact absurd h wrong_ne_ok
  | _ =>
    obtain ⟨_, -, rfl⟩ := map_eq_ok.mp h
    rfl

end Record
end DetectionFlow
