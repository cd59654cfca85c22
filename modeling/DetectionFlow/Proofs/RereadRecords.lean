import DetectionFlow.Proofs.RecordReading

/-!
# Reading is stable

A raw record may be spelled in many ways: by the names of the wire or by the own names of the fields, with
numbers as texts, with nulls, with fields that nobody knows. Reading settles all of that. What is written
of the record that was read is read as that record again, so that a second pass of reading and writing
changes nothing (`Record.read_settles`).

The same theorem says how the shape of a condition is chosen, which no other field of the record shows:
exactly one of the two conditions is given, and it is the body.
-/

namespace DetectionFlow
namespace Record

open Checked Reader

/-- One pass of reading and writing. -/
def rewritten (v : Value) : Checked Value := toValue <$> read v

/-- The type that a raw record states. -/
def statedType? (fs : Fields) : Option Value :=
  (lookup fs "eventType" "event_type").map (·.2)

variable {fs : Fields} {r : Record}

/-! ## The shape of a condition -/

/-- A field that has one name is read where it is. -/
lemma required_same_eq_ok {α : Type} {key : String} {rd : Reader α} {a : α} :
    required fs key key rd = ok a ↔ ∃ v, fs.get? key = some v ∧ rd v = ok a := by
  unfold required lookup
  cases fs.get? key with
  | none => simp
  | some v => simp

/-- A condition record has the shape of the one condition that it has. -/
lemma shapeOf_condition {tag : String} {shape : Kind}
    (htype : statedType? fs = some (.text RecordType.filter.name))
    (h : shapeOf fs = ok (tag, shape)) :
    (given fs "ncond" = true ∧ given fs "timeout" = false ∧ shape = .count) ∨
      (given fs "ncond" = false ∧ given fs "timeout" = true ∧ shape = .timeout) := by
  have htag : ∀ {count timeout : Bool}, given fs "ncond" = count → given fs "timeout" = timeout →
      tagValue fs = if count then (if timeout then none else some (.text "Filter:ncond"))
        else if timeout then some (.text "Filter:timeout") else none := by
    intro count timeout hcount htimeout
    rw [tagValue, ← statedType?, htype, hcount, htimeout]
    cases count <;> cases timeout <;> rfl
  cases hcount : given fs "ncond" <;> cases htimeout : given fs "timeout" <;>
    rw [shapeOf, htag hcount htimeout] at h
  · exact absurd h wrong_ne_ok
  · have hshape : ("Filter:timeout", Kind.timeout) = (tag, shape) := ok_inj.mp h
    exact .inr ⟨rfl, rfl, (Prod.mk.inj hshape).2.symm⟩
  · have hshape : ("Filter:ncond", Kind.count) = (tag, shape) := ok_inj.mp h
    exact .inl ⟨rfl, rfl, (Prod.mk.inj hshape).2.symm⟩
  · exact absurd h wrong_ne_ok

/-- A text that is read from a JSON value is that text. -/
lemma text_of_isJson {v : Value} (hv : v.IsJson) {s : String} (h : Reader.text v = ok s) :
    v = .text s := by
  cases hv with
  | text t => rw [ok_inj.mp ((text_text t).symm.trans h)]
  | _ => exact absurd h broken_ne_ok

/-- The condition that is given is the body of the record. -/
lemma body_of_condition (hjson : (Value.object fs).IsJson) (h : read (.object fs) = ok r)
    (htype : statedType? fs = some (.text RecordType.filter.name)) :
    (given fs "ncond" = true ∧ given fs "timeout" = false ∧
        ∃ condition, fs.get? "ncond" = some (.text condition) ∧ r.body = .count condition) ∨
      (given fs "ncond" = false ∧ given fs "timeout" = true ∧
        ∃ v length, fs.get? "timeout" = some v ∧ seconds v = ok length ∧
          r.body = .timeout length) := by
  obtain ⟨⟨tag, shape⟩, hshape, hread⟩ := andThen_eq_ok.mp h
  obtain ⟨-, -, -, -, hbody⟩ := checkFields_eq_ok.mp (under_eq_ok.mp hread)
  rcases shapeOf_condition htype hshape with ⟨hcount, htimeout, rfl⟩ | ⟨hcount, htimeout, rfl⟩
  · obtain ⟨condition, hcondition, hmade⟩ := map_eq_ok.mp hbody
    obtain ⟨v, hv, htext⟩ := required_same_eq_ok.mp hcondition
    cases hjson with
    | object hfields =>
      obtain rfl := text_of_isJson (hfields _ (Fields.get?_eq_some hv)) htext
      exact .inl ⟨hcount, htimeout, condition, hv, hmade.symm⟩
  · obtain ⟨length, hlength, hmade⟩ := map_eq_ok.mp hbody
    obtain ⟨v, hv, hseconds⟩ := required_same_eq_ok.mp hlength
    exact .inr ⟨hcount, htimeout, v, length, hv, hseconds, hmade.symm⟩

/-! ## A second pass -/

/-- What is written of a record that was read is read as that record, all its fields as they were, and
written again as it stands. A condition record is only read if exactly one of its two conditions is given,
which makes its body. -/
theorem read_settles (hjson : (Value.object fs).IsJson) (h : read (.object fs) = ok r) :
    read r.toValue = ok r ∧
      rewritten (.object fs) = ok r.toValue ∧
      rewritten r.toValue = ok r.toValue ∧
      (statedType? fs = some (.text RecordType.filter.name) →
        (given fs "ncond" = true ∧ given fs "timeout" = false ∧
            ∃ condition, fs.get? "ncond" = some (.text condition) ∧ r.body = .count condition) ∨
          (given fs "ncond" = false ∧ given fs "timeout" = true ∧
            ∃ v length, fs.get? "timeout" = some v ∧ seconds v = ok length ∧
              r.body = .timeout length)) := by
  have hreread : read r.toValue = ok r := read_toValue (sound_of_read hjson h)
  exact ⟨hreread, map_eq_ok.mpr ⟨r, h, rfl⟩, map_eq_ok.mpr ⟨r, hreread, rfl⟩,
    body_of_condition hjson h⟩

/-- A waiting time under the own names of its fields: the time is a text, the other condition is null and
one field is unknown. -/
def looseTimeout : Fields :=
  [("colour", .int 3), ("event_setting_id", .text "wait"), ("event_type", .text "Filter"),
   ("ncond", .null), ("timeout", .text "5.0")]

def settledTimeout : Record := ⟨"wait", "", none, .timeout (.int 5)⟩

lemma looseTimeout_isJson : (Value.object looseTimeout).IsJson := by
  simp [looseTimeout, Value.isJson_object, Value.IsJson.int, Value.IsJson.text, Value.IsJson.null]

theorem looseTimeout_settles :
    read (.object looseTimeout) = ok settledTimeout ∧
      read settledTimeout.toValue = ok settledTimeout ∧
      rewritten (.object looseTimeout) = ok settledTimeout.toValue ∧
      rewritten settledTimeout.toValue = ok settledTimeout.toValue ∧
      statedType? looseTimeout = some (.text RecordType.filter.name) ∧
      ∃ v length, looseTimeout.get? "timeout" = some v ∧ seconds v = ok length ∧
        settledTimeout.body = .timeout length := by
  have hread : read (.object looseTimeout) = ok settledTimeout := rfl
  have htype : statedType? looseTimeout = some (.text RecordType.filter.name) := rfl
  obtain ⟨hreread, hwritten, hagain, hcondition⟩ := read_settles looseTimeout_isJson hread
  refine ⟨hread, hreread, hwritten, hagain, htype, ?_⟩
  rcases hcondition htype with ⟨hcount, -⟩ | ⟨-, -, hbody⟩
  · exact absurd hcount (by decide)
  · exact hbody

end Record
end DetectionFlow
