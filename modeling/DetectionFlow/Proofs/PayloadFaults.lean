import DetectionFlow.Proofs.FormedPayloads

/-!
# Fields that make no payload

Building a payload fails with a fault of type in most cases: a field that the kind does not have, or a
value that cannot be used there at all. A fault of value is left to Zones and Lines alone
(`Payload.build_eq_error_iff`): a point that is no pair or has no number in it, or a direction that there
is not (`Payload.AreaFault`).
-/

namespace DetectionFlow

namespace Payload

variable {v : Value} {f : Fault}

/-! ## Faults of type -/

lemma family_toItems (h : v.toItems = .error f) : f.family = .wrongType := by
  unfold Value.toItems at h
  split at h <;> cases h
  rfl

lemma family_toDistinct (h : v.toDistinct = .error f) : f.family = .wrongType := by
  rcases Except.bind_eq_error.mp h with h | ⟨items, -, h⟩
  · exact family_toItems h
  · split at h <;> cases h
    rfl

lemma family_required {fs : Fields} {name : String}
    (h : SensorBinding.required fs name = .error f) : f.family = .wrongType := by
  unfold SensorBinding.required at h
  split at h <;> cases h
  rfl

/-- A binding has faults of type only. -/
lemma family_binding (h : SensorBinding.ofValue v = .error f) : f.family = .wrongType := by
  unfold SensorBinding.ofValue at h
  split at h
  next fs _ =>
    unfold SensorBinding.ofFields at h
    split at h
    · cases h
      rfl
    · rcases Except.bind_eq_error.mp h with h | ⟨_, -, h⟩
      · exact family_required h
      rcases Except.bind_eq_error.mp h with h | ⟨_, -, h⟩
      · exact family_required h
      rcases Except.bind_eq_error.mp h with h | ⟨_, -, h⟩
      · exact family_required h
      rcases Except.bind_eq_error.mp h with h | ⟨_, -, h⟩
      · exact family_required h
      · cases h
  next =>
    cases h
    rfl

lemma family_bindings {items : List Value} (h : items.mapM SensorBinding.ofValue = .error f) :
    f.family = .wrongType := by
  obtain ⟨_, w, _, -, -, hw⟩ := Except.mapM_eq_error.mp h
  exact family_binding hw

/-! ## Faults of areas -/

/-- A value among the fields of an area is of the right type and yet not admitted. -/
inductive AreaFault (k : Kind) (fs : Fields) : Fault → Prop
  /-- A point that is no pair, or a coordinate that denotes no double. -/
  | point {v : Value} {f : Fault} (hkind : k.isArea = true)
      (hv : fs.get? "points" = some v) (h : Point.listOfValue v = .error f)
      (hf : f.family ≠ .wrongType) : AreaFault k fs f
  /-- A direction that does not exist, beside points that are in order. -/
  | direction {v : Value} (hkind : k = .line)
      (hpoints : ∀ w, fs.get? "points" = some w → ∃ ps, Point.listOfValue w = .ok ps)
      (hv : fs.get? "direction" = some v) (h : v.text?.bind Direction.ofName? = none) :
      AreaFault k fs (.unknownDirection v)

/-- All fields are those of the kind. -/
def Named (k : Kind) (fs : Fields) : Prop := ∀ f ∈ fs, f.1 ∈ fieldNames k

variable {k : Kind} {fs : Fields}

lemma AreaFault.isArea (h : AreaFault k fs f) : k.isArea = true := by
  cases h with
  | point hkind => exact hkind
  | direction hkind =>
    subst hkind
    rfl

/-- Points that are given or those of a new area cannot be used exactly if they are given. -/
lemma points_eq_error {ps : List Point} :
    Point.listOfValue ((fs.get? "points").getD (Point.listToValue ps)) = .error f ↔
      ∃ v, fs.get? "points" = some v ∧ Point.listOfValue v = .error f := by
  cases fs.get? "points" with
  | none => simp [points_ofValue]
  | some v => simp

lemma points_eq_ok {ps qs : List Point}
    (h : Point.listOfValue ((fs.get? "points").getD (Point.listToValue ps)) = .ok qs) :
    ∀ w, fs.get? "points" = some w → ∃ ps, Point.listOfValue w = .ok ps := by
  intro w hw
  rw [hw] at h
  exact ⟨qs, h⟩

lemma directionOfValue_eq_error :
    directionOfValue v = .error f ↔
      v.text?.bind Direction.ofName? = none ∧ f = .unknownDirection v := by
  unfold directionOfValue
  cases v.text?.bind Direction.ofName? <;> simp [eq_comm]

lemma direction_eq_error {d : Direction} :
    directionOfValue ((fs.get? "direction").getD (.text d.name)) = .error f ↔
      ∃ v, fs.get? "direction" = some v ∧ v.text?.bind Direction.ofName? = none ∧
        f = .unknownDirection v := by
  cases fs.get? "direction" with
  | none => simp [directionOfValue_eq_error, Value.text?]
  | some v => simp [directionOfValue_eq_error]

/-! ## Faults of payloads -/

/-- The payload of a kind that is no area has faults of type only. -/
lemma family_build (hkind : k.isArea = false) (h : build k fs = .error f) :
    f.family = .wrongType := by
  unfold build update at h
  split at h
  · cases h
    rfl
  · cases k with
    | object =>
      rcases Except.bind_eq_error.mp h with h | ⟨_, -, h⟩
      · exact family_toDistinct h
      rcases Except.bind_eq_error.mp h with h | ⟨_, -, h⟩
      · exact family_toDistinct h
      · cases h
    | alarm =>
      rcases Except.bind_eq_error.mp h with h | ⟨_, -, h⟩
      · exact family_toItems h
      rcases Except.bind_eq_error.mp h with h | ⟨_, -, h⟩
      · exact family_bindings h
      · cases h
    | zone => cases hkind
    | line => cases hkind
    | _ => cases h

/-- Fields that a kind has are all known when its payload is built. -/
lemma find?_unknown_eq_none :
    fs.find? (fun f => !((new k).fields.map (·.1)).contains f.1) = none ↔ Named k fs := by
  simp [Named, fieldNames]

/-- The payload of a zone from fields that it has. -/
lemma build_zone (hnamed : Named .zone fs) :
    build .zone fs = do
      return zone (← Point.listOfValue ((fs.get? "points").getD (Point.listToValue Point.newZone)))
        ((fs.get? "detection_point").getD .null) := by
  unfold build update
  rw [find?_unknown_eq_none.mpr hnamed]
  rfl

/-- The payload of a line from fields that it has. -/
lemma build_line (hnamed : Named .line fs) :
    build .line fs = do
      return line (← Point.listOfValue ((fs.get? "points").getD (Point.listToValue Point.newLine)))
        (← directionOfValue ((fs.get? "direction").getD (.text Direction.both.name)))
        ((fs.get? "detection_point").getD .null) := by
  unfold build update
  rw [find?_unknown_eq_none.mpr hnamed]
  rfl

/-- A field that the kind does not have is a fault of type. -/
lemma named_of_family (h : build k fs = .error f) (hf : f.family ≠ .wrongType) : Named k fs := by
  rw [← find?_unknown_eq_none]
  unfold build update at h
  split at h
  · cases h
    exact absurd rfl hf
  · assumption

/-- A payload fails other than by type exactly if it is that of an area, all its fields are known, and a
point or the direction is not admitted. -/
theorem build_eq_error_iff :
    (build k fs = .error f ∧ f.family ≠ .wrongType) ↔ Named k fs ∧ AreaFault k fs f := by
  constructor
  · rintro ⟨h, hf⟩
    have hnamed := named_of_family h hf
    refine ⟨hnamed, ?_⟩
    cases k with
    | zone =>
      rw [build_zone hnamed] at h
      rcases Except.bind_eq_error.mp h with h | ⟨_, -, h⟩
      · obtain ⟨v, hv, h⟩ := points_eq_error.mp h
        exact .point rfl hv h hf
      · cases h
    | line =>
      rw [build_line hnamed] at h
      rcases Except.bind_eq_error.mp h with h | ⟨_, hpoints, h⟩
      · obtain ⟨v, hv, h⟩ := points_eq_error.mp h
        exact .point rfl hv h hf
      rcases Except.bind_eq_error.mp h with h | ⟨_, -, h⟩
      · obtain ⟨v, hv, hnone, rfl⟩ := direction_eq_error.mp h
        exact .direction rfl (points_eq_ok hpoints) hv hnone
      · cases h
    | _ => exact absurd (family_build rfl h) hf
  · rintro ⟨hnamed, harea⟩
    cases harea with
    | @point v f hkind hv h hf =>
      refine ⟨?_, hf⟩
      have hpoints : ∀ ps, Point.listOfValue
          ((fs.get? "points").getD (Point.listToValue ps)) = .error f :=
        fun ps => points_eq_error.mpr ⟨v, hv, h⟩
      cases k with
      | zone => rw [build_zone hnamed, hpoints]; rfl
      | line => rw [build_line hnamed, hpoints]; rfl
      | _ => cases hkind
    | @direction v hkind hpoints hv h =>
      subst hkind
      -- The points are read before the direction, so the direction is judged only if they can be read.
      have hgiven : ∃ ps, Point.listOfValue
          ((fs.get? "points").getD (Point.listToValue Point.newLine)) = .ok ps := by
        cases hfield : fs.get? "points" with
        | none => exact ⟨_, points_ofValue _⟩
        | some w => exact hpoints w hfield
      obtain ⟨ps, hps⟩ := hgiven
      refine ⟨?_, by simp [Fault.family]⟩
      rw [build_line hnamed, hps, direction_eq_error.mpr ⟨v, hv, h, rfl⟩]
      rfl

end Payload
end DetectionFlow
