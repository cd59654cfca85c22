import DetectionFlow.Proofs.RecordForests

/-!
# Saving twice settles the records

Whatever was saved, once it was restored and saved again it is a forest of records that restoring and
saving leaves as they are (`Saved.forest_resaved`, `Saved.resaved_of_settled`): all that is lost is lost the
first time. Only their order may change once more, since records are saved by depth
(`Saved.placedRecords_placedRecords`). `Saved.resave_settles` puts this together for three rounds.
-/

namespace DetectionFlow

namespace Record

variable {rs rs' : List Record}

lemma Hangs.mono (hsub : rs ⊆ rs') {r : Record} {n : Nat} (h : Hangs rs r n) : Hangs rs' r n := by
  induction h with
  | root hr hparent => exact .root (hsub hr) hparent
  | link hr hparent _ ih => exact .link (hsub hr) hparent ih

/-- The order of its records does not make a forest. -/
lemma Forest.perm (h : Forest rs) (hperm : rs'.Perm rs) : Forest rs' where
  sound r hr := h.sound r (hperm.subset hr)
  nodup := (hperm.map _).nodup_iff.mpr h.nodup
  parents r hr p hp := by
    obtain ⟨s, hs, hid⟩ := h.parents r (hperm.subset hr) p hp
    exact ⟨s, hperm.symm.subset hs, hid⟩
  single r hr s hs p hp hq := h.single r (hperm.subset hr) s (hperm.subset hs) p hp hq
  short r hr := by
    obtain ⟨n, hn, hhangs⟩ := h.short r (hperm.subset hr)
    exact ⟨n, hn, hhangs.mono hperm.symm.subset⟩
  readable r hr := h.readable r (hperm.subset hr)

/-- Restoring and saving leave the record as it is. -/
structure Settled (r : Record) : Prop where
  named : r.name.isEmpty = false
  body : r.body.resaved = r.body

end Record

namespace Saved

open Placed

/-! ## Records that were saved again -/

section Resaved

variable {entries : List Saved}

lemma labelOf_nonempty (r : Record) : (labelOf r).isEmpty = false := by
  unfold labelOf
  split
  next =>
    cases r.body <;> rfl
  next h => simpa using h

/-- A record that was saved again is settled. -/
lemma settled_resaved (r : Record) : (resaved entries r).Settled :=
  ⟨labelOf_nonempty r, Body.resaved_resaved r.body⟩

lemma target?_resaved (r : Record) : (resaved entries r).body.target? = none := by
  rw [resaved]
  cases r.body <;> rfl

/-- The parent that is saved is that of which the record is the last child. -/
lemma parent_resaved {r : Record} {p : String} (h : (resaved entries r).parent = some p) :
    IsLastChild entries r ∧ r.parent = some p := by
  obtain ⟨l, hlink, rfl⟩ := Option.map_eq_some_iff.mp h
  obtain ⟨hlast, hparent, -⟩ := lastLink?_eq_some.mp hlink
  exact ⟨hlast, hparent⟩

/-- A placed record that starts no chain hangs below a placed record that is no alarm. -/
lemma exists_parent_placed {r : Record} (hr : r ∈ placedRecords entries)
    (hstart : ¬ StartsChain entries r) {p : String} (hp : r.parent = some p) :
    ∃ s ∈ placedRecords entries, s.id = p ∧ s.body.kind ≠ .alarm := by
  obtain ⟨depth, hle, hdepth⟩ := mem_placedRecords.mp hr
  cases hdepth with
  | start _ h => exact absurd h hstart
  | @link _ s depth _ _ hparent hs =>
    obtain rfl : s.id = p := Option.some.inj (hparent.symm.trans hp)
    refine ⟨s, mem_placedRecords.mpr ⟨depth, by omega, hs⟩, rfl, fun halarm => hstart ?_⟩
    rw [StartsChain, hparent]
    exact .inr (.inr ⟨s, hs.kept, rfl, halarm⟩)

/-- Where links are cut, chains get shorter. -/
lemma hangs_resaved {r : Record} {depth : Nat} (h : HasDepth entries r depth) (hle : depth ≤ 10) :
    ∃ n ≤ depth, Record.Hangs ((placedRecords entries).map (resaved entries)) (resaved entries r) n := by
  induction h with
  | @start r hr hstart =>
    have hplaced : r ∈ placedRecords entries := mem_placedRecords.mpr ⟨0, hle, .start hr hstart⟩
    have hroot : (resaved entries r).parent = none := by
      rw [resaved, lastLink?, if_neg fun hlast => hlast.1 hstart]
      rfl
    exact ⟨0, le_refl 0, .root (List.mem_map_of_mem hplaced) hroot⟩
  | @link r p depth hr hstart hparent hp ih =>
    have hplaced : r ∈ placedRecords entries :=
      mem_placedRecords.mpr ⟨depth + 1, hle, .link hr hstart hparent hp⟩
    by_cases hlast : IsLastChild entries r
    · obtain ⟨n, hn, hhangs⟩ := ih (by omega)
      refine ⟨n + 1, by omega, .link (List.mem_map_of_mem hplaced) ?_ hhangs⟩
      rw [resaved, lastLink?, if_pos hlast, hparent]
      rfl
    · have hroot : (resaved entries r).parent = none := by
        rw [resaved, lastLink?, if_neg hlast]
        rfl
      exact ⟨0, Nat.zero_le _, .root (List.mem_map_of_mem hplaced) hroot⟩

lemma placedRecords_nodup : ((placedRecords entries).map (·.id)).Nodup := by
  rw [← placed_records, List.map_map]
  exact placed_nodup entries

/-- Whatever the entries were, what is saved again is a forest. -/
theorem forest_resaved (hsound : ∀ r ∈ kept entries, r.Sound) :
    Record.Forest ((placedRecords entries).map (resaved entries)) where
  sound := by
    intro r' hr'
    obtain ⟨r, hr, rfl⟩ := List.mem_map.mp hr'
    obtain ⟨_, -, hdepth⟩ := mem_placedRecords.mp hr
    have hr := hsound r hdepth.kept
    exact ⟨hr.nonempty, hr.whole, hr.body.resaved⟩
  nodup := by
    rw [List.map_map]
    exact placedRecords_nodup
  parents := by
    intro r' hr' p hp
    obtain ⟨r, hr, rfl⟩ := List.mem_map.mp hr'
    obtain ⟨hlast, hparent⟩ := parent_resaved hp
    obtain ⟨s, hs, hid, hkind⟩ := exists_parent_placed hr hlast.1 hparent
    refine ⟨resaved entries s, List.mem_map_of_mem hs, hid, ?_⟩
    rw [resaved, Body.kind_resaved]
    exact hkind
  single := by
    intro r' hr' s' hs' p hp hq
    obtain ⟨r, hr, rfl⟩ := List.mem_map.mp hr'
    obtain ⟨s, hs, rfl⟩ := List.mem_map.mp hs'
    obtain ⟨hrLast, hrParent⟩ := parent_resaved hp
    obtain ⟨hsLast, hsParent⟩ := parent_resaved hq
    obtain ⟨_, -, hrDepth⟩ := mem_placedRecords.mp hr
    obtain ⟨_, -, hsDepth⟩ := mem_placedRecords.mp hs
    rw [hrLast.unique hrDepth.kept hsDepth.kept hsLast (hrParent.trans hsParent.symm)]
  short := by
    intro r' hr'
    obtain ⟨r, hr, rfl⟩ := List.mem_map.mp hr'
    obtain ⟨depth, hle, hdepth⟩ := mem_placedRecords.mp hr
    obtain ⟨n, hn, hhangs⟩ := hangs_resaved hdepth hle
    exact ⟨n, by omega, hhangs⟩
  readable := by
    intro r' hr' ext hext
    obtain ⟨r, hr, rfl⟩ := List.mem_map.mp hr'
    have hbody : r.body.resaved = .alarm ext := hext
    cases hr : r.body with
    | alarm old =>
      rw [hr] at hbody
      obtain rfl := Body.alarm.inj hbody
      exact ⟨_, Alarm.decode_recoded old⟩
    | _ => simp [hr, Body.resaved] at hbody

end Resaved

/-! ## Settled records -/

section Settled

variable {entries : List Saved} {rs : List Record} (h : List.Forall₂ Holds entries rs)
  (hforest : Record.Forest rs)

include h hforest

lemma resaved_of_settled {r : Record} (hr : r ∈ rs) (hsettled : r.Settled) :
    resaved entries r = r := by
  have hlabel : labelOf r = r.name := by
    rw [labelOf, hsettled.named]
    rfl
  rw [resaved_of_forest h hforest hr, hlabel, hsettled.body]

/-- The records of a restored forest that is settled are its own, by depth. -/
lemma compile_settled (hsettled : ∀ r ∈ rs, r.Settled) {ids : IdSource} {restored : Restored}
    (hyields : Yields entries ids restored) :
    restored.graph.compile = .ok ⟨⟨schemaVersion, placedRecords entries⟩, [], []⟩ := by
  have hsound : ∀ r ∈ kept entries, r.Sound := kept_of_forest h hforest ▸ hforest.sound
  have hsame : (placedRecords entries).map (resaved entries) = placedRecords entries := by
    refine (List.map_congr_left fun r hr => ?_).trans (List.map_id _)
    have hmem : r ∈ rs := (placedRecords_perm_of_forest h hforest).subset hr
    exact resaved_of_settled h hforest hmem (hsettled r hmem)
  rw [compile_restored hyields hsound, hsame]

omit h hforest in
lemma flatMap_range_single {α : Type} {f : Nat → List α} {k : Nat} (hf : ∀ d, d ≠ k → f d = [])
    (n : Nat) : (List.range n).flatMap f = if k < n then f k else [] := by
  induction n with
  | zero => rfl
  | succ n ih =>
    rw [List.range_succ, List.flatMap_append, ih, List.flatMap_singleton]
    rcases Nat.lt_trichotomy k n with hlt | rfl | hgt
    · rw [if_pos hlt, if_pos (by omega), hf n (by omega), List.append_nil]
    · simp
    · rw [if_neg (by omega), if_neg (by omega), hf n (by omega), List.append_nil]

omit h hforest in
/-- The placed records of one depth, in their order. -/
lemma filter_placedRecords {depth : Nat} (hle : depth ≤ 10) :
    (placedRecords entries).filter (fun r => decide (HasDepth entries r depth)) =
      atDepth entries depth := by
  have hother : ∀ d, d ≠ depth →
      (atDepth entries d).filter (fun r => decide (HasDepth entries r depth)) = [] := by
    intro d hd
    rw [List.filter_eq_nil_iff]
    intro r hr hdepth
    have hrow : HasDepth entries r d := of_decide_eq_true (List.mem_filter.mp hr).2
    exact hd (hrow.unique (of_decide_eq_true hdepth))
  rw [placedRecords, List.filter_flatMap, flatMap_range_single hother, if_pos (by omega), atDepth,
    List.filter_filter]
  simp only [Bool.and_self]

/-- Records that stand by depth are placed in their order. -/
theorem placedRecords_placedRecords {again : List Saved}
    (hagain : List.Forall₂ Holds again (placedRecords entries)) :
    placedRecords again = placedRecords entries := by
  have hperm := placedRecords_perm_of_forest h hforest
  have hforest' := hforest.perm hperm
  have hdepth : ∀ {r : Record} {n : Nat}, HasDepth again r n ↔ HasDepth entries r n := by
    intro r n
    rw [hasDepth_iff_of_forest hagain hforest', hasDepth_iff_of_forest h hforest]
    exact ⟨fun hr => hr.mono hperm.subset, fun hr => hr.mono hperm.symm.subset⟩
  rw [placedRecords]
  conv_rhs => rw [placedRecords]
  refine List.flatMap_congr fun depth hmem => ?_
  rw [← @filter_placedRecords entries depth (Nat.lt_succ_iff.mp (List.mem_range.mp hmem)), atDepth,
    kept_of_forest hagain hforest']
  refine List.filter_congr fun r _ => ?_
  rw [Bool.eq_iff_iff, decide_eq_true_iff, decide_eq_true_iff]
  exact hdepth

end Settled

/-! ## Three rounds -/

/-- A record that a JSON value holds is sound. -/
lemma sound_of_record? {v : Value} (hv : v.IsJson) {r : Record} (h : (raw v).record? = some r) :
    r.Sound := by
  cases hv with
  | object hfields =>
    unfold record? judge at h
    split at h
    next hjudge =>
      obtain ⟨⟨type, t⟩, -, hread⟩ := Except.bind_eq_ok.mp hjudge
      cases t with
      | none => simp [pure, Except.pure] at hread
      | some t =>
        dsimp only at hread
        split at hread
        next read hok =>
          obtain rfl := Verdict.keep.inj (Except.ok.inj hread)
          obtain rfl := Option.some.inj h
          exact Record.sound_of_read (.object hfields) hok
        next => simp [pure, Except.pure] at hread
    next => simp at h
  | _ => simp [record?, judge] at h

/-- The records that a restored graph compiles to can be restored and compiled again without a loss and
without a warning. That changes their order at most, and once more changes nothing. -/
def Settles (restored : Restored) : Prop :=
  ∃ first, restored.graph.compile = .ok first ∧
    ∀ again ids₁, List.Forall₂ Holds again first.settings.records → ids₁.Fresh again.length →
      ∃ restored₁ ids₁', (restore again ids₁).result = .ok (restored₁, ids₁') ∧
        restored₁.dropped = [] ∧ restored₁.unplaced = [] ∧ restored₁.warnings = [] ∧
        ∃ second, restored₁.graph.compile = .ok second ∧
          second.settings.records.Perm first.settings.records ∧
          ∀ more ids₂, List.Forall₂ Holds more second.settings.records → ids₂.Fresh more.length →
            ∃ restored₂ ids₂', (restore more ids₂).result = .ok (restored₂, ids₂') ∧
              restored₂.graph.compile = .ok second

/-- Whatever JSON values a graph was restored from, it settles. -/
theorem resave_settles {values : List Value} (hjson : ∀ v ∈ values, v.IsJson) {ids ids' : IdSource}
    {restored : Restored} (h : (restore (values.map raw) ids).result = .ok (restored, ids')) :
    Settles restored := by
  have hsound : ∀ r ∈ kept (values.map raw), r.Sound := by
    intro r hr
    obtain ⟨s, hs, hrecord⟩ := mem_kept hr
    obtain ⟨v, hv, rfl⟩ := List.mem_map.mp hs
    exact sound_of_record? (hjson v hv) hrecord
  refine ⟨_, compile_restored (restore_yields h) hsound, fun again ids₁ hagain hfresh₁ => ?_⟩
  have hforest := forest_resaved hsound
  have hsettled : ∀ r ∈ (placedRecords (values.map raw)).map (resaved (values.map raw)), r.Settled := by
    intro r' hr'
    obtain ⟨r, -, rfl⟩ := List.mem_map.mp hr'
    exact settled_resaved r
  obtain ⟨restored₁, ids₁', hrestored₁, hdropped, hunplaced, hwarnings⟩ :=
    restore_forest hagain hforest hfresh₁
  refine ⟨restored₁, ids₁', hrestored₁, hdropped, hunplaced, hwarnings ?_, _,
    compile_settled hagain hforest hsettled (restore_yields hrestored₁),
    placedRecords_perm_of_forest hagain hforest, fun more ids₂ hmore hfresh₂ => ?_⟩
  · rw [targeted, List.filter_eq_nil_iff]
    intro r' hr'
    obtain ⟨r, -, rfl⟩ := List.mem_map.mp hr'
    rw [target?_resaved]
    simp
  · -- The second list stands by depth already.
    have hperm := placedRecords_perm_of_forest hagain hforest
    have hforest' := hforest.perm hperm
    obtain ⟨restored₂, ids₂', hrestored₂, -⟩ := restore_forest hmore hforest' hfresh₂
    refine ⟨restored₂, ids₂', hrestored₂, ?_⟩
    rw [compile_settled hmore hforest' (fun r hr => hsettled r (hperm.subset hr))
      (restore_yields hrestored₂), placedRecords_placedRecords hagain hforest hmore]

/-- An object of texts. -/
def textObject (fs : List (String × String)) : Value := .object (fs.map fun f => (f.1, .text f.2))

lemma isJson_textObject (fs : List (String × String)) : (textObject fs).IsJson := by
  refine .object fun f hf => ?_
  obtain ⟨_, -, rfl⟩ := List.mem_map.mp hf
  exact .text _

/-- Two alarms below a merge, of which the first one stands before it and has a text that is no list. The
merge names a parent that is not there, and comes twice. -/
def tangledValues : List Value :=
  [textObject [("eventSettingId", "a"), ("eventType", "Alarm"), ("parentId", "m"), ("ext", "0")],
    textObject [("eventSettingId", "m"), ("eventType", "And"), ("parentId", "gone")],
    textObject [("eventSettingId", "b"), ("eventType", "Alarm"), ("parentId", "m")],
    textObject [("eventSettingId", "m"), ("eventType", "Speed")]]

/-- The restoration of `tangledValues`. -/
def tangledRestored : Restored where
  graph :=
    ⟨[⟨"m", "Merge#1", [.float (Double.ofInt 100), .float (Double.ofInt 0)], .merge .null⟩,
        ⟨"a", "Alarm#1", [.float (Double.ofInt 100), .float (Double.ofInt 120)], .alarm []⟩,
        ⟨"b", "Alarm#1", [.float (Double.ofInt 280), .float (Double.ofInt 120)], .alarm []⟩],
      [⟨"2", "m", "b"⟩]⟩
  dropped := ["m"]
  unplaced := []
  warnings :=
    ["a: unreadable alarm ext (ext must be a JSON array); bindings cleared",
      "m: several child records, only the last (b) stays connected"]

theorem tangledValues_settles :
    (∀ v ∈ tangledValues, v.IsJson) ∧
      (restore (tangledValues.map raw) ⟨Nat.repr, 0⟩).result =
        .ok (tangledRestored, ⟨Nat.repr, 2⟩) ∧ Settles tangledRestored := by
  have hjson : ∀ v ∈ tangledValues, v.IsJson := by
    simp [tangledValues, isJson_textObject]
  have hrestored : (restore (tangledValues.map raw) ⟨Nat.repr, 0⟩).result =
      .ok (tangledRestored, ⟨Nat.repr, 2⟩) := rfl
  exact ⟨hjson, hrestored, resave_settles hjson hrestored⟩

end Saved
end DetectionFlow
