import DetectionFlow.Proofs.RecordAccounting
import DetectionFlow.Proofs.ResavedGraphs

/-!
# Forests of records

Records that a graph compiles to hang together in chains that do not branch (`Record.Forest`). Such records
are restored without a loss, be it from what is written of them or from themselves
(`Saved.restore_forest`): none is dropped, each finds a place, and each is joined to its parent.
-/

namespace DetectionFlow

namespace Record

/-- A record hangs so many links below one without a parent. -/
inductive Hangs (rs : List Record) : Record → Nat → Prop
  | root {r : Record} (hr : r ∈ rs) (hparent : r.parent = none) : Hangs rs r 0
  | link {r p : Record} {n : Nat} (hr : r ∈ rs) (hparent : r.parent = some p.id)
      (hp : Hangs rs p n) : Hangs rs r (n + 1)

/-- Sound records in chains that end, of which each can be restored. -/
structure Forest (rs : List Record) : Prop where
  sound : ∀ r ∈ rs, r.Sound
  nodup : (rs.map (·.id)).Nodup
  parents : ∀ r ∈ rs, ∀ p, r.parent = some p → ∃ s ∈ rs, s.id = p ∧ s.body.kind ≠ .alarm
  single : ∀ r ∈ rs, ∀ s ∈ rs, ∀ p, r.parent = some p → s.parent = some p → r = s
  short : ∀ r ∈ rs, ∃ n ≤ 10, Hangs rs r n
  readable : ∀ r ∈ rs, ∀ ext, r.body = .alarm ext → ∃ bindings, Alarm.decode ext = .ok bindings

end Record

namespace Saved

open Placed

/-! ## Entries that read as records -/

/-- The entry is judged to be a record, and states its identifier. -/
structure Reads (s : Saved) (r : Record) : Prop where
  judged : s.judge = .ok (.keep r)
  stated : s.id? = some r.id

lemma Reads.typeIsNoKey {s : Saved} {r : Record} (h : s.Reads r) : s.typeIsNoKey = false := by
  rw [← Bool.not_eq_true, ← judge_fails, h.judged]
  simp

/-- An entry that reads as a new record is kept without a word. -/
lemma Reads.siftOne_new {s : Saved} {r : Record} (h : s.Reads r) {acc : Sifted}
    (hnew : r.id ∉ acc.kept.map (·.id)) :
    siftOne acc s = ⟨[], .ok { acc with kept := acc.kept ++ [r] }⟩ := by
  have hany : acc.kept.any (·.id = r.id) = false := by
    rw [← Bool.not_eq_true, List.any_eq_true]
    rintro ⟨k, hk, hid⟩
    exact hnew (decide_eq_true_iff.mp hid ▸ List.mem_map_of_mem hk)
  have hok : (Noted.ofFault s.judge).result = .ok (.keep r) := by
    rw [h.judged]
    rfl
  have hsilent : (Noted.ofFault s.judge).notices = [] := by
    rw [h.judged]
    rfl
  rw [Saved.siftOne, Noted.bind_of_ok hok, hsilent]
  dsimp only
  rw [hany]
  rfl

section Entries

variable {entries : List Saved} {rs : List Record} (h : List.Forall₂ Reads entries rs)

include h

lemma keys_of_reads : ∀ s ∈ entries, s.typeIsNoKey = false := by
  intro s hs
  obtain ⟨r, -, hreads⟩ := exists_of_forall₂ h hs
  exact hreads.typeIsNoKey

lemma present_of_reads : present entries = rs.map (·.id) := by
  induction h with
  | nil => rfl
  | cons hreads _ ih =>
    rw [present, List.filterMap_cons, hreads.stated]
    exact congrArg _ ih

lemma foldlM_siftOne_of_nodup {acc : Sifted} (hids : ((acc.kept ++ rs).map (·.id)).Nodup) :
    entries.foldlM Saved.siftOne acc = ⟨[], .ok { acc with kept := acc.kept ++ rs }⟩ := by
  induction h generalizing acc with
  | nil =>
    rw [List.append_nil]
    rfl
  | @cons s r entries rs hreads _ ih =>
    have hnew : r.id ∉ acc.kept.map (·.id) := by
      rw [List.map_append, List.map_cons] at hids
      intro hmem
      exact List.disjoint_of_nodup_append hids hmem List.mem_cons_self
    have hids' : ((acc.kept ++ [r] ++ rs).map (·.id)).Nodup := by
      rwa [List.append_assoc, List.singleton_append]
    have hstep := hreads.siftOne_new hnew
    have hresult : (Saved.siftOne acc s).result = .ok { acc with kept := acc.kept ++ [r] } := by
      rw [hstep]
    rw [List.foldlM_cons, Noted.bind_of_ok hresult, hstep, ih hids', List.append_assoc]
    rfl

/-- Entries that read as records with distinct identifiers are kept without a word. -/
lemma sift_of_nodup (hids : (rs.map (·.id)).Nodup) : sift entries = ⟨[], .ok ⟨rs, []⟩⟩ := by
  have hfold := @foldlM_siftOne_of_nodup entries rs h ⟨[], []⟩ hids
  rwa [List.nil_append] at hfold

lemma sifted_of_nodup (hids : (rs.map (·.id)).Nodup) : sifted entries = ⟨rs, []⟩ := by
  have hresult := sift_ok (keys_of_reads h)
  rw [sift_of_nodup h hids] at hresult
  exact (Except.ok.inj hresult).symm

end Entries

/-! ## Entries that hold records -/

/-- The entry is a record, or what is written of one. -/
def Holds (s : Saved) (r : Record) : Prop := s = .record r ∨ s = .raw r.toValue

lemma typeOf_fields (r : Record) :
    typeOf r.fields = .ok (.text r.body.recordType.name, some r.body.recordType) := by
  have htype : Fields.get? r.fields "eventType" = some (.text r.body.recordType.name) := by
    obtain ⟨id, name, parent, body⟩ := r
    cases parent <;> rfl
  rw [typeOf, htype]
  simp [Value.isKey, Value.text?]

/-- An entry that holds a sound record reads as that record. -/
lemma Holds.reads {s : Saved} {r : Record} (h : s.Holds r) (hr : r.Sound) : s.Reads r := by
  rcases h with rfl | rfl
  · exact ⟨rfl, rfl⟩
  · refine ⟨?_, rfl⟩
    have hread : Record.read (.object r.fields) = Checked.ok r := Record.read_toValue hr
    show judgeFields _ r.fields = _
    rw [judgeFields, typeOf_fields]
    simp only [bind, Except.bind, hread]
    rfl

lemma reads_of_holds {entries : List Saved} {rs : List Record} (h : List.Forall₂ Holds entries rs)
    (hsound : ∀ r ∈ rs, r.Sound) : List.Forall₂ Reads entries rs := by
  induction h with
  | nil => exact .nil
  | cons hholds _ ih =>
    obtain ⟨hr, hrs⟩ := List.forall_mem_cons.mp hsound
    exact .cons (hholds.reads hr) (ih hrs)

/-! ## Forests -/

section Forests

variable {entries : List Saved} {rs : List Record} (h : List.Forall₂ Holds entries rs)
  (hforest : Record.Forest rs)

include h hforest

lemma reads_of_forest : List.Forall₂ Reads entries rs := reads_of_holds h hforest.sound

lemma kept_of_forest : kept entries = rs := by
  rw [← sifted_kept, sifted_of_nodup (reads_of_forest h hforest) hforest.nodup]

/-- Exactly the records without a parent start a chain. -/
lemma startsChain_iff_of_forest {r : Record} (hr : r ∈ rs) :
    StartsChain entries r ↔ r.parent = none := by
  unfold StartsChain
  cases hparent : r.parent with
  | none => simp
  | some p =>
    obtain ⟨s, hs, rfl, hkind⟩ := hforest.parents r hr p hparent
    have hnonempty := (hforest.sound s hs).nonempty
    rw [present_of_reads (reads_of_forest h hforest), kept_of_forest h hforest]
    simp only [reduceCtorEq, iff_false, not_or, not_not, not_exists, not_and]
    refine ⟨?_, List.mem_map_of_mem hs, fun t ht hid halarm => hkind ?_⟩
    · rwa [← String.isEmpty_iff, Bool.not_eq_true]
    · rwa [List.inj_on_of_nodup_map hforest.nodup hs ht hid.symm]

/-- The depth of a record is what it hangs below one without a parent. -/
lemma hasDepth_iff_of_forest {r : Record} {n : Nat} :
    HasDepth entries r n ↔ Record.Hangs rs r n := by
  have hkept := kept_of_forest h hforest
  constructor
  · intro hdepth
    induction hdepth with
    | start hr hstart =>
      rw [hkept] at hr
      exact .root hr ((startsChain_iff_of_forest h hforest hr).mp hstart)
    | link hr _ hparent _ ih => exact .link (hkept ▸ hr) hparent ih
  · intro hhangs
    induction hhangs with
    | root hr hparent =>
      exact .start (hkept.symm ▸ hr) ((startsChain_iff_of_forest h hforest hr).mpr hparent)
    | link hr hparent _ ih =>
      refine .link (hkept.symm ▸ hr) ?_ hparent ih
      rw [startsChain_iff_of_forest h hforest hr, hparent]
      simp

/-- No record of a forest waits in vain. -/
lemma waiting_of_forest : (placing entries).waiting = [] := by
  rw [waiting_eq, kept_of_forest h hforest, List.filter_eq_nil_iff]
  intro r hr
  obtain ⟨n, hn, hhangs⟩ := hforest.short r hr
  rw [decide_eq_true_iff]
  exact fun hunplaced => hunplaced n hn ((hasDepth_iff_of_forest h hforest).mpr hhangs)

/-- All records of a forest are placed. -/
lemma placedRecords_perm_of_forest : (placedRecords entries).Perm rs := by
  have hperm := placing_perm entries
  rwa [waiting_of_forest h hforest, List.append_nil, placed_records,
    kept_of_forest h hforest] at hperm

/-- Every record with a parent is its only child, so it is the last. -/
lemma lastLink?_of_forest {r : Record} (hr : r ∈ rs) :
    lastLink? entries r = r.parent.map (·, r.id) := by
  unfold lastLink?
  cases hparent : r.parent with
  | none => simp
  | some p =>
    rw [if_pos]
    have hstart : ¬ StartsChain entries r := by
      rw [startsChain_iff_of_forest h hforest hr, hparent]
      simp
    refine ⟨hstart, fun s hpair _ hsParent => ?_⟩
    rw [kept_of_forest h hforest] at hpair
    have hs : s ∈ rs := hpair.subset (by simp)
    obtain rfl := hforest.single r hr s hs p hparent (hsParent.trans hparent)
    have hnodup := hpair.nodup hforest.nodup.of_map
    simp at hnodup

lemma resaved_of_forest {r : Record} (hr : r ∈ rs) :
    resaved entries r = ⟨r.id, labelOf r, r.parent, r.body.resaved⟩ := by
  rw [resaved, lastLink?_of_forest h hforest hr, Option.map_map]
  congr
  exact Option.map_id'

/-! ## Restoring a forest -/

/-- Nothing is said about the shape of a forest. -/
lemma shapeNotices_of_forest : shapeNotices entries = [] := by
  have hclosed : ∀ r ∈ kept entries, closedNotice? (present entries) (kept entries) r = none := by
    intro r hr
    have hopen : closedParent? (kept entries) r = none := by
      rw [← Option.not_isSome_iff_eq_none, closedParent?_isSome]
      rintro ⟨p, hp, s, hs, hid, halarm⟩
      rw [kept_of_forest h hforest] at hr hs
      obtain ⟨t, ht, hid', hkind⟩ := hforest.parents r hr p hp
      obtain rfl := List.inj_on_of_nodup_map hforest.nodup hs ht (hid.trans hid'.symm)
      exact hkind halarm
    rw [closedNotice?, hopen]
    split <;> rfl
  rw [shapeNotices, waiting_of_forest h hforest, List.map_nil, List.append_nil,
    List.filterMap_eq_nil_iff]
  exact hclosed

/-- No two placed records have one parent. -/
lemma links_sources_nodup_of_forest :
    ((links (placing entries).placed).map (·.1)).Nodup := by
  refine List.Nodup.map_on (fun l hl m hm hsource => ?_) (@links_targets_nodup entries).of_map
  obtain ⟨t, ht, -, htParent, htId⟩ := mem_links.mp hl
  obtain ⟨u, hu, -, huParent, huId⟩ := mem_links.mp hm
  have hkept := kept_of_forest h hforest
  have htMem : t.record ∈ rs := hkept ▸ mem_kept_of_placed ht
  have huMem : u.record ∈ rs := hkept ▸ mem_kept_of_placed hu
  have hsame : t.record = u.record :=
    hforest.single t.record htMem u.record huMem l.1 htParent (hsource ▸ huParent)
  exact Prod.ext hsource (by rw [← htId, ← huId, hsame])

omit h hforest in
/-- A record whose text can be read, if it is an alarm, is restored without a word. -/
lemma payloadOf_of_readable {r : Record}
    (hreadable : ∀ ext, r.body = .alarm ext → ∃ bindings, Alarm.decode ext = .ok bindings) :
    payloadOf r = .done r.body.payload := by
  unfold payloadOf
  cases hbody : r.body with
  | alarm ext =>
    obtain ⟨bindings, hdecode⟩ := hreadable ext hbody
    rw [Body.payload, Alarm.restored_of_decode hdecode]
    simp only [hdecode]
  | _ => rfl

/-- The nodes of a forest, in the order of their placement. -/
lemma nodes_of_forest {t : Placed} (ht : t ∈ (placing entries).placed) :
    nodeOf t = ⟨[], .ok ⟨t.record.id, labelOf t.record,
      [.float (Double.ofInt t.x), .float (Double.ofInt t.y)], t.record.body.payload⟩⟩ := by
  have hmem : t.record ∈ rs := kept_of_forest h hforest ▸ mem_kept_of_placed ht
  rw [nodeOf, payloadOf_of_readable (hforest.readable t.record hmem)]
  rfl

/-- A forest is restored without a loss. The only warning there may be is about targets. -/
theorem restore_forest {ids : IdSource} (hfresh : ids.Fresh entries.length) :
    ∃ restored ids', (restore entries ids).result = .ok (restored, ids') ∧
      restored.dropped = [] ∧ restored.unplaced = [] ∧
      (targeted rs = [] → restored.warnings = []) := by
  have hkept := kept_of_forest h hforest
  have hreads := reads_of_forest h hforest
  have hkeys := keys_of_reads hreads
  have hnodes : List.Forall₂ (fun t n => (nodeOf t).result = .ok n) (placing entries).placed
      ((placing entries).placed.map fun t => (⟨t.record.id, labelOf t.record,
        [.float (Double.ofInt t.x), .float (Double.ofInt t.y)], t.record.body.payload⟩ : Node)) := by
    rw [List.forall₂_map_right_iff, List.forall₂_same]
    intro t ht
    rw [nodes_of_forest h hforest ht]
  have hsilent : (placing entries).placed.flatMap (fun t => (nodeOf t).notices) = [] := by
    rw [List.flatMap_eq_nil_iff]
    intro t ht
    rw [nodes_of_forest h hforest ht]
  obtain ⟨connecting, hnoted, hconnecting⟩ := restoreNoted_eq hkeys hnodes hfresh
  rw [hconnecting (links_sources_nodup_of_forest h hforest), hsilent,
    shapeNotices_of_forest h hforest, sift_of_nodup hreads hforest.nodup, hkept,
    sifted_of_nodup hreads hforest.nodup, waiting_of_forest h hforest] at hnoted
  refine ⟨⟨_, [], [], _⟩, _, restore_result_eq_ok.mpr ⟨congrArg Noted.result hnoted, rfl⟩, rfl, rfl, ?_⟩
  intro htargeted
  rw [hnoted, targetNotices, htargeted]
  rfl

end Forests

end Saved
end DetectionFlow
